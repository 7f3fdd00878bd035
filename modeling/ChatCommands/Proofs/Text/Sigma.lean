import Mathlib.Data.List.TakeWhile
import ChatCommands.Proofs.Text.Segments

/-!
# Lowercasing a dotted path

The segments of a path can be lowercased before they are joined, or the path as a whole afterwards. The
two differ in the capital sigma only, whose counterpart depends on whether a word ends there: for that a
dot inside a text counts for nothing, but the end of the text does.

* `SigmaAgrees`: whether a word ends at a capital sigma of the path is the same in the path and in the
  segment that it stands in.
* `lowerCut`: the lowercase form with all words cut at the dots, which is that of the segments
  (`lowerCut_join`).

**Theorem (`lower_join_iff`).** Lowercasing commutes with joining segments without dots exactly if
`SigmaAgrees`. Where it does not, the path leads elsewhere (`segments_lower_join_iff`).
-/

namespace ChatCommands

namespace Text

/-- A capital sigma ends a word between these texts, the first of them given last character first. -/
def endsWord (before after : List Char) : Bool :=
  meetsCased before && !meetsCased after

/-- The characters up to the first dot. -/
def untilDot (cs : List Char) : List Char :=
  cs.takeWhile (· ≠ '.')

theorem untilDot_cons_of_ne {c : Char} (h : c ≠ '.') (cs : List Char) :
    untilDot (c :: cs) = c :: untilDot cs := by
  simp [untilDot, h]

theorem untilDot_dot (cs : List Char) : untilDot ('.' :: cs) = [] := by
  simp [untilDot]

theorem untilDot_append_dot {p : List Char} (h : '.' ∉ p) (cs : List Char) :
    untilDot (p ++ '.' :: cs) = p := by
  induction p with
  | nil => exact untilDot_dot cs
  | cons c p ih =>
    rw [List.mem_cons, not_or] at h
    rw [List.cons_append, untilDot_cons_of_ne (Ne.symm h.1), ih h.2]

theorem untilDot_of_not_mem {p : List Char} (h : '.' ∉ p) : untilDot p = p := by
  rw [untilDot, List.takeWhile_eq_self_iff]
  intro c hc
  simpa using ne_of_mem_of_not_mem hc h

/-! ## What depends on the context -/

theorem lowerAt_sigma_eq_iff {before after before' after' : List Char} :
    lowerAt before 'Σ' after = lowerAt before' 'Σ' after' ↔
      endsWord before after = endsWord before' after' := by
  have hsigma : ∀ before after,
      lowerAt before 'Σ' after = if endsWord before after = true then ['ς'] else ['σ'] :=
    fun before after => if_pos rfl
  rw [hsigma, hsigma]
  cases endsWord before after <;> cases endsWord before' after' <;> decide

theorem lowerAt_of_ne_sigma {c : Char} (h : c ≠ 'Σ') (before after before' after' : List Char) :
    lowerAt before c after = lowerAt before' c after' := by
  rw [lowerAt, if_neg h, lowerAt, if_neg h]

theorem lowerAt_dot (before after : List Char) : lowerAt before '.' after = ['.'] :=
  lowerAt_of_not_isCapital (isCapital_exceptions '.' List.mem_cons_self) before after

theorem length_lowerAt (c : Char) (before after before' after' : List Char) :
    (lowerAt before c after).length = (lowerAt before' c after').length := by
  by_cases h : c = 'Σ'
  · subst h
    unfold lowerAt
    split_ifs <;> rfl
  · rw [lowerAt_of_ne_sigma h]

/-- The lowercase form of a text that follows the characters of `before`, last one first, where a dot
ends a text as the end of the whole does. -/
def lowerCut (before : List Char) : List Char → List Char
  | [] => []
  | c :: cs => lowerAt (untilDot before) c (untilDot cs) ++ lowerCut (c :: before) cs

/-- Cutting makes no difference exactly if it makes none to any sigma. -/
theorem lowerFrom_eq_lowerCut_iff {before cs : List Char} :
    lowerFrom before cs = lowerCut before cs ↔
      ∀ u v, cs = u ++ 'Σ' :: v →
        endsWord (u.reverse ++ before) v =
          endsWord (untilDot (u.reverse ++ before)) (untilDot v) := by
  induction cs generalizing before with
  | nil => simp [lowerFrom, lowerCut]
  | cons c cs ih =>
    have hsplit : lowerFrom before (c :: cs) = lowerCut before (c :: cs) ↔
        lowerAt before c cs = lowerAt (untilDot before) c (untilDot cs) ∧
          lowerFrom (c :: before) cs = lowerCut (c :: before) cs := by
      rw [lowerFrom, lowerCut]
      refine ⟨fun h => List.append_inj h (length_lowerAt ..), ?_⟩
      rintro ⟨hfirst, hrest⟩
      rw [hfirst, hrest]
    rw [hsplit, ih]
    constructor
    · rintro ⟨hfirst, hrest⟩ u v huv
      cases u with
      | nil =>
        obtain ⟨rfl, rfl⟩ := List.cons.inj huv
        exact lowerAt_sigma_eq_iff.1 hfirst
      | cons d u =>
        obtain ⟨rfl, hcs⟩ := List.cons.inj huv
        simpa using hrest u v hcs
    · intro hall
      refine ⟨?_, fun u v huv => ?_⟩
      · by_cases hc : c = 'Σ'
        · subst hc
          exact lowerAt_sigma_eq_iff.2 (hall [] cs rfl)
        · exact lowerAt_of_ne_sigma hc ..
      · simpa using hall (c :: u) v (congrArg (c :: ·) huv)

/-! ## Segment by segment -/

theorem lowerCut_of_dot_not_mem {p : List Char} (h : '.' ∉ p) (before : List Char) :
    lowerCut before p = lowerFrom (untilDot before) p := by
  induction p generalizing before with
  | nil => rfl
  | cons c p ih =>
    rw [List.mem_cons, not_or] at h
    rw [lowerCut, lowerFrom, ih h.2, untilDot_of_not_mem h.2, untilDot_cons_of_ne (Ne.symm h.1)]

/-- The text after a dot starts afresh. -/
theorem lowerCut_append_dot {p : List Char} (h : '.' ∉ p) (before cs : List Char) :
    ∃ before', lowerCut before (p ++ '.' :: cs) =
      lowerFrom (untilDot before) p ++ '.' :: lowerCut ('.' :: before') cs := by
  induction p generalizing before with
  | nil => exact ⟨before, by rw [List.nil_append, lowerCut, lowerAt_dot]; rfl⟩
  | cons c p ih =>
    rw [List.mem_cons, not_or] at h
    obtain ⟨before', hrest⟩ := ih h.2 (c :: before)
    refine ⟨before', ?_⟩
    rw [List.cons_append, lowerCut, hrest, untilDot_append_dot h.2,
      untilDot_cons_of_ne (Ne.symm h.1), lowerFrom, List.append_assoc]

end Text

namespace Dotted

open Text

theorem toList_join_cons_cons (p q : String) (parts : List String) :
    (join (p :: q :: parts)).toList = p.toList ++ '.' :: (join (q :: parts)).toList := by
  rw [join_cons_cons]
  simp

/-- **Lowercasing with all words cut at the dots** is lowercasing the segments. -/
theorem lowerCut_join {parts : List String} (h : ∀ p ∈ parts, '.' ∉ p.toList)
    {before : List Char} (hbefore : untilDot before = []) :
    lowerCut before (join parts).toList = (join (parts.map lower)).toList := by
  induction parts generalizing before with
  | nil => rfl
  | cons p parts ih =>
    have hp := h p List.mem_cons_self
    cases parts with
    | nil =>
      rw [join_singleton, lowerCut_of_dot_not_mem hp, hbefore, List.map_singleton, join_singleton,
        lower, String.toList_ofList]
    | cons q parts =>
      obtain ⟨before', hcut⟩ := lowerCut_append_dot hp before (join (q :: parts)).toList
      have hrest := ih (fun r hr => h r (List.mem_cons_of_mem _ hr)) (untilDot_dot before')
      have hjoin : (join ((p :: q :: parts).map lower)).toList =
          (lower p).toList ++ '.' :: (join ((q :: parts).map lower)).toList :=
        toList_join_cons_cons ..
      rw [toList_join_cons_cons, hcut, hbefore, hrest, hjoin, lower, String.toList_ofList]

/-- A word ends at a capital sigma of the path exactly if one ends there in the segment that the sigma
stands in. -/
def SigmaAgrees (path : String) : Prop :=
  ∀ u v, path.toList = u ++ 'Σ' :: v →
    endsWord u.reverse v = endsWord (untilDot u.reverse) (untilDot v)

/-- **Lowercasing a joined path is joining the lowercase segments**, exactly if no sigma makes a
difference. -/
theorem lower_join_iff {parts : List String} (h : ∀ p ∈ parts, '.' ∉ p.toList) :
    lower (join parts) = join (parts.map lower) ↔ SigmaAgrees (join parts) := by
  have hcut : lowerCut [] (join parts).toList = (join (parts.map lower)).toList :=
    lowerCut_join h rfl
  rw [← String.toList_inj, ← hcut, lower, String.toList_ofList, lowerFrom_eq_lowerCut_iff]
  simp only [List.append_nil]
  rfl

-- The sigma ends a word, unless a letter follows the dot.
example : join (["ΑΣ", "Β"].map lower) = "ας.β" ∧ lower (join ["ΑΣ", "Β"]) = "ασ.β" ∧
    lower (join ["ΑΣ", "1"]) = "ας.1" := by
  decide +kernel

/-! ## Where the lowercase path leads -/

/-- A text has one piece more than dots. -/
theorem length_split (s : String) : (split s).length = s.toList.count '.' + 1 := by
  have hpieces : ∀ cs : List Char, (piecesOf '.' cs).length = cs.count '.' + 1 := by
    intro cs
    induction cs with
    | nil => rfl
    | cons c cs ih =>
      by_cases hc : c = '.'
      · subst hc
        rw [piecesOf_cons_self, List.length_cons, ih, List.count_cons_self]
      · rw [piecesOf_cons_of_ne hc, List.count_cons_of_ne (Ne.symm hc).symm, ← ih]
        rfl
  rw [split, pieces_eq, List.length_map, hpieces]

theorem join_split (s : String) : join (split s) = s := by
  have hpieces : ∀ cs : List Char, (join ((piecesOf '.' cs).map String.ofList)).toList = cs := by
    intro cs
    induction cs with
    | nil => rfl
    | cons c cs ih =>
      by_cases hc : c = '.'
      · subst hc
        rw [piecesOf_cons_self, List.map_cons, piecesOf, List.map_cons, toList_join_cons_cons]
        exact congrArg ('.' :: ·) ih
      · rw [piecesOf_cons_of_ne hc, List.map_cons]
        rw [piecesOf, List.map_cons] at ih
        -- The character goes in front of the first piece, whether others follow it or not.
        cases hrest : (splitFirst '.' cs).2.map String.ofList with
        | nil => simpa [hrest, join_singleton] using ih
        | cons q parts => simpa [hrest, toList_join_cons_cons] using ih
  rw [← String.toList_inj, split, pieces_eq, hpieces]

theorem count_dot_lower (s : String) : (lower s).toList.count '.' = s.toList.count '.' := by
  have hfrom : ∀ (cs before : List Char), (lowerFrom before cs).count '.' = cs.count '.' := by
    intro cs
    induction cs with
    | nil => exact fun _ => rfl
    | cons c cs ih =>
      intro before
      rw [lowerFrom, List.count_append, ih]
      by_cases hc : c = '.'
      · subst hc
        rw [lowerAt_dot, List.count_cons_self, List.count_cons_self, List.count_nil, Nat.add_comm]
      · rw [List.count_eq_zero_of_not_mem (dot_not_mem_lowerAt hc before cs), Nat.zero_add,
          List.count_cons_of_ne hc]
  rw [lower, String.toList_ofList, hfrom]

/-- **The segments of the lowercase path** are the lowercase parts, exactly if no sigma makes a
difference. -/
theorem segments_lower_join_iff {parts : List String} (hparts : parts ≠ [])
    (h : ∀ p ∈ parts, IsSegment p) :
    segments (lower (join parts)) = parts.map lower ↔ SigmaAgrees (join parts) := by
  have hdot : ∀ p ∈ parts, '.' ∉ p.toList := fun p hp => (h p hp).dot_not_mem
  rw [← lower_join_iff hdot]
  constructor
  · intro hsegments
    -- There are no more pieces than parts, so none of them is empty.
    have hlength : (split (lower (join parts))).length = parts.length := by
      rw [length_split, count_dot_lower, ← length_split, split_join hparts hdot]
    have hall : segments (lower (join parts)) = split (lower (join parts)) := by
      apply List.filter_eq_self.2
      apply List.length_filter_eq_length_iff.1
      show (segments (lower (join parts))).length = _
      rw [hsegments, hlength, List.length_map]
    rw [← hsegments, hall, join_split]
  · intro hlower
    rw [hlower]
    exact segments_join_of_isSegment (isSegment_map_lower h)

end Dotted

end ChatCommands
