import ChatCommands.Proofs.Text.Lowercase
import ChatCommands.Text.Dotted

/-!
# Segments of joined paths

Paths are put together as texts, by joining segments and by writing a suffix below a group, but rules
and limits are looked up by segments. Cutting a text at its dots undoes the joining piece by piece:

* `segments_below`: the segments of a suffix follow those of the group above it;
* `segments_join`: the segments of a joined path are those of its parts, one part after the other;
* `split_join`: cutting a joined path gives the parts back, provided that they hold no dots.

For segments nothing is asked of the parts: they may be empty or hold dots themselves. The parts are the
segments if each of them is one (`IsSegment`).
-/

namespace ChatCommands

namespace Text

/-- The pieces of a list of characters, the first one included. -/
def piecesOf (sep : Char) (cs : List Char) : List (List Char) :=
  (splitFirst sep cs).1 :: (splitFirst sep cs).2

theorem piecesOf_nil (sep : Char) : piecesOf sep [] = [[]] := rfl

theorem piecesOf_cons_self (sep : Char) (cs : List Char) :
    piecesOf sep (sep :: cs) = [] :: piecesOf sep cs := by
  simp [piecesOf, splitFirst]

theorem piecesOf_cons_of_ne {sep c : Char} (h : c ≠ sep) (cs : List Char) :
    piecesOf sep (c :: cs) = (c :: (splitFirst sep cs).1) :: (splitFirst sep cs).2 := by
  simp [piecesOf, splitFirst, h]

/-- A separator ends the pieces before it. -/
theorem piecesOf_append (sep : Char) (cs ds : List Char) :
    piecesOf sep (cs ++ sep :: ds) = piecesOf sep cs ++ piecesOf sep ds := by
  induction cs with
  | nil => rw [List.nil_append, piecesOf_cons_self, piecesOf_nil, List.singleton_append]
  | cons c cs ih =>
    rw [List.cons_append]
    by_cases h : c = sep
    · subst h
      rw [piecesOf_cons_self, piecesOf_cons_self, ih, List.cons_append]
    · rw [piecesOf_cons_of_ne h, piecesOf_cons_of_ne h]
      -- The first piece only grows in front, so `ih` gives it and the later ones apart.
      simp only [piecesOf, List.cons_append, List.cons.injEq, true_and] at ih ⊢
      exact ih

/-- A text without separators is one piece. -/
theorem piecesOf_of_not_mem {sep : Char} {cs : List Char} (h : sep ∉ cs) :
    piecesOf sep cs = [cs] := by
  induction cs with
  | nil => rfl
  | cons c cs ih =>
    rw [List.mem_cons, not_or] at h
    obtain ⟨hpiece, hrest⟩ := List.cons.inj (ih h.2)
    rw [piecesOf_cons_of_ne (Ne.symm h.1), hpiece, hrest]

theorem pieces_eq (sep : Char) (s : String) :
    pieces sep s = (piecesOf sep s.toList).map String.ofList := rfl

end Text

namespace Dotted

theorem split_dot (a b : String) : split (a ++ "." ++ b) = split a ++ split b := by
  have h : (a ++ "." ++ b).toList = a.toList ++ '.' :: b.toList := by simp
  rw [split, Text.pieces_eq, h, Text.piecesOf_append, List.map_append]
  rfl

theorem segments_dot (a b : String) : segments (a ++ "." ++ b) = segments a ++ segments b := by
  rw [segments, split_dot, List.filter_append]
  rfl

/-- **The segments of a suffix follow those of the group.** -/
theorem segments_below (group suffix : String) :
    segments (below group suffix) = segments group ++ segments suffix :=
  segments_dot group suffix

theorem segments_empty : segments "" = [] := by
  simp [segments, split, Text.pieces_eq, Text.piecesOf_nil]

theorem join_singleton (p : String) : join [p] = p := by
  simp [join]

theorem join_cons_cons (p q : String) (parts : List String) :
    join (p :: q :: parts) = p ++ "." ++ join (q :: parts) :=
  String.intercalate_cons_cons

/-- **The segments of a joined path are those of its parts.** -/
theorem segments_join (parts : List String) : segments (join parts) = parts.flatMap segments := by
  induction parts with
  | nil => exact segments_empty
  | cons p parts ih =>
    cases parts with
    | nil => rw [join_singleton, List.flatMap_singleton]
    | cons q parts =>
      rw [join_cons_cons, segments_dot, ih]
      rfl

theorem split_of_dot_not_mem {p : String} (h : '.' ∉ p.toList) : split p = [p] := by
  rw [split, Text.pieces_eq, Text.piecesOf_of_not_mem h, List.map_singleton, String.ofList_toList]

/-- **Cutting a joined path gives its parts back.** -/
theorem split_join {parts : List String} (hne : parts ≠ [])
    (h : ∀ p ∈ parts, '.' ∉ p.toList) : split (join parts) = parts := by
  induction parts with
  | nil => exact absurd rfl hne
  | cons p parts ih =>
    have hfirst := split_of_dot_not_mem (h p List.mem_cons_self)
    cases parts with
    | nil => rw [join_singleton, hfirst]
    | cons q parts =>
      rw [join_cons_cons, split_dot, hfirst,
        ih (List.cons_ne_nil _ _) fun r hr => h r (List.mem_cons_of_mem _ hr)]
      rfl

/-- What can be a segment of a path: a text that is not empty and has no dots. -/
structure IsSegment (s : String) : Prop where
  ne_empty : s ≠ ""
  dot_not_mem : '.' ∉ s.toList

theorem IsSegment.lower {s : String} (h : IsSegment s) : IsSegment (Text.lower s) where
  ne_empty := Text.lower_ne_empty h.ne_empty
  dot_not_mem := Text.dot_not_mem_lower h.dot_not_mem

theorem isSegment_map_lower {parts : List String} (h : ∀ p ∈ parts, IsSegment p) :
    ∀ p ∈ parts.map Text.lower, IsSegment p := by
  intro p hp
  obtain ⟨spelling, hspelling, rfl⟩ := List.mem_map.1 hp
  exact (h spelling hspelling).lower

theorem IsSegment.segments_eq {p : String} (h : IsSegment p) : segments p = [p] := by
  rw [segments, split_of_dot_not_mem h.dot_not_mem]
  simp [h.ne_empty]

theorem segments_join_of_isSegment {parts : List String} (h : ∀ p ∈ parts, IsSegment p) :
    segments (join parts) = parts := by
  rw [segments_join]
  induction parts with
  | nil => rfl
  | cons p parts ih =>
    rw [List.flatMap_cons, (h p List.mem_cons_self).segments_eq,
      ih fun q hq => h q (List.mem_cons_of_mem p hq), List.singleton_append]

/-- A path is empty only if it has no parts, provided that no part is. -/
theorem join_eq_empty_iff {parts : List String} (h : ∀ p ∈ parts, p ≠ "") :
    join parts = "" ↔ parts = [] := by
  refine ⟨fun hempty => ?_, fun hnil => by rw [hnil]; rfl⟩
  cases parts with
  | nil => rfl
  | cons p parts =>
    have hp := h p List.mem_cons_self
    cases parts with
    | nil => exact absurd ((join_singleton p).symm.trans hempty) hp
    | cons q parts =>
      rw [join_cons_cons, String.append_eq_empty_iff, String.append_eq_empty_iff] at hempty
      exact absurd hempty.1.1 hp

end Dotted

end ChatCommands
