import Mathlib.Algebra.Ring.Parity
import ChatCommands.Tokens

/-!
# Tokens are the pieces between separators

A line is read from left to right, with the token begun so far and whether a quote is open. What comes of
it can be said by positions alone: a blank separates if the quotes before it are even in number, and the
tokens are what lies between.

* `separatesAt`: the character at a position separates.
* `IsPiece`: a piece of the line without separators that goes as far as possible to both sides.
* `At`: the token begun so far, by the position where it began.

**Theorem (`splits_tokenize`).** The tokens of a line are its pieces, in order, each without its quotes. A
quote at the end of a line in which a quote is open changes nothing.
-/

namespace ChatCommands.Tokens

/-! ## Pieces -/

/-- The character at position `i` is a blank with an even number of quotes before it. -/
def separatesAt (cs : List Char) (i : Nat) : Bool :=
  cs[i]?.any Text.isBlank && (cs.take i).count '"' % 2 == 0

/-- The positions from `first` to before `stop` are a maximal piece without separators. -/
structure IsPiece (line : List Char) (first stop : Nat) : Prop where
  nonempty : first < stop
  stop_le : stop ≤ line.length
  free : ∀ i, first ≤ i → i < stop → separatesAt line i = false
  /-- The piece cannot begin further left. -/
  before : first = 0 ∨ separatesAt line (first - 1) = true
  /-- The piece cannot go on to the right. -/
  after : stop = line.length ∨ separatesAt line stop = true

/-- The characters from `first` to before `stop`, without quotes. -/
def unquoted (line : List Char) (first stop : Nat) : String :=
  String.ofList (((line.take stop).drop first).filter (· ≠ '"'))

/-- The tokens are what the separators leave of the line. -/
structure Splits (line : List Char) (tokens : List String) : Prop where
  /-- There is one token for each piece, in order. -/
  pieces : ∃ ps : List (Nat × Nat),
    (∀ first stop, (first, stop) ∈ ps ↔ IsPiece line first stop) ∧
      ps.Pairwise (fun p q => p.2 < q.1) ∧ tokens = ps.map fun p => unquoted line p.1 p.2
  /-- Characters other than quotes and separators stay, each once and in order. -/
  chars : tokens.flatMap String.toList =
    (line.zipIdx.filter fun p => p.1 ≠ '"' && !separatesAt line p.2).map Prod.fst
  /-- A piece of quotes only is an empty token. -/
  empty : "" ∈ tokens ↔
    ∃ first stop, IsPiece line first stop ∧ ∀ c ∈ (line.take stop).drop first, c = '"'

/-! ## Pieces from a position on -/

/-- The pieces that begin at `n` or later, in order. -/
structure PiecesFrom (line : List Char) (n : Nat) (ps : List (Nat × Nat)) : Prop where
  mem_iff : ∀ first stop, (first, stop) ∈ ps ↔ n ≤ first ∧ IsPiece line first stop
  sorted : ps.Pairwise fun p q => p.2 < q.1

section
variable {line : List Char} {n : Nat} {ps : List (Nat × Nat)}

theorem piecesFrom_nil (h : line.length ≤ n) : PiecesFrom line n [] where
  mem_iff first stop := by
    constructor
    · intro hmem
      cases hmem
    · rintro ⟨hfirst, hpiece⟩
      have hlt := hpiece.nonempty
      have hle := hpiece.stop_le
      omega
  sorted := .nil

/-- No piece begins at a separator. -/
theorem PiecesFrom.skip (h : PiecesFrom line (n + 1) ps) (hsep : separatesAt line n = true) :
    PiecesFrom line n ps where
  mem_iff first stop := by
    rw [h.mem_iff]
    constructor
    · rintro ⟨hle, hpiece⟩
      exact ⟨by omega, hpiece⟩
    · rintro ⟨hle, hpiece⟩
      refine ⟨?_, hpiece⟩
      by_contra hlt
      obtain rfl : first = n := by omega
      have hfree := hpiece.free first le_rfl hpiece.nonempty
      rw [hsep] at hfree
      cases hfree
  sorted := h.sorted

/-- **A piece that ends before `n` is the first one from its beginning on.** -/
theorem PiecesFrom.cons {start : Nat} (h : PiecesFrom line (n + 1) ps)
    (hpiece : IsPiece line start n) : PiecesFrom line start ((start, n) :: ps) where
  mem_iff first stop := by
    have hlt := hpiece.nonempty
    have hle := hpiece.stop_le
    rw [List.mem_cons, h.mem_iff, Prod.mk.injEq]
    constructor
    · rintro (⟨rfl, rfl⟩ | ⟨hfirst, hother⟩)
      · exact ⟨le_rfl, hpiece⟩
      · exact ⟨by omega, hother⟩
    · rintro ⟨hfirst, hother⟩
      have hle' := hother.stop_le
      have hlt' := hother.nonempty
      by_cases hn : n + 1 ≤ first
      · exact .inr ⟨hn, hother⟩
      left
      have hsame : first = start := by
        by_contra hne
        rcases hother.before with hzero | hsep
        · omega
        · rw [hpiece.free (first - 1) (by omega) (by omega)] at hsep
          cases hsep
      subst hsame
      refine ⟨rfl, ?_⟩
      -- Two pieces that begin together end together: neither has the separator after the other.
      by_contra hne
      rcases Nat.lt_or_gt_of_ne hne with hbefore | hafter
      · rcases hother.after with hend | hsep
        · omega
        · rw [hpiece.free stop (by omega) hbefore] at hsep
          cases hsep
      · rcases hpiece.after with hend | hsep
        · omega
        · rw [hother.free n (by omega) hafter] at hsep
          cases hsep
  sorted := by
    refine List.pairwise_cons.2 ⟨?_, h.sorted⟩
    rintro ⟨first, stop⟩ hmem
    exact ((h.mem_iff first stop).1 hmem).1

end

/-! ## One character more -/

/-- A quote is open after these characters. -/
def quoting (before : List Char) : Bool :=
  before.count '"' % 2 == 1

theorem quoting_push (before : List Char) (c : Char) :
    quoting (before ++ [c]) = if c = '"' then !quoting before else quoting before := by
  unfold quoting
  by_cases hc : c = '"'
  · subst hc
    rw [if_pos rfl, List.count_append, List.count_singleton_self]
    rcases Nat.mod_two_eq_zero_or_one (before.count '"') with heven | hodd
    · simp [Nat.add_mod, heven]
    · simp [Nat.add_mod, hodd]
  · simp [hc]

theorem separatesAt_append (before : List Char) (c : Char) (after : List Char) :
    separatesAt (before ++ c :: after) before.length = (Text.isBlank c && !quoting before) := by
  have heven : (before.count '"' % 2 == 0) = !quoting before := by
    unfold quoting
    rcases Nat.mod_two_eq_zero_or_one (before.count '"') with heven | hodd
    · simp [heven]
    · simp [hodd]
  simp [separatesAt, heven]

section
variable {before : List Char} {c : Char}

/-- At a separator the token that was begun ends. -/
theorem scan_cons_of_separates {after : List Char}
    (h : separatesAt (before ++ c :: after) before.length = true) (current : Option (List Char)) :
    scan (quoting before) current (c :: after) =
      flush current ++ scan (quoting (before ++ [c])) none after := by
  rw [separatesAt_append] at h
  have hc : c ≠ '"' := by
    rintro rfl
    cases h
  rw [scan, if_neg hc, if_pos h, quoting_push, if_neg hc]

/-- Any other character begins a token or goes to the one that was begun, if it is no quote. -/
theorem scan_cons_of_not_separates {after : List Char}
    (h : separatesAt (before ++ c :: after) before.length = false) (current : Option (List Char)) :
    scan (quoting before) current (c :: after) =
      scan (quoting (before ++ [c])) (some ([c].filter (· ≠ '"') ++ current.getD [])) after := by
  rw [separatesAt_append] at h
  rw [scan, quoting_push]
  by_cases hc : c = '"'
  · simp [hc]
  · rw [if_neg hc, if_neg hc, if_neg (by simp [h])]
    simp [hc]

end

/-! ## The scan by positions -/

/-- What the scan has begun after the characters `before` of the line: nothing, right after a separator,
or the piece that begins at `start`. -/
inductive At (line before : List Char) : Option (List Char) → Nat → Prop
  | between (h : before.length = 0 ∨ separatesAt line (before.length - 1) = true) :
    At line before none before.length
  | within {written : List Char} {start : Nat} (hlt : start < before.length)
    (hfree : ∀ i, start ≤ i → i < before.length → separatesAt line i = false)
    (hbefore : start = 0 ∨ separatesAt line (start - 1) = true)
    (hwritten : written.reverse = (before.drop start).filter (· ≠ '"')) :
    At line before (some written) start

section
variable {line before : List Char} {current : Option (List Char)} {start : Nat}

/-- **A character that does not separate goes to the piece**, or begins one. -/
theorem At.push (h : At line before current start)
    (hsep : separatesAt line before.length = false) (c : Char) :
    At line (before ++ [c]) (some ([c].filter (· ≠ '"') ++ current.getD [])) start := by
  have hle : start ≤ before.length := by
    cases h with
    | between => exact le_rfl
    | within hlt => exact Nat.le_of_lt hlt
  have hlength : (before ++ [c]).length = before.length + 1 := by simp
  refine .within (by omega) ?_ ?_ ?_
  · intro i hi hlt
    by_cases hlast : i = before.length
    · rw [hlast, hsep]
    · cases h with
      | between => omega
      | within _ hfree => exact hfree i hi (by omega)
  · cases h with
    | between hbefore => exact hbefore
    | within _ _ hbefore => exact hbefore
  · have hsingle : ([c].filter (· ≠ '"')).reverse = [c].filter (· ≠ '"') := by
      by_cases hc : c = '"' <;> simp [hc]
    rw [List.drop_append_of_le_length hle, List.filter_append, List.reverse_append, hsingle]
    cases h with
    | between => rw [List.drop_length, Option.getD_none, List.reverse_nil, List.filter_nil]
    | within _ _ _ hbegun => rw [Option.getD_some, hbegun]

end

/-- A piece that was begun ends at a separator or at the end of the line. -/
theorem At.isPiece {line before written : List Char} {start : Nat}
    (h : At line before (some written) start) (hle : before.length ≤ line.length)
    (hafter : before.length = line.length ∨ separatesAt line before.length = true) :
    IsPiece line start before.length := by
  cases h with
  | within hlt hfree hbefore _ => exact ⟨hlt, hle, hfree, hbefore, hafter⟩

/-- The token of a piece that was begun. -/
theorem At.flush_eq {before after written : List Char} {start : Nat}
    (h : At (before ++ after) before (some written) start) :
    flush (some written) = [unquoted (before ++ after) start before.length] := by
  cases h with
  | within _ _ _ hwritten => rw [flush, hwritten, unquoted, List.take_left]

/-- **The scan gives the pieces that are not finished yet.** -/
theorem exists_piecesFrom {before after : List Char} {current : Option (List Char)} {start : Nat}
    (h : At (before ++ after) before current start) :
    ∃ ps, PiecesFrom (before ++ after) start ps ∧
      scan (quoting before) current after = ps.map fun p => unquoted (before ++ after) p.1 p.2 := by
  induction after generalizing before current start with
  | nil =>
    cases current with
    | none =>
      cases h with
      | between => exact ⟨[], piecesFrom_nil (by simp), rfl⟩
    | some written =>
      have hpiece := h.isPiece (by simp) (.inl (by simp))
      exact ⟨_, (piecesFrom_nil (by simp)).cons hpiece, h.flush_eq⟩
  | cons c after ih =>
    have hsplit : before ++ c :: after = before ++ [c] ++ after := List.append_cons ..
    by_cases hsep : separatesAt (before ++ c :: after) before.length = true
    · have hnext : At (before ++ [c] ++ after) (before ++ [c]) none (before.length + 1) := by
        have hbetween : At (before ++ [c] ++ after) (before ++ [c]) none (before ++ [c]).length :=
          .between (.inr (by simpa [← hsplit] using hsep))
        rwa [List.length_append] at hbetween
      obtain ⟨ps, hps, hscan⟩ := ih hnext
      rw [← hsplit] at hps hscan
      rw [scan_cons_of_separates hsep, hscan]
      cases current with
      | none =>
        cases h with
        | between => exact ⟨ps, hps.skip hsep, rfl⟩
      | some written =>
        have hpiece := h.isPiece (by simp) (.inr hsep)
        refine ⟨_, hps.cons hpiece, ?_⟩
        rw [h.flush_eq]
        rfl
    · rw [Bool.not_eq_true] at hsep
      have hnext := h.push hsep c
      rw [hsplit] at hnext
      obtain ⟨ps, hps, hscan⟩ := ih hnext
      rw [← hsplit] at hps hscan
      exact ⟨ps, hps, (scan_cons_of_not_separates hsep current).trans hscan⟩

/-! ## What the tokens hold -/

theorem flatMap_flush (current : Option (List Char)) :
    (flush current).flatMap String.toList = (current.getD []).reverse := by
  cases current <;> simp [flush]

/-- **The scan keeps all characters** but quotes and separators. -/
theorem flatMap_scan (before after : List Char) (current : Option (List Char)) :
    (scan (quoting before) current after).flatMap String.toList =
      (current.getD []).reverse ++
        ((after.zipIdx before.length).filter fun p =>
          p.1 ≠ '"' && !separatesAt (before ++ after) p.2).map Prod.fst := by
  induction after generalizing before current with
  | nil =>
    rw [scan, flatMap_flush]
    simp
  | cons c after ih =>
    have hsplit : before ++ c :: after = before ++ [c] ++ after := List.append_cons ..
    have hlength : (before ++ [c]).length = before.length + 1 := by simp
    have hrest := ih (before ++ [c])
    rw [← hsplit, hlength] at hrest
    rw [List.zipIdx_cons, List.filter_cons]
    by_cases hsep : separatesAt (before ++ c :: after) before.length = true
    · rw [scan_cons_of_separates hsep, List.flatMap_append, flatMap_flush, hrest]
      simp [hsep]
    · rw [Bool.not_eq_true] at hsep
      rw [scan_cons_of_not_separates hsep, hrest]
      by_cases hc : c = '"' <;> simp [hc, hsep]

theorem unquoted_eq_empty_iff {line : List Char} {first stop : Nat} :
    unquoted line first stop = "" ↔ ∀ c ∈ (line.take stop).drop first, c = '"' := by
  rw [unquoted, String.ofList_eq_empty_iff, List.filter_eq_nil_iff]
  simp

/-- Where a quote is open at the end, closing it changes nothing. -/
theorem scan_append_quote {quoted : Bool} {current : Option (List Char)} {cs : List Char}
    (hcurrent : quoted = true → current ≠ none) (hodd : (cs.count '"' % 2 == 1) = !quoted) :
    scan quoted current (cs ++ ['"']) = scan quoted current cs := by
  induction cs generalizing quoted current with
  | nil =>
    cases quoted with
    | false => cases hodd
    | true =>
      obtain ⟨written, rfl⟩ := Option.ne_none_iff_exists'.1 (hcurrent rfl)
      rfl
  | cons c cs ih =>
    rw [List.cons_append, scan, scan]
    by_cases hc : c = '"'
    · subst hc
      have hrest : (cs.count '"' % 2 == 1) = !!quoted := by
        rw [List.count_cons_self] at hodd
        cases quoted <;> simp at hodd ⊢ <;> omega
      rw [if_pos rfl, if_pos rfl]
      exact ih (fun _ => Option.some_ne_none _) hrest
    · rw [List.count_cons_of_ne hc] at hodd
      rw [if_neg hc, if_neg hc]
      by_cases hsep : (Text.isBlank c && !quoted) = true
      · have hclosed : quoted = true → (none : Option (List Char)) ≠ none := by
          intro hquoted
          simp [hquoted] at hsep
        rw [if_pos hsep, if_pos hsep, ih hclosed hodd]
      · rw [if_neg hsep, if_neg hsep]
        exact ih (fun _ => Option.some_ne_none _) hodd

end ChatCommands.Tokens

namespace ChatCommands

open Tokens

/-- **The tokens of a line are the pieces between its separators**, and a quote that is open at its end
may be closed. -/
theorem splits_tokenize (line : String) :
    Splits line.toList (tokenize line) ∧
      (Odd (line.toList.count '"') → tokenize (line.push '"') = tokenize line) := by
  constructor
  · have hstart : At ([] ++ line.toList) [] none 0 := .between (.inl rfl)
    obtain ⟨ps, hps, hscan⟩ := exists_piecesFrom hstart
    have htokens : tokenize line = ps.map fun p => unquoted line.toList p.1 p.2 := hscan
    have hmem : ∀ first stop, (first, stop) ∈ ps ↔ IsPiece line.toList first stop := by
      intro first stop
      rw [hps.mem_iff]
      exact and_iff_right (Nat.zero_le first)
    refine ⟨⟨ps, hmem, hps.sorted, htokens⟩, flatMap_scan [] line.toList none, ?_⟩
    rw [htokens, List.mem_map]
    constructor
    · rintro ⟨⟨first, stop⟩, hp, hempty⟩
      exact ⟨first, stop, (hmem first stop).1 hp, unquoted_eq_empty_iff.1 hempty⟩
    · rintro ⟨first, stop, hpiece, hquotes⟩
      exact ⟨(first, stop), (hmem first stop).2 hpiece, unquoted_eq_empty_iff.2 hquotes⟩
  · intro hodd
    rw [tokenize, String.toList_push]
    refine scan_append_quote (fun hquoted => absurd hquoted Bool.false_ne_true) ?_
    simp [Nat.odd_iff.1 hodd]

namespace Sample

/-- A line with quotes inside a word, an empty token and a quote that is not closed. -/
def unclosed : String := " say \"\" a\"b c\"d \"e "

theorem splits_unclosed :
    Odd (unclosed.toList.count '"') ∧ Splits unclosed.toList (tokenize unclosed) ∧
      tokenize (unclosed.push '"') = tokenize unclosed := by
  have hodd : Odd (unclosed.toList.count '"') := by decide +kernel
  obtain ⟨hsplits, hclosed⟩ := splits_tokenize unclosed
  exact ⟨hodd, hsplits, hclosed hodd⟩

example : tokenize unclosed = ["say", "", "ab cd", "e "] := by
  decide +kernel

end Sample

end ChatCommands
