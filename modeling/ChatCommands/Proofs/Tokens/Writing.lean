import Mathlib.Data.List.Basic
import ChatCommands.Proofs.Tokens.Pieces

/-!
# Tokens that are written can be read

Any list of tokens without quotes can be put on a line: a token between quotes, or as it is where it is
not empty and has no blanks, with blanks around and between the tokens.

* `Spells`: the ways to write one token.
* `Row`: tokens one after the other, with blanks between them.
* `Writes`: whole lines. The last closing quote of a line may be missing.

**Theorem (`tokenize_of_writes`).** There is a line for every list of tokens, and all lines for a list are
read as this list.

The scan takes a token up as a whole, whichever way it is written (`scan_spelled`), and gives it out at the
blanks after it (`scan_gap`). A line without its last quote is a line in which a quote is open
(`scan_append_quote`).
-/

namespace ChatCommands.Tokens

/-! ## Lines for a list of tokens -/

/-- Blanks only, or nothing. -/
def AllBlank (cs : List Char) : Prop := ∀ c ∈ cs, Text.isBlank c = true

instance (cs : List Char) : Decidable (AllBlank cs) :=
  List.decidableBAll (fun c => Text.isBlank c = true) cs

/-- The ways to write a token. -/
inductive Spells : String → List Char → Prop
  | bare {token : String} (hne : token ≠ "")
    (hfree : ∀ c ∈ token.toList, Text.isBlank c = false) : Spells token token.toList
  | quoted (token : String) : Spells token ('"' :: token.toList ++ ['"'])

/-- Tokens one after the other, with blanks between them. -/
inductive Row : List String → List Char → Prop
  | last {token : String} {cs : List Char} (h : Spells token cs) : Row [token] cs
  | cons {token : String} {tokens : List String} {cs gap rest : List Char} (h : Spells token cs)
    (hne : gap ≠ []) (hgap : AllBlank gap) (hrest : Row tokens rest) :
    Row (token :: tokens) (cs ++ gap ++ rest)

/-- The lines for a list of tokens. -/
inductive Writes : List String → List Char → Prop
  | blank {line : List Char} (h : AllBlank line) : Writes [] line
  | row {tokens : List String} {before row after : List Char} (hbefore : AllBlank before)
    (h : Row tokens row) (hafter : AllBlank after) : Writes tokens (before ++ row ++ after)
  /-- Nothing stands after the last token, and its closing quote is missing. -/
  | unclosed {tokens : List String} {before row : List Char} (hbefore : AllBlank before)
    (h : Row tokens (row ++ ['"'])) : Writes tokens (before ++ row)

/-! ## Runs of characters -/

/-- Characters that neither separate nor quote go to the token as they are. -/
theorem scan_run {quoted : Bool} {cs : List Char}
    (h : ∀ c ∈ cs, c ≠ '"' ∧ (Text.isBlank c && !quoted) = false) (current rest : List Char) :
    scan quoted (some current) (cs ++ rest) = scan quoted (some (cs.reverse ++ current)) rest := by
  induction cs generalizing current with
  | nil => rfl
  | cons c cs ih =>
    obtain ⟨hquote, hkept⟩ := h c List.mem_cons_self
    have hscan : scan quoted (some current) (c :: (cs ++ rest)) =
        scan quoted (some (c :: current)) (cs ++ rest) := by
      rw [scan, if_neg hquote, if_neg (Bool.eq_false_iff.1 hkept), Option.getD_some]
    rw [List.cons_append, hscan, ih fun d hd => h d (List.mem_cons_of_mem _ hd)]
    simp

/-- **A token is taken up as a whole**, whichever way it is written. -/
theorem scan_spelled {token : String} {cs : List Char} (h : Spells token cs)
    (hquotes : '"' ∉ token.toList) (rest : List Char) :
    scan false none (cs ++ rest) = scan false (some token.toList.reverse) rest := by
  have hplain : ∀ c ∈ token.toList, c ≠ '"' := by
    rintro c hc rfl
    exact hquotes hc
  cases h with
  | bare hne hfree =>
    obtain ⟨c, cs, heq⟩ := List.exists_cons_of_ne_nil (mt String.toList_eq_nil_iff.1 hne)
    rw [heq] at hplain hfree ⊢
    have hfirst : scan false none (c :: (cs ++ rest)) = scan false (some [c]) (cs ++ rest) := by
      simp [scan, hplain c List.mem_cons_self, hfree c List.mem_cons_self]
    have hrun : ∀ d ∈ cs, d ≠ '"' ∧ (Text.isBlank d && !false) = false := fun d hd =>
      ⟨hplain d (List.mem_cons_of_mem _ hd), by simp [hfree d (List.mem_cons_of_mem _ hd)]⟩
    rw [List.cons_append, hfirst, scan_run hrun, List.reverse_cons]
  | quoted =>
    have hopen : scan false none ('"' :: (token.toList ++ '"' :: rest)) =
        scan true (some []) (token.toList ++ '"' :: rest) := rfl
    have hrun : ∀ c ∈ token.toList, c ≠ '"' ∧ (Text.isBlank c && !true) = false := fun c hc =>
      ⟨hplain c hc, by simp⟩
    have hassoc : '"' :: token.toList ++ ['"'] ++ rest = '"' :: (token.toList ++ '"' :: rest) := by
      simp
    rw [hassoc, hopen, scan_run hrun, List.append_nil]
    rfl

/-- Blanks after nothing are skipped. -/
theorem scan_skip {gap : List Char} (h : AllBlank gap) (rest : List Char) :
    scan false none (gap ++ rest) = scan false none rest := by
  induction gap with
  | nil => rfl
  | cons c gap ih =>
    have hblank := h c List.mem_cons_self
    have hquote : c ≠ '"' := by
      rintro rfl
      cases hblank
    rw [List.cons_append, scan, if_neg hquote, if_pos (by simp [hblank]), flush, List.nil_append]
    exact ih fun d hd => h d (List.mem_cons_of_mem _ hd)

/-- Blanks end a token. -/
theorem scan_gap {gap : List Char} (hne : gap ≠ []) (h : AllBlank gap)
    (current : Option (List Char)) (rest : List Char) :
    scan false current (gap ++ rest) = flush current ++ scan false none rest := by
  obtain ⟨c, gap, rfl⟩ := List.exists_cons_of_ne_nil hne
  have hblank := h c List.mem_cons_self
  have hquote : c ≠ '"' := by
    rintro rfl
    cases hblank
  rw [List.cons_append, scan, if_neg hquote, if_pos (by simp [hblank]),
    scan_skip fun d hd => h d (List.mem_cons_of_mem _ hd)]

/-- Blanks at the end of a line end its last token, and so does the end itself. -/
theorem scan_end {after : List Char} (h : AllBlank after) (current : Option (List Char)) :
    scan false current after = flush current := by
  by_cases hnil : after = []
  · rw [hnil]
    rfl
  · have hscan := scan_gap hnil h current []
    rwa [List.append_nil, scan, flush, List.append_nil] at hscan

/-! ## Rows -/

theorem flush_reverse (token : String) : flush (some token.toList.reverse) = [token] := by
  rw [flush, List.reverse_reverse, String.ofList_toList]

/-- **A row is read as its tokens.** -/
theorem scan_row {tokens : List String} {row after : List Char} (h : Row tokens row)
    (hquotes : ∀ token ∈ tokens, '"' ∉ token.toList) (hafter : AllBlank after) :
    scan false none (row ++ after) = tokens := by
  induction h with
  | last h =>
    rw [scan_spelled h (hquotes _ List.mem_cons_self), scan_end hafter, flush_reverse]
  | cons h hne hgap _ ih =>
    rw [List.append_assoc, List.append_assoc, scan_spelled h (hquotes _ List.mem_cons_self),
      scan_gap hne hgap, flush_reverse, ih fun token ht => hquotes token (List.mem_cons_of_mem _ ht)]
    rfl

theorem AllBlank.count_quote {gap : List Char} (h : AllBlank gap) : gap.count '"' = 0 := by
  rw [List.count_eq_zero]
  intro hmem
  cases h _ hmem

theorem Spells.even_count {token : String} {cs : List Char} (h : Spells token cs)
    (hquotes : '"' ∉ token.toList) : Even (cs.count '"') := by
  have hzero : token.toList.count '"' = 0 := List.count_eq_zero.2 hquotes
  cases h with
  | bare => simp [hzero]
  | quoted => simp [hzero]

/-- In a row all quotes are closed. -/
theorem Row.even_count {tokens : List String} {row : List Char} (h : Row tokens row)
    (hquotes : ∀ token ∈ tokens, '"' ∉ token.toList) : Even (row.count '"') := by
  induction h with
  | last h => exact h.even_count (hquotes _ List.mem_cons_self)
  | cons h _ hgap _ ih =>
    rw [List.count_append, List.count_append, hgap.count_quote, Nat.add_zero]
    exact (h.even_count (hquotes _ List.mem_cons_self)).add
      (ih fun token ht => hquotes token (List.mem_cons_of_mem _ ht))

/-- A row may lack its last quote. -/
theorem scan_row_unclosed {tokens : List String} {row : List Char} (h : Row tokens (row ++ ['"']))
    (hquotes : ∀ token ∈ tokens, '"' ∉ token.toList) : scan false none row = tokens := by
  have hodd : (row.count '"' % 2 == 1) = !false := by
    have heven := Nat.even_iff.1 (h.even_count hquotes)
    rw [List.count_append, List.count_singleton_self] at heven
    simp only [Bool.not_false, beq_iff_eq]
    omega
  calc scan false none row = scan false none (row ++ ['"']) :=
        (scan_append_quote (fun hquoted => absurd hquoted Bool.false_ne_true) hodd).symm
    _ = scan false none (row ++ ['"'] ++ []) := by rw [List.append_nil]
    _ = tokens := scan_row h hquotes fun _ hc => absurd hc List.not_mem_nil

/-! ## Lines -/

/-- **A line is read as the tokens it was written for.** -/
theorem scan_of_writes {tokens : List String} {line : List Char} (h : Writes tokens line)
    (hquotes : ∀ token ∈ tokens, '"' ∉ token.toList) : scan false none line = tokens := by
  cases h with
  | blank h => exact scan_end h none
  | row hbefore h hafter => rw [List.append_assoc, scan_skip hbefore, scan_row h hquotes hafter]
  | unclosed hbefore h => rw [scan_skip hbefore, scan_row_unclosed h hquotes]

/-- One way to write tokens is to quote them all. -/
theorem exists_row {tokens : List String} (hne : tokens ≠ []) : ∃ row, Row tokens row := by
  induction tokens with
  | nil => exact absurd rfl hne
  | cons token tokens ih =>
    by_cases hlast : tokens = []
    · rw [hlast]
      exact ⟨_, .last (.quoted token)⟩
    · obtain ⟨row, hrow⟩ := ih hlast
      have hspace : AllBlank [' '] := by decide
      exact ⟨_, .cons (.quoted token) (List.cons_ne_nil _ _) hspace hrow⟩

theorem exists_writes (tokens : List String) : ∃ line, Writes tokens line := by
  have hnil : AllBlank [] := fun _ hc => absurd hc List.not_mem_nil
  by_cases hempty : tokens = []
  · rw [hempty]
    exact ⟨[], .blank hnil⟩
  · obtain ⟨row, hrow⟩ := exists_row hempty
    exact ⟨_, .row hnil hrow hnil⟩

end ChatCommands.Tokens

namespace ChatCommands

open Tokens

/-- **Every list of tokens without quotes can be written, and all that is written for it is read back.** -/
theorem tokenize_of_writes {tokens : List String} (hquotes : ∀ token ∈ tokens, '"' ∉ token.toList) :
    (∃ line : String, Writes tokens line.toList) ∧
      ∀ line : String, Writes tokens line.toList → tokenize line = tokens := by
  constructor
  · obtain ⟨line, hline⟩ := exists_writes tokens
    exact ⟨String.ofList line, by rwa [String.toList_ofList]⟩
  · intro line hline
    exact scan_of_writes hline hquotes

namespace Sample

/-- A word, an empty token and one with blanks at both ends. -/
def phrases : List String := ["say", "", " to you "]

/-- The phrases with two kinds of blanks between them. The last quote is not closed. -/
def phrasesLine : String := "\u3000say \"\"\t\u2003\" to you "

theorem writes_phrases : Writes phrases phrasesLine.toList := by
  have hspace : AllBlank [' '] := by decide
  have hwide : AllBlank ['\t', '\u2003'] := by decide
  have hbefore : AllBlank ['\u3000'] := by decide
  have hsay : Spells "say" "say".toList :=
    .bare (by decide) (List.forall_iff_forall_mem.1 (by decide +kernel))
  obtain ⟨row, hrow, heq⟩ : ∃ row, Row phrases row ∧
      row = "say \"\"\t\u2003\" to you ".toList ++ ['"'] :=
    ⟨_, .cons hsay (by decide) hspace (.cons (.quoted "") (by decide) hwide (.last (.quoted _))),
      by decide⟩
  rw [heq] at hrow
  exact .unclosed hbefore hrow

theorem tokenize_phrasesLine :
    (∀ token ∈ phrases, '"' ∉ token.toList) ∧ (∃ line : String, Writes phrases line.toList) ∧
      Writes phrases phrasesLine.toList ∧ tokenize phrasesLine = phrases := by
  have hquotes : ∀ token ∈ phrases, '"' ∉ token.toList := by decide
  obtain ⟨hwritten, hread⟩ := tokenize_of_writes hquotes
  exact ⟨hquotes, hwritten, writes_phrases, hread _ writes_phrases⟩

end Sample

end ChatCommands
