import Mathlib.Data.List.Forall2
import Mathlib.Data.List.TakeDrop
import Mathlib.Data.List.TakeWhile
import ChatCommands.Json.Token
import ChatCommands.Json.Writer

/-!
# Scanning what was written

Numbers, words and texts are scanned back as the tokens that they were written for, whatever follows
them. Only a word has to end there.

* `ofWord_toDigits`: the digits of a natural number of at most 64 bits.
* `tokens_quote`: a text, with all escapes in it.
-/

namespace ChatCommands

/-! ## Numbers -/

namespace JsonNumber

theorem eq_zero_of_head?_toDigits {n : Nat} (h : (Nat.toDigits 10 n).head? = some '0') : n = 0 := by
  induction n using Nat.strongRecOn with
  | ind n ih =>
    rcases Nat.lt_or_ge n 10 with hn | hn
    · rw [Nat.toDigits_of_lt_base hn] at h
      exact Nat.digitChar_eq_zero.1 (Option.some.inj h)
    · rw [Nat.toDigits_of_base_le (by decide) hn,
        List.head?_append_of_ne_nil _ Nat.toDigits_ne_nil] at h
      have hzero := ih (n / 10) (by omega) h
      omega

theorem digits?_of_isDigit {cs : List Char} (hne : cs ≠ []) (h : ∀ c ∈ cs, c.isDigit = true) :
    digits? cs = some (cs, []) := by
  have hspan : cs.span Char.isDigit = (cs, []) := by
    rw [List.span_eq_takeWhile_dropWhile, List.takeWhile_eq_self_iff.2 h,
      List.dropWhile_eq_nil_iff.2 h]
  rw [digits?, hspan]
  simp [hne]

/-- **A natural number is read back from its digits.** -/
theorem unsigned?_toDigits {n : Nat} (h : n < Nat.pow 2 64) :
    unsigned? false (Nat.toDigits 10 n) = some (.natural n) := by
  have hdigits := digits?_of_isDigit (Nat.toDigits_ne_nil (n := n) (b := 10)) fun c =>
    Nat.isDigit_of_mem_toDigits (by decide) (by decide)
  have hvalue : Text.natOfDigits (Nat.toDigits 10 n) = n := by
    have hfold := Nat.ofDigitChars_ten_toDigits (n := n)
    rwa [Nat.ofDigitChars_eq_foldl] at hfold
  have hzero : ¬ ((Nat.toDigits 10 n).head? = some '0' ∧ 1 < (Nat.toDigits 10 n).length) := by
    rintro ⟨hhead, hlength⟩
    rw [eq_zero_of_head?_toDigits hhead] at hlength
    exact absurd hlength (by decide)
  simp [unsigned?, hdigits, hzero, hvalue, h]

end JsonNumber

namespace JsonToken

/-! ## Words -/

theorem ofWord_toDigits {n : Nat} (h : n < Nat.pow 2 64) :
    ofWord (Nat.toDigits 10 n) = .scalar (.natural n) := by
  have hdigit : ∀ c ∈ Nat.toDigits 10 n, c.isDigit = true := fun c =>
    Nat.isDigit_of_mem_toDigits (by decide) (by decide)
  have hne : ∀ word : List Char, (∃ c ∈ word, c.isDigit = false) → Nat.toDigits 10 n ≠ word := by
    rintro word ⟨c, hc, hother⟩ rfl
    cases hother.symm.trans (hdigit c hc)
  have hnumber : JsonNumber.ofWord? (Nat.toDigits 10 n) = some (.natural n) := by
    rw [← JsonNumber.unsigned?_toDigits h]
    unfold JsonNumber.ofWord?
    split
    next cs heq => exact absurd heq (hne _ ⟨'-', List.mem_cons_self, rfl⟩)
    next => rfl
  rw [ofWord, if_neg (hne _ ⟨'t', by decide, rfl⟩), if_neg (hne _ ⟨'f', by decide, rfl⟩),
    if_neg (hne _ ⟨'n', by decide, rfl⟩), hnumber]

namespace Scanner

theorem begin_of_isWordChar {c : Char} (h : isWordChar c = true) : begin c = ([], word [c]) := by
  have hne : ∀ d, isWordChar d = false → c ≠ d := by
    rintro d hd rfl
    cases hd.symm.trans h
  simp [begin, isSpace, h, hne ' ' rfl, hne '\t' rfl, hne '\n' rfl, hne '\r' rfl, hne '\x7b' rfl,
    hne '\x7d' rfl, hne '[' rfl, hne ']' rfl, hne ':' rfl, hne ',' rfl, hne '"' rfl]

/-- A word would not go on with these characters. -/
def EndsWord (rest : List Char) : Prop :=
  ∀ c ∈ rest.head?, isWordChar c = false

theorem endsWord_cons {c : Char} (h : isWordChar c = false) (rest : List Char) :
    EndsWord (c :: rest) :=
  fun _ hd => Option.some.inj hd ▸ h

theorem tokens_word {w rest : List Char} (hw : ∀ c ∈ w, isWordChar c = true)
    (hrest : EndsWord rest) (before : List Char) :
    (word before).tokens (w ++ rest) = ofWord (before.reverse ++ w) :: idle.tokens rest := by
  induction w generalizing before with
  | nil =>
    cases rest with
    | nil => simp [tokens, finish]
    | cons c rest => simp [tokens, step, hrest c rfl]
  | cons c w ih =>
    have hc := hw c List.mem_cons_self
    rw [List.cons_append, tokens, step, if_pos hc]
    simp [ih (fun d hd => hw d (List.mem_cons_of_mem _ hd)) (c :: before)]

/-- **A word is one token.** -/
theorem tokens_idle_word {w rest : List Char} (hne : w ≠ []) (hw : ∀ c ∈ w, isWordChar c = true)
    (hrest : EndsWord rest) : idle.tokens (w ++ rest) = ofWord w :: idle.tokens rest := by
  obtain ⟨c, w, rfl⟩ := List.exists_cons_of_ne_nil hne
  rw [List.cons_append, tokens, step, begin_of_isWordChar (hw c List.mem_cons_self)]
  exact tokens_word (fun d hd => hw d (List.mem_cons_of_mem _ hd)) hrest [c]

end Scanner

/-! ## Texts -/

/-- The part of a text stands for the character alone. -/
def Part.Spells (part : Part) (c : Char) : Prop :=
  part = .char c ∨ part = .unit c.toNat ∧ c.toNat < 0x20

theorem charsOf?_of_spells {parts : List Part} {cs : List Char}
    (h : List.Forall₂ Part.Spells parts cs) : charsOf? parts = some cs := by
  induction h with
  | nil => rfl
  | @cons part c parts cs hpart _ ih =>
    rcases hpart with rfl | ⟨rfl, hsmall⟩
    · rw [charsOf?, ih, Option.map_some]
    · have hhigh : (decide (0xD800 ≤ c.toNat) && decide (c.toNat < 0xDC00)) = false := by
        simp; omega
      have hlow : (decide (0xDC00 ≤ c.toNat) && decide (c.toNat < 0xE000)) = false := by
        simp; omega
      unfold charsOf?
      simp only [hhigh, hlow, ih]
      simp

theorem hexDigit?_digitChar : ∀ n < 16, Text.hexDigit? (Nat.digitChar n) = some n := by
  decide

namespace Scanner

/-- **Escapes are undone.** -/
theorem exists_part_of_escape (c : Char) : ∃ part, Part.Spells part c ∧
    ∀ parts rest, (text parts).tokens (Json.escape c ++ rest) = (text (part :: parts)).tokens rest := by
  unfold Json.escape
  split
  case h_1 => exact ⟨.char '"', .inl rfl, fun _ _ => rfl⟩
  case h_2 => exact ⟨.char '\\', .inl rfl, fun _ _ => rfl⟩
  case h_3 => exact ⟨.char '\x08', .inl rfl, fun _ _ => rfl⟩
  case h_4 => exact ⟨.char '\x0C', .inl rfl, fun _ _ => rfl⟩
  case h_5 => exact ⟨.char '\n', .inl rfl, fun _ _ => rfl⟩
  case h_6 => exact ⟨.char '\r', .inl rfl, fun _ _ => rfl⟩
  case h_7 => exact ⟨.char '\t', .inl rfl, fun _ _ => rfl⟩
  case h_8 _ hquote hbackslash _ _ _ _ _ =>
    split
    next hsmall =>
      have hfirst := hexDigit?_digitChar (c.toNat / 16) (by omega)
      have hlast := hexDigit?_digitChar (c.toNat % 16) (by omega)
      have hvalue : ((0 * 16 + 0) * 16 + c.toNat / 16) * 16 + c.toNat % 16 = c.toNat := by omega
      refine ⟨.unit c.toNat, .inr ⟨rfl, hsmall⟩, fun parts rest => ?_⟩
      show (unit parts [0, 0]).tokens
        (Nat.digitChar (c.toNat / 16) :: Nat.digitChar (c.toNat % 16) :: rest) = _
      simp only [tokens, step, hfirst, hlast, List.nil_append, hvalue]
    next hlarge =>
      refine ⟨.char c, .inl rfl, fun parts rest => ?_⟩
      rw [List.singleton_append, tokens, step, if_neg hquote, if_neg hbackslash, if_neg hlarge]
      rfl

theorem tokens_text (cs : List Char) : ∃ parts, List.Forall₂ Part.Spells parts cs ∧
    ∀ before rest, (text before).tokens (cs.flatMap Json.escape ++ rest) =
      (text (parts.reverse ++ before)).tokens rest := by
  induction cs with
  | nil => exact ⟨[], .nil, fun _ _ => rfl⟩
  | cons c cs ih =>
    obtain ⟨part, hpart, hescape⟩ := exists_part_of_escape c
    obtain ⟨parts, hparts, hrest⟩ := ih
    refine ⟨part :: parts, .cons hpart hparts, fun before rest => ?_⟩
    rw [List.flatMap_cons, List.append_assoc, hescape, hrest, List.reverse_cons, List.append_assoc]
    rfl

/-- **A text is one token.** -/
theorem tokens_quote (s : String) (rest : List Char) :
    idle.tokens (Json.quote s ++ rest) = .scalar (.text s) :: idle.tokens rest := by
  obtain ⟨parts, hparts, htokens⟩ := tokens_text s.toList
  have hopen : idle.tokens (Json.quote s ++ rest) =
      (text []).tokens (s.toList.flatMap Json.escape ++ '"' :: rest) := by
    rw [Json.quote, List.cons_append, List.append_assoc]
    rfl
  have htoken : ofParts parts = .scalar (.text s) := by
    rw [ofParts, charsOf?_of_spells hparts]
    simp
  rw [hopen, htokens, List.append_nil, tokens, step, if_pos rfl, List.reverse_reverse, htoken]
  rfl

end Scanner

end JsonToken

end ChatCommands
