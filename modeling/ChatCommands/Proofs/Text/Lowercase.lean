import Mathlib.Tactic.SplitIfs
import ChatCommands.Text.AsciiCase
import ChatCommands.Text.Blank
import ChatCommands.Text.Lowercase

/-!
# What lowercasing leaves alone

Names are kept in lowercase and lowercased again when they are compared. That does no harm:

**Theorem (`lower_lower`).** Lowercasing a text twice is lowercasing it once.

The lowercase form depends on the context of a character only where the character is replaced, so it is
enough that no replacement is replaced in turn. The table of counterparts is checked for this run by
run (`tables_apart`, `separate_capitals`).

A lowercase text holds no ASCII capital (`foldAscii_lower`), and no dots, quotes or blanks that were not
there before (`not_mem_lower`, `isBlank_of_mem_lower`).
-/

namespace ChatCommands.Text

/-! ## The table of counterparts -/

namespace CaseRun

/-- The counterparts that `r` assigns lie outside `r'`: before it, after it, or between its
characters, which are every other one. -/
def separate (r r' : CaseRun) : Bool :=
  (r.target + (r.last - r.first)).blt r'.first || r'.last.blt r.target ||
    ((r.step.beq 2 || r.first.beq r.last) && r'.step.beq 2 && ((r.target + r'.first) % 2).beq 1)

theorem contains_iff {r : CaseRun} {point : Nat} :
    r.contains point = true ↔
      (r.first ≤ point ∧ point ≤ r.last) ∧ (point - r.first) % r.step = 0 := by
  simp [contains]

theorem not_contains_lower {r r' : CaseRun} (h : r.separate r' = true) {point : Nat}
    (hpoint : r.contains point = true) : ¬ r'.contains (r.lower point) = true := by
  rw [contains_iff] at hpoint ⊢
  rintro ⟨⟨hfirst, hlast⟩, hstep⟩
  obtain ⟨⟨hfirst', hlast'⟩, hstep'⟩ := hpoint
  simp only [separate, Bool.or_eq_true, Bool.and_eq_true, Nat.blt_eq, Nat.beq_eq] at h
  rw [lower] at hfirst hlast hstep
  rcases h with (hbefore | hafter) | ⟨⟨heven, htwo⟩, hodd⟩
  · omega
  · omega
  · -- The counterparts stand at places of one parity and the characters of `r'` at the other.
    have hsame : (point - r.first) % 2 = 0 := by
      rcases heven with heven | hsingle
      · rwa [heven] at hstep'
      · have : point - r.first = 0 := by omega
        rw [this]
    rw [htwo] at hstep
    omega

end CaseRun

/-- The characters that lowercasing replaces: those with a counterpart of one character, and `İ`. -/
def capitals : List CaseRun :=
  ⟨0x130, 0x130, 1, 0x69⟩ :: caseRuns

def isCapital (c : Char) : Bool :=
  capitals.any (·.contains c.toNat)

/-- What `Σ` and `İ` are replaced by. -/
def exceptions : List Char := ['ς', 'σ', 'i', '\u0307']

/-- Lowercasing puts no character of the spans in place of another one. -/
def introducesNone (spans : List Span) : Bool :=
  (exceptions.all fun c => !Span.anyContains spans c) &&
    spans.all fun span => Nat.blt 0 span.first && caseRuns.all fun r =>
      (r.target + (r.last - r.first)).blt span.first || span.last.blt r.target

/-- The dot as a table. -/
def dotSpans : List Span := [⟨0x2E, 0x2E⟩]

-- All that is read off the tables, in one evaluation of them.
theorem tables_apart :
    (caseRuns.all fun r => capitals.all r.separate) = true ∧
      (capitals.all fun r => Nat.blt 0 r.first) = true ∧
      (('.' :: exceptions).all fun c => !isCapital c) = true ∧
      (isCapital 'Σ' && isCapital 'İ') = true ∧
      introducesNone dotSpans = true ∧ introducesNone blankSpans = true := by
  decide +kernel

/-- **No counterpart has a counterpart.** -/
theorem separate_capitals {r r' : CaseRun} (hr : r ∈ caseRuns) (hr' : r' ∈ capitals) :
    r.separate r' = true :=
  List.all_eq_true.1 (List.all_eq_true.1 tables_apart.1 r hr) r' hr'

/-- No capital is the first code point of all. -/
theorem pos_capitals {r : CaseRun} (hr : r ∈ capitals) : 0 < r.first := by
  rw [← Nat.blt_eq]
  exact List.all_eq_true.1 tables_apart.2.1 r hr

/-- Neither the dot nor what the two exceptions are replaced by is a capital. -/
theorem isCapital_exceptions : ∀ c ∈ '.' :: exceptions, isCapital c = false := by
  simpa using tables_apart.2.2.1

/-- The two characters that are replaced in a way of their own. -/
theorem isCapital_replaced : isCapital 'Σ' = true ∧ isCapital 'İ' = true :=
  Bool.and_eq_true_iff.1 tables_apart.2.2.2.1

theorem introducesNone_dot : introducesNone dotSpans = true :=
  tables_apart.2.2.2.2.1

theorem introducesNone_blank : introducesNone blankSpans = true :=
  tables_apart.2.2.2.2.2

theorem toNat_ofNat (n : Nat) : (Char.ofNat n).toNat = n ∨ (Char.ofNat n).toNat = 0 := by
  by_cases h : n.isValidChar
  · left
    rw [Char.ofNat, dif_pos h]
    rfl
  · right
    rw [Char.ofNat, dif_neg h]
    rfl

/-! ## Characters -/

theorem isCapital_eq_false_iff {c : Char} :
    isCapital c = false ↔ ∀ r ∈ capitals, ¬ r.contains c.toNat = true := by
  simp [isCapital]

theorem lowerChar_of_not_isCapital {c : Char} (h : isCapital c = false) : lowerChar c = c := by
  have hnone : caseRuns.find? (·.contains c.toNat) = none :=
    List.find?_eq_none.2 fun r hr => isCapital_eq_false_iff.1 h r (List.mem_cons_of_mem _ hr)
  rw [lowerChar, hnone]

/-- A character without a run of its own is left alone, any other gets the counterpart of its run. -/
theorem lowerChar_cases (c : Char) :
    (lowerChar c = c ∧ ∀ r ∈ caseRuns, ¬ r.contains c.toNat = true) ∨
      ∃ r ∈ caseRuns, r.contains c.toNat = true ∧ lowerChar c = Char.ofNat (r.lower c.toNat) := by
  unfold lowerChar
  cases hfind : caseRuns.find? (·.contains c.toNat) with
  | none => exact .inl ⟨rfl, List.find?_eq_none.1 hfind⟩
  | some r =>
    have hcontains := List.find?_some hfind
    exact .inr ⟨r, List.mem_of_find?_eq_some hfind, hcontains, rfl⟩

theorem isCapital_lowerChar {c : Char} (h : c ≠ 'İ') : isCapital (lowerChar c) = false := by
  rw [isCapital_eq_false_iff]
  intro r' hr'
  rcases lowerChar_cases c with ⟨heq, hnone⟩ | ⟨r, hr, hcontains, heq⟩
  · rw [heq]
    rcases List.mem_cons.1 hr' with rfl | hr'
    · rw [CaseRun.contains_iff]
      rintro ⟨⟨hfirst, hlast⟩, -⟩
      exact h (Char.toNat_inj.1 (Nat.le_antisymm hlast hfirst))
    · exact hnone r' hr'
  · rw [heq]
    rcases toNat_ofNat (r.lower c.toNat) with hvalid | hzero
    · rw [hvalid]
      exact CaseRun.not_contains_lower (separate_capitals hr hr') hcontains
    · have hpos := pos_capitals hr'
      rw [hzero, CaseRun.contains_iff]
      omega

theorem anyContains_lowerChar {spans : List Span} (h : introducesNone spans = true) {c : Char}
    (hc : Span.anyContains spans c = false) : Span.anyContains spans (lowerChar c) = false := by
  rcases lowerChar_cases c with ⟨heq, -⟩ | ⟨r, hr, hcontains, heq⟩
  · rw [heq]
    exact hc
  · rw [Bool.eq_false_iff, Ne, Span.anyContains_iff, heq]
    rintro ⟨span, hspan, hfirst, hlast⟩
    simp only [introducesNone, Bool.and_eq_true, List.all_eq_true, Bool.or_eq_true, Nat.blt_eq] at h
    obtain ⟨hpos, hruns⟩ := h.2 span hspan
    have hapart := hruns r hr
    have hrange := (CaseRun.contains_iff.1 hcontains).1
    rcases toNat_ofNat (r.lower c.toNat) with hvalid | hzero
    · rw [hvalid, CaseRun.lower] at hfirst hlast
      omega
    · omega

/-- ASCII capitals are capitals. -/
theorem toLower_of_not_isCapital {c : Char} (h : isCapital c = false) : c.toLower = c := by
  have hascii := isCapital_eq_false_iff.1 h ⟨0x41, 0x5A, 1, 0x61⟩ (.tail _ (.head _))
  rw [CaseRun.contains_iff, Nat.mod_one] at hascii
  unfold Char.toLower
  split_ifs with hupper
  · refine absurd ⟨⟨?_, ?_⟩, rfl⟩ hascii
    · exact hupper.1
    · exact hupper.2
  · rfl

/-! ## Texts -/

/-- What can stand in place of a character. -/
theorem mem_lowerAt {before after : List Char} {c d : Char} (h : d ∈ lowerAt before c after) :
    d ∈ exceptions ∨ (c ≠ 'İ' ∧ d = lowerChar c) := by
  unfold lowerAt at h
  split_ifs at h with hsigma hfinal hdotted
  · exact .inl (by simp_all [exceptions])
  · exact .inl (by simp_all [exceptions])
  · exact .inl (by simp_all [exceptions])
  · exact .inr ⟨hdotted, List.mem_singleton.1 h⟩

/-- What stands in place of a character is never replaced in turn. -/
theorem isCapital_of_mem_lowerAt {before after : List Char} {c d : Char}
    (h : d ∈ lowerAt before c after) : isCapital d = false := by
  rcases mem_lowerAt h with hd | ⟨hdotted, rfl⟩
  · exact isCapital_exceptions d (List.mem_cons_of_mem _ hd)
  · exact isCapital_lowerChar hdotted

/-- Only capitals are replaced, wherever they stand. -/
theorem lowerAt_of_not_isCapital {c : Char} (h : isCapital c = false) (before after : List Char) :
    lowerAt before c after = [c] := by
  obtain ⟨hupper, hupper'⟩ := isCapital_replaced
  have hsigma : c ≠ 'Σ' := by
    rintro rfl
    cases h.symm.trans hupper
  have hdotted : c ≠ 'İ' := by
    rintro rfl
    cases h.symm.trans hupper'
  rw [lowerAt, if_neg hsigma, if_neg hdotted, lowerChar_of_not_isCapital h]

theorem isCapital_of_mem_lowerFrom {before cs : List Char} {d : Char}
    (h : d ∈ lowerFrom before cs) : isCapital d = false := by
  induction cs generalizing before with
  | nil => cases h
  | cons c cs ih =>
    rcases List.mem_append.1 h with h | h
    · exact isCapital_of_mem_lowerAt h
    · exact ih h

theorem lowerFrom_of_not_isCapital {cs : List Char} (h : ∀ c ∈ cs, isCapital c = false)
    (before : List Char) : lowerFrom before cs = cs := by
  induction cs generalizing before with
  | nil => rfl
  | cons c cs ih =>
    rw [lowerFrom, lowerAt_of_not_isCapital (h c List.mem_cons_self),
      ih fun d hd => h d (List.mem_cons_of_mem _ hd), List.singleton_append]

theorem isCapital_of_mem_lower {s : String} {c : Char} (h : c ∈ (lower s).toList) :
    isCapital c = false := by
  rw [lower, String.toList_ofList] at h
  exact isCapital_of_mem_lowerFrom h

/-- **Lowercasing a text twice is lowercasing it once.** -/
theorem lower_lower (s : String) : lower (lower s) = lower s := by
  have hsame : lowerFrom [] (lower s).toList = (lower s).toList :=
    lowerFrom_of_not_isCapital (fun _ => isCapital_of_mem_lower) []
  rw [lower, hsame, String.ofList_toList]

/-- A lowercase text is its own form up to ASCII case. -/
theorem foldAscii_lower (s : String) : foldAscii (lower s) = lower s := by
  apply String.toList_inj.1
  rw [foldAscii, String.toList_map]
  exact (List.map_congr_left fun c hc =>
    toLower_of_not_isCapital (isCapital_of_mem_lower hc)).trans (List.map_id _)

/-! ## Characters that do not come in -/

section
variable {spans : List Span} (h : introducesNone spans = true)
include h

theorem anyContains_lowerAt {before after : List Char} {c d : Char}
    (hc : Span.anyContains spans c = false) (hd : d ∈ lowerAt before c after) :
    Span.anyContains spans d = false := by
  rcases mem_lowerAt hd with hd | ⟨-, rfl⟩
  · simp only [introducesNone, Bool.and_eq_true, List.all_eq_true, Bool.not_eq_true'] at h
    exact h.1 d hd
  · exact anyContains_lowerChar h hc

theorem anyContains_lowerFrom {before cs : List Char}
    (hcs : ∀ c ∈ cs, Span.anyContains spans c = false) {d : Char}
    (hd : d ∈ lowerFrom before cs) : Span.anyContains spans d = false := by
  induction cs generalizing before with
  | nil => cases hd
  | cons c cs ih =>
    rcases List.mem_append.1 hd with hd | hd
    · exact anyContains_lowerAt h (hcs c List.mem_cons_self) hd
    · exact ih (fun c hc => hcs c (List.mem_cons_of_mem _ hc)) hd

/-- **A lowercase text holds no character of the spans that was not there before.** -/
theorem anyContains_of_mem_lower {s : String}
    (hs : ∀ c ∈ s.toList, Span.anyContains spans c = false) {d : Char}
    (hd : d ∈ (lower s).toList) : Span.anyContains spans d = false := by
  rw [lower, String.toList_ofList] at hd
  exact anyContains_lowerFrom h hs hd

end

theorem isBlank_of_mem_lower {s : String} (h : ∀ c ∈ s.toList, isBlank c = false) {d : Char}
    (hd : d ∈ (lower s).toList) : isBlank d = false :=
  anyContains_of_mem_lower introducesNone_blank h hd

/-- The table of a single character. -/
theorem anyContains_singleton {c d : Char} :
    Span.anyContains [⟨d.toNat, d.toNat⟩] c = false ↔ c ≠ d := by
  rw [Bool.eq_false_iff]
  refine not_congr (Span.anyContains_iff.trans ⟨?_, ?_⟩)
  · rintro ⟨span, hspan, hfirst, hlast⟩
    obtain rfl := List.mem_singleton.1 hspan
    exact Char.toNat_inj.1 (Nat.le_antisymm hlast hfirst)
  · rintro rfl
    exact ⟨_, List.mem_singleton_self _, Nat.le_refl _, Nat.le_refl _⟩

theorem not_mem_lower {d : Char} (h : introducesNone [⟨d.toNat, d.toNat⟩] = true) {s : String}
    (hs : d ∉ s.toList) : d ∉ (lower s).toList := by
  intro hd
  refine anyContains_singleton.1 (anyContains_of_mem_lower h (fun c hc => ?_) hd) rfl
  rw [anyContains_singleton]
  rintro rfl
  exact hs hc

theorem dot_not_mem_lowerAt {c : Char} (h : c ≠ '.') (before after : List Char) :
    '.' ∉ lowerAt before c after := by
  intro hdot
  have hc : Span.anyContains dotSpans c = false := anyContains_singleton.2 h
  have hd := anyContains_lowerAt introducesNone_dot hc hdot
  cases hd

theorem dot_not_mem_lower {s : String} (h : '.' ∉ s.toList) : '.' ∉ (lower s).toList :=
  not_mem_lower (d := '.') introducesNone_dot h

/-- No letter becomes a quote in lowercase. -/
theorem introducesNone_quote : introducesNone [⟨'"'.toNat, '"'.toNat⟩] = true := by
  decide +kernel

/-! ## Characters that stay -/

theorem isCapital_quote : isCapital '"' = false := by
  decide +kernel

/-- A character that is no capital stays in the text. -/
theorem mem_lower {s : String} {c : Char} (hcapital : isCapital c = false) (hc : c ∈ s.toList) :
    c ∈ (lower s).toList := by
  have hfrom : ∀ (cs before : List Char), c ∈ cs → c ∈ lowerFrom before cs := by
    intro cs
    induction cs with
    | nil => exact fun _ hmem => absurd hmem List.not_mem_nil
    | cons d cs ih =>
      intro before hmem
      rw [lowerFrom, List.mem_append]
      rcases List.mem_cons.1 hmem with rfl | hmem
      · rw [lowerAt_of_not_isCapital hcapital]
        exact .inl (List.mem_singleton_self _)
      · exact .inr (ih _ hmem)
  rw [lower, String.toList_ofList]
  exact hfrom s.toList [] hc

theorem lower_ne_empty {s : String} (h : s ≠ "") : lower s ≠ "" := by
  intro hempty
  have hnil : lowerFrom [] s.toList = [] := by
    rw [← String.toList_ofList (l := lowerFrom [] s.toList)]
    exact congrArg String.toList hempty
  cases hs : s.toList with
  | nil => exact h (String.toList_eq_nil_iff.1 hs)
  | cons c cs =>
    rw [hs, lowerFrom, List.append_eq_nil_iff] at hnil
    revert hnil
    unfold lowerAt
    split_ifs <;> simp

end ChatCommands.Text
