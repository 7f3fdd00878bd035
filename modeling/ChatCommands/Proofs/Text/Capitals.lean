import ChatCommands.Proofs.Text.Lowercase

/-!
# Capitals outside ASCII

Lowercasing replaces the capitals of all scripts, while equality up to ASCII case only makes up for `A` to
`Z`. So a text agrees with its own lowercase form up to ASCII case only if it has no other capitals.

* `PlainCase`: all capitals of a text are ASCII ones.

**Theorem (`sameUpToAsciiCase_iff_eq_lower`).** Up to ASCII case, a lowercase text agrees with a text of
plain case exactly if it is the lowercase form of that text, and with no other texts
(`plainCase_of_sameUpToAsciiCase`).
-/

namespace ChatCommands.Text

/-- Every capital of the text is an ASCII one. -/
def PlainCase (s : String) : Prop :=
  ∀ c ∈ s.toList, isCapital c = true → c.isUpper = true

instance (s : String) : Decidable (PlainCase s) :=
  List.decidableBAll (fun c => isCapital c = true → c.isUpper = true) s.toList

/-- Only ASCII capitals are folded. -/
theorem toLower_of_not_isUpper {c : Char} (h : c.isUpper = false) : c.toLower = c := by
  unfold Char.toLower
  split_ifs with hupper
  · exact absurd hupper (of_decide_eq_false h)
  · rfl

/-- The lowercase counterparts of the ASCII capitals are their ASCII counterparts. -/
theorem lowerAt_of_isUpper {c : Char} (h : c.isUpper = true) (before after : List Char) :
    lowerAt before c after = [c.toLower] := by
  have htable : ∀ n < 26, Char.ofNat (0x41 + n) ≠ 'Σ' ∧ Char.ofNat (0x41 + n) ≠ 'İ' ∧
      lowerChar (Char.ofNat (0x41 + n)) = (Char.ofNat (0x41 + n)).toLower := by
    decide +kernel
  have hrange : 0x41 ≤ c.toNat ∧ c.toNat ≤ 0x5A := by
    obtain ⟨hlow, hhigh⟩ : 'A'.val ≤ c.val ∧ c.val ≤ 'Z'.val := of_decide_eq_true h
    exact ⟨UInt32.le_iff_toNat_le.1 hlow, UInt32.le_iff_toNat_le.1 hhigh⟩
  obtain ⟨hsigma, hdotted, hlower⟩ := htable (c.toNat - 0x41) (by omega)
  rw [Nat.add_sub_cancel' hrange.1, Char.ofNat_toNat] at hsigma hdotted hlower
  rw [lowerAt, if_neg hsigma, if_neg hdotted, hlower]

/-- **A text of plain case is lowercased by folding ASCII.** -/
theorem foldAscii_eq_lower {s : String} (h : PlainCase s) : foldAscii s = lower s := by
  have hfrom : ∀ (cs before : List Char), (∀ c ∈ cs, isCapital c = true → c.isUpper = true) →
      lowerFrom before cs = cs.map Char.toLower := by
    intro cs
    induction cs with
    | nil => exact fun _ _ => rfl
    | cons c cs ih =>
      intro before hcs
      have hc : lowerAt before c cs = [c.toLower] := by
        cases hcapital : isCapital c with
        | true => exact lowerAt_of_isUpper (hcs c List.mem_cons_self hcapital) before cs
        | false =>
          rw [lowerAt_of_not_isCapital hcapital, toLower_of_not_isCapital hcapital]
      rw [lowerFrom, hc, ih _ fun d hd => hcs d (List.mem_cons_of_mem _ hd)]
      rfl
  rw [← String.toList_inj, foldAscii, String.toList_map, lower, String.toList_ofList, hfrom _ _ h]

/-- **No lowercase text agrees with a text that has other capitals**, up to ASCII case. -/
theorem plainCase_of_sameUpToAsciiCase {literal s : String} (hlower : lower literal = literal)
    (h : sameUpToAsciiCase literal s = true) : PlainCase s := by
  intro c hc hcapital
  have hfolded : foldAscii s = lower literal := by
    calc foldAscii s = foldAscii literal := (sameUpToAsciiCase_iff.1 h).symm
      _ = foldAscii (lower literal) := by rw [hlower]
      _ = lower literal := foldAscii_lower literal
  cases hupper : c.isUpper with
  | true => rfl
  | false =>
    -- The capital is not folded, so it stands in the lowercase text as well.
    have hmem : c ∈ (foldAscii s).toList := by
      rw [foldAscii, String.toList_map]
      exact List.mem_map.2 ⟨c, hc, toLower_of_not_isUpper hupper⟩
    rw [hfolded] at hmem
    cases hcapital.symm.trans (isCapital_of_mem_lower hmem)

/-- **Up to ASCII case, a lowercase text agrees with those of plain case whose lowercase form it is.** -/
theorem sameUpToAsciiCase_iff_eq_lower {literal s : String} (hlower : lower literal = literal) :
    sameUpToAsciiCase literal s = true ↔ PlainCase s ∧ literal = lower s := by
  have hfolded : foldAscii literal = literal := by rw [← hlower, foldAscii_lower]
  constructor
  · intro h
    have hplain := plainCase_of_sameUpToAsciiCase hlower h
    refine ⟨hplain, ?_⟩
    rw [← foldAscii_eq_lower hplain, ← sameUpToAsciiCase_iff.1 h, hfolded]
  · rintro ⟨hplain, hliteral⟩
    rw [sameUpToAsciiCase_iff, hfolded, foldAscii_eq_lower hplain]
    exact hliteral

-- Capital letters of other scripts, and signs that stand for a capital letter.
example : PlainCase "Voice" ∧ PlainCase "été" ∧ ¬ PlainCase "Été" ∧ ¬ PlainCase "ΑΣ" ∧
    ¬ PlainCase "\u212A" := by
  decide +kernel

end ChatCommands.Text
