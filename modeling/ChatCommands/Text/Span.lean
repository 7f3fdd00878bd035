/-!
# Sets of characters by code point

A property of characters is tabulated as a list of closed spans of code points. A character has
the property when its code point lies in one of the spans.
-/

namespace ChatCommands.Text

structure Span where
  first : Nat
  last : Nat
  deriving DecidableEq, Repr

namespace Span

def contains (s : Span) (point : Nat) : Bool :=
  decide (s.first ≤ point) && decide (point ≤ s.last)

def anyContains (table : List Span) (c : Char) : Bool :=
  table.any (·.contains c.toNat)

theorem contains_iff {s : Span} {point : Nat} :
    s.contains point = true ↔ s.first ≤ point ∧ point ≤ s.last := by
  simp [contains]

theorem anyContains_iff {table : List Span} {c : Char} :
    anyContains table c = true ↔ ∃ s ∈ table, s.first ≤ c.toNat ∧ c.toNat ≤ s.last := by
  simp [anyContains, contains_iff]

end Span

end ChatCommands.Text
