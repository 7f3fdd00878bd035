import ChatCommands.Json.Value
import ChatCommands.Text.Decimal

/-!
# JSON numbers

A natural number of at most 64 bits is known exactly, and of any other number it is known whether it
lies in the range of double precision. The range is that of the number as it is scaled: digits that
do not fit in 64 bits only count as places, and the significand and the power of ten are each
rounded first. So close to the limit the last digits of a number may decide other than its exact
value would.
-/

namespace ChatCommands

namespace JsonNumber

/-! ## The range -/

/-- The least positive number that double precision rounds to infinity. -/
def doubleLimit : Nat := Nat.pow 2 1024 - Nat.pow 2 970

/-- The nearest number with at most 53 significant bits, of two the one with an even last bit. -/
def roundToDouble (n : Nat) : Nat :=
  let unit := Nat.pow 2 (n.log2 - 52)
  let quotient := n / unit
  let remainder := n % unit
  if unit < 2 * remainder || (unit == 2 * remainder && quotient % 2 == 1) then
    (quotient + 1) * unit
  else quotient * unit

/-- No power of ten above `10 ^ 308` is itself in the range. -/
def isFinite (significand : Nat) (exponent : Int) : Bool :=
  if significand = 0 ∨ exponent < 0 then true
  else if 308 < exponent then false
  else decide (roundToDouble significand * roundToDouble (Nat.pow 10 exponent.toNat) < doubleLimit)

/-! ## Digits -/

/-- The number that `n` grows to as long as it fits in 64 bits, and the count of digits left over. -/
def extend (n : Nat) : List Char → Nat × Nat
  | [] => (n, 0)
  | c :: cs =>
    let m := 10 * n + Text.digitValue c
    if m < Nat.pow 2 64 then extend m cs else (n, cs.length + 1)

/-- A digit left over before the point counts as a place; one after it counts for nothing. -/
def isInRange (whole fraction : List Char) (exponent : Int) : Bool :=
  let (significand, wholeLeft) := extend 0 whole
  let (significand, fractionLeft) := extend significand fraction
  isFinite significand (exponent + wholeLeft + fractionLeft - fraction.length)

/-! ## Reading a number -/

def digits? (cs : List Char) : Option (List Char × List Char) :=
  let (digits, rest) := cs.span Char.isDigit
  if digits.isEmpty then none else some (digits, rest)

def fraction? : List Char → Option (List Char × List Char)
  | '.' :: cs => digits? cs
  | cs => some ([], cs)

def exponent? : List Char → Option Int
  | [] => some 0
  | e :: cs =>
    if e = 'e' || e = 'E' then
      let (sign, cs) := match cs with
        | '-' :: cs => (-1, cs)
        | '+' :: cs => (1, cs)
        | cs => (1, cs)
      match digits? cs with
      | some (digits, []) => some (sign * (Text.natOfDigits digits : Int))
      | _ => none
    else none

def unsigned? (negative : Bool) (cs : List Char) : Option Json := do
  let (whole, rest) ← digits? cs
  if whole.head? = some '0' ∧ 1 < whole.length then none
  let n := Text.natOfDigits whole
  if rest.isEmpty ∧ !negative ∧ n < Nat.pow 2 64 then return .natural n
  let (fraction, rest) ← fraction? rest
  let exponent ← exponent? rest
  return .number (isInRange whole fraction exponent)

def ofWord? : List Char → Option Json
  | '-' :: cs => unsigned? true cs
  | cs => unsigned? false cs

end JsonNumber

end ChatCommands
