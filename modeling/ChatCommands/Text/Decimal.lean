/-! # Decimal digits -/

namespace ChatCommands.Text

def digitValue (c : Char) : Nat :=
  c.toNat - '0'.toNat

def natOfDigits (digits : List Char) : Nat :=
  digits.foldl (fun n c => 10 * n + digitValue c) 0

end ChatCommands.Text
