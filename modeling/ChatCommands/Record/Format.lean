import ChatCommands.Record.Fault

/-!
# Document formats

Records are described once and read from documents of different formats. A format tells how its
values show as texts, switches, numbers, lists and records. References stand for values elsewhere in
the document; they are followed wherever a value is looked at, and a decoder tells how often.
-/

namespace ChatCommands

/-- A key without a value of its own is `none`. -/
inductive Parts (V : Type) where
  | named (members : List (Option String × V))
  | positional (items : List V)

structure Format (V : Type) where
  text? : V → Option String
  switch? : V → Option Bool
  /-- A natural number below 2^64. -/
  natural? : V → Option Nat
  /-- Whether the value is absent. There is no answer for one marked as absent that is not. -/
  isAbsent? : V → Option Bool
  items? : V → Option (List V)
  parts? : V → Option (Parts V)
  /-- The value may stand where nobody reads it. -/
  isIgnorable : V → Bool
  /-- How many references are followed to look at the value and at the keys of its members. -/
  references : V → Nat

structure Decoder (V α : Type) where
  read : V → Read α
  references : V → Nat

namespace Format

variable {V α : Type} (F : Format V)

def expect (show? : V → Option α) (v : V) : Read α :=
  match show? v with
  | some a => .ok a
  | none => .error .unreadable

def decoder (show? : V → Option α) : Decoder V α :=
  { read := expect show?, references := F.references }

def text : Decoder V String := F.decoder F.text?

def switch : Decoder V Bool := F.decoder F.switch?

def natural : Decoder V Nat := F.decoder F.natural?

def optional (d : Decoder V α) : Decoder V (Option α) where
  read v :=
    match F.isAbsent? v with
    | none => .error .unreadable
    | some true => .ok none
    | some false => some <$> d.read v
  references := d.references

def listOf (d : Decoder V α) : Decoder V (List α) where
  read v := do (← expect F.items? v).mapM d.read
  references v := ((F.items? v).getD []).foldl (· + d.references ·) (F.references v)

end Format

end ChatCommands
