/-! # Faults in documents -/

namespace ChatCommands

inductive Fault where
  | unreadable
  | missingField (name : String)
  | duplicateField (name : String)
  | unknownVariant (name : String) (expected : List String)
  deriving DecidableEq

/-- A value, or what is at fault with its document. -/
abbrev Read (α : Type) := Except Fault α

namespace Fault

def quoted (name : String) : String :=
  "`" ++ name ++ "`"

def oneOf : List String → String
  | [a] => quoted a
  | [a, b] => quoted a ++ " or " ++ quoted b
  | names => "one of " ++ ", ".intercalate (names.map quoted)

/-- The fault in words, where there are any for it. -/
def message? : Fault → Option String
  | unreadable => none
  | missingField name => some ("missing field " ++ quoted name)
  | duplicateField name => some ("duplicate field " ++ quoted name)
  | unknownVariant name expected =>
    some ("unknown variant " ++ quoted name ++ ", expected " ++ oneOf expected)

end Fault

end ChatCommands
