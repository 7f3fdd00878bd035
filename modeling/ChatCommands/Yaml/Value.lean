/-!
# YAML values

A YAML document holds one value: a scalar, a list or a mapping. What a scalar stands for is for its
reader to tell, from its text, its style and its tag. A value may have a name, and a reference to
it may stand where a value is due.
-/

namespace ChatCommands

inductive ScalarStyle where
  | plain
  | quoted
  /-- A block whose lines stay lines. -/
  | literal
  /-- A block whose lines are joined. -/
  | folded
  deriving DecidableEq

inductive Yaml where
  | scalar (style : ScalarStyle) (tag : Option String) (text : String)
  | list (items : List Yaml)
  | mapping (members : List (Yaml × Yaml))
  /-- Stands for the value at a place among the named values of the document. -/
  | reference (place : Nat)

namespace Yaml

instance : Inhabited Yaml := ⟨list []⟩

def empty : Yaml :=
  scalar .plain none ""

def isReference : Yaml → Bool
  | reference _ => true
  | _ => false

mutual

/-- The number of parts: one for a scalar or a reference, two for the ends of a list or mapping. -/
def size : Yaml → Nat
  | list items => 2 + sizeOfItems items
  | mapping members => 2 + sizeOfMembers members
  | _ => 1

def sizeOfItems : List Yaml → Nat
  | [] => 0
  | v :: vs => size v + sizeOfItems vs

def sizeOfMembers : List (Yaml × Yaml) → Nat
  | [] => 0
  | (key, v) :: ms => size key + size v + sizeOfMembers ms

end

end Yaml

end ChatCommands
