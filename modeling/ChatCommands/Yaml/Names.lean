import ChatCommands.Assoc
import ChatCommands.Yaml.Value

/-!
# Named values of a YAML document

A value gets its name where it begins, so a reference to it may stand inside of it. References stand
for the value that holds the place of the name at the end of the document, earlier ones too.

The place of a name is the number of names there are when it is given. So a name that is given
again moves, and as it adds none, the next new name comes to the same place.
-/

namespace ChatCommands

structure YamlNames where
  /-- The place that each name leads to. -/
  places : List (String × Nat) := []
  /-- The number of the value that holds each place. -/
  holders : List (Nat × Nat) := []
  /-- How many values have been given names. Their numbers lie below. -/
  count : Nat := 0
  values : List (Nat × Yaml) := []

namespace YamlNames

def give (name : String) (n : YamlNames) : YamlNames :=
  let place := n.places.length
  { n with
    places := Assoc.put name place n.places
    holders := Assoc.put place n.count n.holders
    count := n.count + 1 }

def finish (number : Nat) (v : Yaml) (n : YamlNames) : YamlNames :=
  { n with values := (number, v) :: n.values }

def place? (name : String) (n : YamlNames) : Option Nat :=
  Assoc.get? name n.places

def valueAt? (place : Nat) (n : YamlNames) : Option Yaml :=
  (Assoc.get? place n.holders).bind (Assoc.get? · n.values)

def follow (n : YamlNames) : Yaml → Yaml
  | .reference place => (n.valueAt? place).getD .empty
  | v => v

end YamlNames

end ChatCommands
