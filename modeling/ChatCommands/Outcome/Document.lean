import ChatCommands.Json.Format
import ChatCommands.Outcome.Basic

/-!
# Outcomes in JSON

An outcome is written as its name. It may also be given as an object whose only member has the name
for its key and `null` for its value.
-/

namespace ChatCommands.Outcome

def ofName (name : String) : Read Outcome :=
  match ofName? name with
  | some o => .ok o
  | none => .error (.unknownVariant name (all.map Outcome.name))

def read : Json → Read Outcome
  | .text name => ofName name
  | .object ((some name, v) :: others) => do
    let o ← ofName name
    if v.isNull && others.isEmpty then .ok o else .error .unreadable
  | _ => .error .unreadable

def toJson (o : Outcome) : Json :=
  .text o.name

end ChatCommands.Outcome
