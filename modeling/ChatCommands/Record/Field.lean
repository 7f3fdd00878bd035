import ChatCommands.Record.Format

/-!
# Records by their fields

A record is described by its fields, in the order of declaration. Its document may name the fields,
in any order and with unknown ones among them, or list their values in order. Faults are found in
the order of the document; that a field is missing shows only at its end.
-/

namespace ChatCommands

structure Field (V R : Type) where
  name : String
  required : Bool := true
  read : R → V → Read R
  /-- How many references are followed to read the field's value. -/
  references : V → Nat

namespace Field

variable {V R α : Type}

def of (name : String) (required : Bool) (d : Decoder V α) (enter : R → α → R) :
    Field V R where
  name := name
  required := required
  read record v := enter record <$> d.read v
  references := d.references

/-- Reads named fields into a record, and tells which ones there were. -/
def readNamed (F : Format V) (fields : List (Field V R)) (seen : List String) (record : R) :
    List (Option String × V) → Read (R × List String)
  | [] => .ok (record, seen)
  | (none, _) :: _ => .error .unreadable
  | (some key, v) :: rest =>
    match fields.find? (·.name == key) with
    | none =>
      if F.isIgnorable v then readNamed F fields seen record rest else .error .unreadable
    | some field =>
      if seen.contains key then .error (.duplicateField key)
      else
        match field.read record v with
        | .error fault => .error fault
        | .ok record => readNamed F fields (key :: seen) record rest

def readListed (record : R) : List (Field V R) → List V → Read R
  | [], [] => .ok record
  | [], _ :: _ => .error .unreadable
  | field :: fields, [] =>
    if field.required then .error .unreadable else readListed record fields []
  | field :: fields, v :: rest =>
    match field.read record v with
    | .error fault => .error fault
    | .ok record => readListed record fields rest

def referencesOfNamed (fields : List (Field V R)) (members : List (Option String × V)) : Nat :=
  members.foldl (fun n (key, v) =>
    match fields.find? fun field => key == some field.name with
    | some field => n + field.references v
    | none => n) 0

/-- Reads a record. Fields that are not required keep the value that `blank` has for them. -/
def readRecord (F : Format V) (fields : List (Field V R)) (blank : R) (v : V) : Read R :=
  match F.parts? v with
  | none => .error .unreadable
  | some (.positional items) => readListed blank fields items
  | some (.named members) =>
    match readNamed F fields [] blank members with
    | .error fault => .error fault
    | .ok (record, seen) =>
      match fields.find? fun field => field.required && !seen.contains field.name with
      | some field => .error (.missingField field.name)
      | none => .ok record

def recordOf (F : Format V) (fields : List (Field V R)) (blank : R) : Decoder V R where
  read := readRecord F fields blank
  references v := F.references v +
    match F.parts? v with
    | some (.named members) => referencesOfNamed fields members
    | _ => 0

end Field

end ChatCommands
