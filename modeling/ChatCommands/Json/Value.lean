/-!
# JSON values

A JSON document is read from front to back, and what is wrong with it is found in that order. So the
value of a text also tells where the text stops being JSON: up to there it holds what was read, and
`broken` stands in place of all the rest.
-/

namespace ChatCommands

inductive Json where
  | null
  | bool (value : Bool)
  /-- A natural number below 2^64. -/
  | natural (n : Nat)
  /-- Any other number; the flag tells whether it lies in the range of double precision. -/
  | number (finite : Bool)
  | text (s : String)
  /-- A text in which an escape names half of a surrogate pair, so that it has no value. -/
  | halfPair
  | array (items : List Json)
  /-- Members in the order of the text. A key without a value of its own is `none`. -/
  | object (members : List (Option String × Json))
  | broken

namespace Json

instance : Inhabited Json := ⟨broken⟩

def ofMembers (members : List (String × Json)) : Json :=
  object (members.map fun (key, value) => (some key, value))

mutual

def isWhole : Json → Bool
  | array items => allWhole items
  | object members => allMembersWhole members
  | broken => false
  | _ => true

def allWhole : List Json → Bool
  | [] => true
  | v :: vs => isWhole v && allWhole vs

def allMembersWhole : List (Option String × Json) → Bool
  | [] => true
  | (_, v) :: ms => isWhole v && allMembersWhole ms

end

mutual

/-- Whole, with a value for each of its texts and numbers, and nested no deeper than `depth`: it can
be set aside and read later. -/
def isStorable (depth : Nat) : Json → Bool
  | array items => decide (0 < depth) && allStorable (depth - 1) items
  | object members => decide (0 < depth) && allMembersStorable (depth - 1) members
  | broken => false
  | halfPair => false
  | number finite => finite
  | _ => true

def allStorable (depth : Nat) : List Json → Bool
  | [] => true
  | v :: vs => isStorable depth v && allStorable depth vs

def allMembersStorable (depth : Nat) : List (Option String × Json) → Bool
  | [] => true
  | (key, v) :: ms => key.isSome && isStorable depth v && allMembersStorable depth ms

end

end Json

end ChatCommands
