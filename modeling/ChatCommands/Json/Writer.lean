import ChatCommands.Json.Value

/-!
# Writing JSON

A value is written without blanks between its tokens. Between quotes only those characters are
escaped that have to be. Values that are not known well enough to have a text are left out.
-/

namespace ChatCommands.Json

/-! ## Texts -/

def escape (c : Char) : List Char :=
  match c with
  | '"' => ['\\', '"']
  | '\\' => ['\\', '\\']
  | '\x08' => ['\\', 'b']
  | '\x0C' => ['\\', 'f']
  | '\n' => ['\\', 'n']
  | '\r' => ['\\', 'r']
  | '\t' => ['\\', 't']
  | c =>
    if c.toNat < 0x20 then
      ['\\', 'u', '0', '0', Nat.digitChar (c.toNat / 16), Nat.digitChar (c.toNat % 16)]
    else [c]

def quote (s : String) : List Char :=
  '"' :: (s.toList.flatMap escape ++ ['"'])

/-! ## Values -/

def separated (parts : List (List Char)) : List Char :=
  [','].intercalate parts

mutual

def chars : Json → List Char
  | null => "null".toList
  | bool true => "true".toList
  | bool false => "false".toList
  | natural n => Nat.toDigits 10 n
  | text s => quote s
  | array items => '[' :: (separated (charsOfItems items) ++ [']'])
  | object members => '\x7b' :: (separated (charsOfMembers members) ++ ['\x7d'])
  | number _ => []
  | halfPair => []
  | broken => []

def charsOfItems : List Json → List (List Char)
  | [] => []
  | v :: vs => chars v :: charsOfItems vs

def charsOfMembers : List (Option String × Json) → List (List Char)
  | [] => []
  | (key, v) :: ms => ((key.map quote).getD [] ++ ':' :: chars v) :: charsOfMembers ms

end

def write (v : Json) : String :=
  String.ofList v.chars

mutual

/-- The value has a text: its keys and texts have values, and its numbers are natural ones of at
most 64 bits. -/
def isWritable : Json → Bool
  | natural n => decide (n < Nat.pow 2 64)
  | array items => allWritable items
  | object members => allMembersWritable members
  | number _ => false
  | halfPair => false
  | broken => false
  | _ => true

def allWritable : List Json → Bool
  | [] => true
  | v :: vs => isWritable v && allWritable vs

def allMembersWritable : List (Option String × Json) → Bool
  | [] => true
  | (key, v) :: ms => key.isSome && isWritable v && allMembersWritable ms

end

end ChatCommands.Json
