import ChatCommands.Text.Blank

/-!
# Tokens of a command line

A line falls into tokens at blanks. Between double quotes blanks do not separate, and the quotes
themselves are dropped; so `""` is an empty token, a quoted span may touch other text, and a quote
that is never closed runs to the end of the line.
-/

namespace ChatCommands.Tokens

/-- A token read so far, last character first: `none` for no token, `some []` for an empty one. -/
def flush : Option (List Char) → List String
  | some current => [String.ofList current.reverse]
  | none => []

/-- Where `quoted`, a quote is open, and `current` is the token that was begun. -/
def scan (quoted : Bool) (current : Option (List Char)) : List Char → List String
  | [] => flush current
  | c :: cs =>
    if c = '"' then scan (!quoted) (some (current.getD [])) cs
    else if Text.isBlank c && !quoted then flush current ++ scan quoted none cs
    else scan quoted (some (c :: current.getD [])) cs

end ChatCommands.Tokens

namespace ChatCommands

def tokenize (line : String) : List String :=
  Tokens.scan false none line.toList

end ChatCommands
