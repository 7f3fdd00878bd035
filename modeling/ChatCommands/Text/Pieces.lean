/-!
# Pieces between separators

A text cut at every occurrence of a separator. Joining the pieces, some of them possibly empty, by
the separator gives the text back.
-/

namespace ChatCommands.Text

def splitFirst (sep : Char) : List Char → List Char × List (List Char)
  | [] => ([], [])
  | c :: cs =>
    let (piece, rest) := splitFirst sep cs
    if c = sep then ([], piece :: rest) else (c :: piece, rest)

def pieces (sep : Char) (s : String) : List String :=
  let (piece, rest) := splitFirst sep s.toList
  String.ofList piece :: rest.map String.ofList

end ChatCommands.Text
