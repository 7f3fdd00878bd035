import ChatCommands.Text.Span

/-!
# Blank characters

The blank characters are those with the property White_Space of the Unicode Character Database.
Zero-width characters (U+200B, U+FEFF) and the Mongolian vowel separator (U+180E) do not have it.
Trimming and splitting into words go by this set.
-/

namespace ChatCommands.Text

def blankSpans : List Span :=
  [⟨0x09, 0x0D⟩, ⟨0x20, 0x20⟩, ⟨0x85, 0x85⟩, ⟨0xA0, 0xA0⟩, ⟨0x1680, 0x1680⟩,
   ⟨0x2000, 0x200A⟩, ⟨0x2028, 0x2029⟩, ⟨0x202F, 0x202F⟩, ⟨0x205F, 0x205F⟩, ⟨0x3000, 0x3000⟩]

def isBlank (c : Char) : Bool :=
  Span.anyContains blankSpans c

def trimFront (cs : List Char) : List Char :=
  cs.dropWhile isBlank

def trimBack (cs : List Char) : List Char :=
  (cs.reverse.dropWhile isBlank).reverse

def trim (s : String) : String :=
  String.ofList (trimBack (trimFront s.toList))

/-- The maximal blank-free pieces of the text, after the piece whose characters so far are
`current`, last one first. -/
def wordsFrom (current : List Char) : List Char → List (List Char)
  | [] => if current.isEmpty then [] else [current.reverse]
  | c :: cs =>
    if isBlank c then
      if current.isEmpty then wordsFrom [] cs else current.reverse :: wordsFrom [] cs
    else wordsFrom (c :: current) cs

def words (s : String) : List (List Char) :=
  wordsFrom [] s.toList

end ChatCommands.Text
