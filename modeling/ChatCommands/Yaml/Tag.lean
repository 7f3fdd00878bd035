import ChatCommands.Assoc
import ChatCommands.Text.Hex
import ChatCommands.Yaml.Character

/-!
# Tags

A tag tells of what kind a value is. It is written in full as `!<tag>`, or as a handle and the rest
of the tag: the handle is `!`, `!!` or a name between two exclamation marks, and the document tells
what it stands for. A sole `!` is a tag of its own.

A percent sign and two hexadecimal digits stand for an octet. Octets must come in groups that have
the form of one character in UTF-8. Each counts as a character of its own, and an octet 0 ends the
tag.
-/

namespace ChatCommands.Yaml

def isTagChar (c : Char) : Bool :=
  isNameChar c || ";/?:@&=+$.!~*'()%".toList.contains c

def isFullTagChar (c : Char) : Bool :=
  isTagChar c || [',', '[', ']'].contains c

/-- A tag written so far, given last character first, goes on with `c`. -/
def continuesTag (written : List Char) (c : Char) : Bool :=
  match written.reverse with
  | ['!'] => isTagChar c || c = '<'
  | '!' :: '<' :: _ => written.head? ≠ some '>' && (isFullTagChar c || c = '>')
  | _ => isTagChar c

/-! ## Octets -/

def octetsAfter? (first : Nat) : Option Nat :=
  if first < 0x80 then some 0
  else if first < 0xC0 then none
  else if first < 0xE0 then some 1
  else if first < 0xF0 then some 2
  else if first < 0xF8 then some 3
  else none

/-- The characters and octets of a text in which `due` octets of a character are still due. -/
def octets? (due : Nat) : List Char → Option (List Char)
  | [] => if due = 0 then some [] else none
  | '%' :: a :: b :: cs => do
    let octet := 16 * (← Text.hexDigit? a) + (← Text.hexDigit? b)
    let due ←
      if due = 0 then octetsAfter? octet
      else if 0x80 ≤ octet ∧ octet < 0xC0 then some (due - 1)
      else none
    return Char.ofNat octet :: (← octets? due cs)
  | c :: cs => if due = 0 ∧ c ≠ '%' then (octets? 0 cs).map (c :: ·) else none

def tagPart? (cs : List Char) : Option String :=
  (octets? 0 cs).map fun cs => String.ofList (cs.takeWhile (· ≠ '\x00'))

/-! ## Handles -/

/-- A tag as it is written. The handle is empty for a tag in full. -/
structure TagText where
  handle : String
  rest : String
  deriving DecidableEq

namespace TagText

def ofChars? : List Char → Option TagText
  | '!' :: '<' :: cs =>
    match cs.span (· ≠ '>') with
    | (c :: tag, ['>']) => (tagPart? (c :: tag)).map fun tag => { handle := "", rest := tag }
    | _ => none
  | '!' :: cs =>
    match cs.span isNameChar with
    | (name, '!' :: c :: rest) =>
      (tagPart? (c :: rest)).map fun rest =>
        { handle := String.ofList ('!' :: name ++ ['!']), rest }
    | (_, ['!']) => none
    | _ =>
      (tagPart? cs).map fun rest =>
        if rest = "" then { handle := "", rest := "!" } else { handle := "!", rest }
  | _ => none

def standardHandles : List (String × String) :=
  [("!", "!"), ("!!", "tag:yaml.org,2002:")]

def inFull? (handles : List (String × String)) (t : TagText) : Option String :=
  if t.handle = "" then some t.rest
  else (Assoc.get? t.handle (handles ++ standardHandles)).map (· ++ t.rest)

end TagText

/-! ## Tags of scalars -/

def nullTag : String := "tag:yaml.org,2002:null"

def switchTag : String := "tag:yaml.org,2002:bool"

def naturalTag : String := "tag:yaml.org,2002:int"

end ChatCommands.Yaml
