import ChatCommands.Text.Lowercase.Context
import ChatCommands.Text.Lowercase.Mapping

/-!
# Lowercase form of a text

Full lowercasing as the Unicode Standard defines it for texts of no particular language. Each
character is replaced by its lowercase counterpart, with two exceptions:

* `İ` (U+0130) becomes `i` followed by the combining dot U+0307;
* the capital sigma `Σ` becomes `ς` at the end of a word and `σ` elsewhere. It ends a word when,
  case-ignorable characters skipped, a cased character stands before it and none after it.
-/

namespace ChatCommands.Text

def lowerChar (c : Char) : Char :=
  match caseRuns.find? (·.contains c.toNat) with
  | some run => Char.ofNat (run.lower c.toNat)
  | none => c

def meetsCased (cs : List Char) : Bool :=
  match cs.dropWhile isCaseIgnorable with
  | c :: _ => isCased c
  | [] => false

/-- The lowercase form of `c` after `before`, which is given last character first. -/
def lowerAt (before : List Char) (c : Char) (after : List Char) : List Char :=
  if c = 'Σ' then
    if meetsCased before && !meetsCased after then ['ς'] else ['σ']
  else if c = 'İ' then ['i', '\u0307']
  else [lowerChar c]

def lowerFrom (before : List Char) : List Char → List Char
  | [] => []
  | c :: cs => lowerAt before c cs ++ lowerFrom (c :: before) cs

def lower (s : String) : String :=
  String.ofList (lowerFrom [] s.toList)

end ChatCommands.Text
