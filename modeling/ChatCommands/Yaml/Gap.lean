import ChatCommands.Yaml.Character

/-!
# Gaps between words

Between two words of a scalar that is not a block, blanks count as they are. Where the gap crosses
lines, blanks are dropped and a single line feed becomes a space; of several breaks the first is
dropped.
-/

namespace ChatCommands.Yaml

/-- The gap after the last word so far. Characters are kept last one first. -/
inductive Gap where
  | blanks (cs : List Char)
  /-- The first break and the breaks after it. There is no first one if it was escaped. -/
  | breaks (first : Option Char) (more : List Char)

namespace Gap

def empty : Gap :=
  blanks []

def add (c : Char) : Gap → Gap
  | blanks cs => if isBreak c then breaks (some c) [] else blanks (c :: cs)
  | breaks first more => if isBreak c then breaks first (c :: more) else breaks first more

def crossesLine : Gap → Bool
  | blanks _ => false
  | breaks .. => true

def isEmpty : Gap → Bool
  | blanks cs => cs.isEmpty
  | breaks .. => false

def fold : Gap → List Char
  | blanks cs => cs
  | breaks none more => more
  | breaks (some first) more =>
    if first = '\n' then
      if more.isEmpty then [' '] else more
    else more ++ [first]

end Gap

end ChatCommands.Yaml
