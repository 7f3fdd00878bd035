import ChatCommands.Text.Decimal
import ChatCommands.Yaml.Tag

/-!
# Directives

In front of a document, lines that begin with a percent sign tell what it builds on: which version
of YAML it is written in, and what its handles of tags stand for.
-/

namespace ChatCommands

inductive YamlDirective where
  | version
  | handle (handle meaning : String)
  deriving DecidableEq

namespace YamlDirective

open Yaml (isBlank isNameChar isFullTagChar atGap isRemark tagPart?)

def maxDigits : Nat := 9

def number? (cs : List Char) : Option (Nat × List Char) :=
  let (digits, rest) := cs.span Char.isDigit
  if digits.isEmpty || maxDigits < digits.length then none
  else some (Text.natOfDigits digits, rest)

/-- The versions 1.1 and 1.2. -/
def version? (cs : List Char) : Option YamlDirective := do
  let (major, cs) ← number? (cs.dropWhile isBlank)
  match cs with
  | '.' :: cs =>
    let (minor, cs) ← number? cs
    if major = 1 ∧ (minor = 1 ∨ minor = 2) ∧ isRemark cs then some version else none
  | _ => none

def handleName? : List Char → Option (List Char × List Char)
  | '!' :: cs =>
    match cs.span isNameChar with
    | (name, '!' :: c :: rest) => if isBlank c then some ('!' :: name ++ ['!'], rest) else none
    | ([], c :: rest) => if isBlank c then some (['!'], rest) else none
    | _ => none
  | _ => none

def handle? (cs : List Char) : Option YamlDirective := do
  let (name, cs) ← handleName? (cs.dropWhile isBlank)
  let (meaning, cs) := (cs.dropWhile isBlank).span isFullTagChar
  if meaning.isEmpty || !(atGap cs && isRemark cs) then none
  return handle (String.ofList name) (← tagPart? meaning)

def ofLine? (line : List Char) : Option YamlDirective :=
  let (name, cs) := line.span isNameChar
  if !atGap cs then none
  else if name = "YAML".toList then version? cs
  else if name = "TAG".toList then handle? cs
  else none

end YamlDirective

end ChatCommands
