import ChatCommands.Record.Field
import ChatCommands.Yaml.Document

/-!
# YAML as a document format

Every scalar shows as a text. Plain scalars also show as switches and numbers, or as absent, and so
do blocks whose lines stay lines if they have the tag for it. An empty plain scalar shows as a list
without items and a record without members too; lists are never records. References show as what
they stand for; a document in which they would be followed too often is not read.
-/

namespace ChatCommands

namespace Yaml

def text? : Yaml → Option String
  | scalar _ _ text => some text
  | _ => none

/-- The text of a scalar that may show as what `tag` names. -/
def bareText? (tag : String) : Yaml → Option String
  | scalar .plain _ text => some text
  | scalar .literal (some t) text => if t = tag then some text else none
  | _ => none

def switchOf? (text : String) : Option Bool :=
  if ["true", "True", "TRUE"].contains text then some true
  else if ["false", "False", "FALSE"].contains text then some false
  else none

def switch? (v : Yaml) : Option Bool :=
  (v.bareText? switchTag).bind switchOf?

/-! ## Numbers -/

def digits? (base : Nat) (cs : List Char) : Option Nat :=
  if cs.isEmpty then none
  else cs.foldlM (fun n c =>
    (Text.hexDigit? c).bind fun d => if d < base then some (n * base + d) else none) 0

def base (cs : List Char) : Nat × List Char :=
  match cs with
  | '0' :: 'x' :: cs => (16, cs)
  | '0' :: 'o' :: cs => (8, cs)
  | '0' :: 'b' :: cs => (2, cs)
  | cs => (10, cs)

/-- The decimal form has no leading zeros. -/
def naturalOf? (text : String) : Option Nat :=
  let cs := match text.toList with
    | '+' :: cs => cs
    | cs => cs
  let (base, digits) := base cs
  if base = 10 ∧ 1 < digits.length ∧ digits.head? = some '0' then none
  else (digits? base digits).filter (· < Nat.pow 2 64)

def natural? (v : Yaml) : Option Nat :=
  (v.bareText? naturalTag).bind naturalOf?

/-! ## Nothing -/

def isNull (text : String) : Bool :=
  ["~", "null", "Null", "NULL"].contains text

/-- Whether a value is absent. One with the tag for it must be. -/
def isAbsent? : Yaml → Option Bool
  | scalar .plain none text => some (text = "" || isNull text)
  | scalar .plain (some tag) text =>
    if tag = nullTag then
      if isNull text then some true else none
    else some false
  | _ => some false

def isEmpty : Yaml → Bool
  | scalar .plain _ text => text = ""
  | _ => false

/-! ## Lists and records -/

def items? : Yaml → Option (List Yaml)
  | list items => some items
  | v => if v.isEmpty then some [] else none

def parts? (text? : Yaml → Option String) : Yaml → Option (Parts Yaml)
  | mapping members => some (.named (members.map fun (key, v) => (text? key, v)))
  | v => if v.isEmpty then some (.named []) else none

end Yaml

namespace YamlNames

open Yaml

def keyText? (n : YamlNames) (key : Yaml) : Option String :=
  text? (n.follow key)

def keyReferences : Yaml → Nat
  | .mapping members => members.countP fun (key, _) => key.isReference
  | _ => 0

def format (n : YamlNames) : Format Yaml where
  text? v := text? (n.follow v)
  switch? v := switch? (n.follow v)
  natural? v := natural? (n.follow v)
  isAbsent? v := isAbsent? (n.follow v)
  items? v := items? (n.follow v)
  parts? v := parts? n.keyText? (n.follow v)
  isIgnorable _ := true
  references v := (if v.isReference then 1 else 0) + keyReferences (n.follow v)

end YamlNames

namespace YamlDocument

def referencesPerPart : Nat := 100

def read {α : Type} (decoder : Format Yaml → Decoder Yaml α) (d : YamlDocument) : Read α :=
  let decoder := decoder d.names.format
  if referencesPerPart * d.root.size < decoder.references d.root then .error .unreadable
  else decoder.read d.root

def readText {α : Type} (decoder : Format Yaml → Decoder Yaml α) (text : String) : Read α :=
  match ofText? text with
  | some d => d.read decoder
  | none => .error .unreadable

end YamlDocument

end ChatCommands
