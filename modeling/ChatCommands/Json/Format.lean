import ChatCommands.Json.Reader
import ChatCommands.Record.Field

/-!
# JSON as a document format

Texts, switches and natural numbers show as themselves only. A record is an object, or an array of
its fields in order. What nobody reads may be anything whole.
-/

namespace ChatCommands.Json

def text? : Json → Option String
  | text s => some s
  | _ => none

def switch? : Json → Option Bool
  | bool b => some b
  | _ => none

def natural? : Json → Option Nat
  | natural n => some n
  | _ => none

def isNull : Json → Bool
  | null => true
  | _ => false

def items? : Json → Option (List Json)
  | array items => some items
  | _ => none

def parts? : Json → Option (Parts Json)
  | object members => some (.named members)
  | array items => some (.positional items)
  | _ => none

def format : Format Json where
  text? := text?
  switch? := switch?
  natural? := natural?
  isAbsent? v := some v.isNull
  items? := items?
  parts? := parts?
  isIgnorable := isWhole
  references _ := 0

def readText {α : Type} (read : Json → Read α) (text : String) : Read α :=
  let document := JsonDocument.ofText text
  match read document.value with
  | .error fault => .error fault
  | .ok a => if document.ends then .ok a else .error .unreadable

end ChatCommands.Json
