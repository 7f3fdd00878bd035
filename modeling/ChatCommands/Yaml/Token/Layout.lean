import ChatCommands.Yaml.Token.Basic

/-!
# Layout of a YAML text

Block collections are open as long as the text stays at their column or right of it. A key shows
itself only by the colon after it, so every place where a key might begin is remembered: once the
colon comes, the token `key` is entered there, and the token that opens a block mapping too if no
collection is open at that column. A key must be followed by its colon in the same line and within
1024 octets. Where a block mapping cannot go on without a key, its colon must come.
-/

namespace ChatCommands

structure PendingKey where
  position : Nat
  /-- Only a key can stand there. -/
  required : Bool
  line : Nat
  column : Nat
  index : Nat

structure Layout where
  tokens : List YamlToken := []
  count : Nat := 0
  /-- The place where a key might have begun in the innermost flow collection. -/
  pending : Option PendingKey := none
  /-- Such places outside of the innermost flow collection, one for each that is open. -/
  outer : List (Option PendingKey) := []
  /-- The columns of the open block collections, innermost first. -/
  columns : List Nat := []
  keyAllowed : Bool := true
  line : Nat := 0
  column : Nat := 0
  /-- The number of octets before this place, were each character written in UTF-8. -/
  index : Nat := 0

namespace Layout

/-- A key is at most this long, in octets of UTF-8. -/
def keyLimit : Nat := 1024

def advance (c : Char) (l : Layout) : Layout :=
  if Yaml.isBreak c then { l with line := l.line + 1, column := 0, index := l.index + c.utf8Size }
  else { l with column := l.column + 1, index := l.index + c.utf8Size }

def inFlow (l : Layout) : Bool :=
  !l.outer.isEmpty

def margin (l : Layout) : Nat :=
  match l.columns with
  | [] => 0
  | column :: _ => column + 1

def emit (token : YamlToken) (l : Layout) : Layout :=
  { l with tokens := token :: l.tokens, count := l.count + 1 }

/-- Enters tokens, given last one first, after the first `position` ones. -/
def insert (position : Nat) (new : List YamlToken) (l : Layout) : Layout :=
  let later := l.count - position
  { l with
    tokens := l.tokens.take later ++ new ++ l.tokens.drop later
    count := l.count + new.length }

def allowKey (allowed : Bool) (l : Layout) : Layout :=
  { l with keyAllowed := allowed }

/-! ## Block collections -/

def opensBlock (l : Layout) (column : Nat) : Bool :=
  !l.inFlow && decide (l.margin ≤ column)

def openBlock (token : YamlToken) (l : Layout) : Layout :=
  if l.opensBlock l.column then { l.emit token with columns := l.column :: l.columns } else l

/-- Closes the block collections whose columns do not satisfy `stays`, from the innermost on. -/
def closeBlocks (stays : Nat → Bool) (l : Layout) : Layout :=
  if l.inFlow then l
  else
    let closed := l.columns.takeWhile fun column => !stays column
    { l with
      tokens := closed.map (fun _ => .blockEnd) ++ l.tokens
      count := l.count + closed.length
      columns := l.columns.drop closed.length }

/-! ## Keys -/

/-- The key cannot be the one that a colon here belongs to. -/
def isStale (l : Layout) (k : PendingKey) : Bool :=
  decide (k.line < l.line) || decide (k.index + keyLimit < l.index)

def dropStale (l : Layout) : Option Layout :=
  let fails := fun k : Option PendingKey => k.any fun k => k.required && l.isStale k
  if (l.pending :: l.outer).any fails then none
  else
    let keep := fun k : Option PendingKey => k.filter fun k => !l.isStale k
    some { l with pending := keep l.pending, outer := l.outer.map keep }

def dropPending (l : Layout) : Option Layout :=
  if l.pending.any (·.required) then none else some { l with pending := none }

def markKey (l : Layout) : Option Layout :=
  if l.keyAllowed then do
    let l ← l.dropPending
    return { l with pending := some {
      position := l.count
      required := !l.inFlow && l.columns.head? == some l.column
      line := l.line, column := l.column, index := l.index } }
  else some l

def beginToken (l : Layout) : Option Layout :=
  l.dropStale.map (closeBlocks fun column => column ≤ l.column)

/-! ## Tokens -/

/-- A directive or the mark of a document, which closes all block collections. -/
def topLevel (l : Layout) : Option Layout :=
  ((l.closeBlocks fun _ => false).allowKey false).dropPending

def openFlow (token : YamlToken) (l : Layout) : Option Layout := do
  let l ← l.markKey
  return (({ l with pending := none, outer := l.pending :: l.outer }).allowKey true).emit token

def closeFlow (token : YamlToken) (l : Layout) : Option Layout := do
  let l ← l.dropPending
  let l := match l.outer with
    | pending :: outer => { l with pending, outer }
    | [] => l
  return (l.allowKey false).emit token

def comma (l : Layout) : Option Layout := do
  return ((← l.dropPending).allowKey true).emit .comma

def entry (l : Layout) : Option Layout := do
  if !l.inFlow && !l.keyAllowed then none
  return ((← (l.openBlock .blockList).dropPending).allowKey true).emit .entry

def key (l : Layout) : Option Layout := do
  if !l.inFlow && !l.keyAllowed then none
  return ((← (l.openBlock .blockMapping).dropPending).allowKey !l.inFlow).emit .key

def valueOf (k : PendingKey) (l : Layout) : Layout :=
  let l :=
    if l.opensBlock k.column then
      { l.insert k.position [.key, .blockMapping] with columns := k.column :: l.columns }
    else l.insert k.position [.key]
  (({ l with pending := none }).allowKey false).emit .value

def value (l : Layout) : Option Layout :=
  match l.pending with
  | some k => some (l.valueOf k)
  | none =>
    if l.inFlow then some ((l.allowKey false).emit .value)
    else if l.keyAllowed then some ((l.openBlock .blockMapping).emit .value)
    else none

def beginPart (l : Layout) : Option Layout :=
  l.markKey.map (allowKey false)

def finish (l : Layout) : Option (List YamlToken) := do
  let l ← (← l.dropStale).dropPending
  return (l.closeBlocks fun _ => false).tokens.reverse

end Layout

end ChatCommands
