import ChatCommands.Yaml.Character
import ChatCommands.Yaml.Value

/-!
# Block scalars

A block scalar begins with a header, the rest of the line after `|` or `>`, which may tell how the
breaks at its end are treated and how far its lines are indented. Without that the indentation is
the one of the first line that is not blank, or of a longer blank line before it. A folded block
joins lines by spaces, except next to lines that begin with a blank.
-/

namespace ChatCommands.Yaml

inductive Chomping where
  | none
  | one
  | all
  deriving DecidableEq

structure BlockHeader where
  chomping : Chomping := .one
  /-- How far the lines are indented below the block collection they are in. -/
  indent : Option Nat := .none

namespace BlockHeader

def chomp (h : BlockHeader) : List Char → BlockHeader × List Char
  | '+' :: cs => ({ h with chomping := .all }, cs)
  | '-' :: cs => ({ h with chomping := .none }, cs)
  | cs => (h, cs)

def indented (h : BlockHeader) : List Char → BlockHeader × List Char
  | c :: cs =>
    if '1' ≤ c && c ≤ '9' then ({ h with indent := some (c.toNat - '0'.toNat) }, cs)
    else (h, c :: cs)
  | [] => (h, [])

/-- The header that a line holds: the two marks in either order, each at most once. -/
def ofLine? (cs : List Char) : Option BlockHeader :=
  let (h, rest) := chomp {} cs
  let (h, rest) := indented h rest
  let (h, rest) := if h.chomping = .one then chomp h rest else (h, rest)
  if isRemark rest then some h else .none

end BlockHeader

/-- A block scalar whose header has been read. Characters are kept last one first. -/
structure BlockText where
  folded : Bool
  chomping : Chomping
  /-- The column of its lines, once it is known. -/
  indent : Option Nat
  /-- The least column that its lines may have. -/
  margin : Nat
  text : List Char := []
  /-- The break of the last line, unless it is empty. -/
  lastBreak : Option Char := .none
  /-- The breaks of the empty lines after it. -/
  breaks : List Char := []
  /-- The last line that is not empty begins with a blank. -/
  blankLine : Bool := false
  /-- The greatest column at which a line has been found to begin. -/
  widest : Nat := 0
  inLine : Bool := false

namespace BlockText

def ofHeader (folded : Bool) (margin : Nat) (h : BlockHeader) : BlockText :=
  { folded, chomping := h.chomping, indent := h.indent.map (margin - 1 + ·), margin }

def isIndent (b : BlockText) (column : Nat) : Bool :=
  b.indent.all fun indent => column < indent

def settledIndent (b : BlockText) (column : Nat) : Nat :=
  b.indent.getD (max (max b.widest column) (max b.margin 1))

def foldBreak (b : BlockText) (c : Char) : List Char :=
  if b.folded && b.lastBreak == some '\n' && !b.blankLine && !isBlank c then
    if b.breaks.isEmpty then [' '] else []
  else b.lastBreak.toList

def beginLine (b : BlockText) (c : Char) : BlockText :=
  { b with
    text := c :: (b.breaks ++ b.foldBreak c ++ b.text)
    lastBreak := .none
    breaks := []
    blankLine := isBlank c
    inLine := true }

inductive Step where
  | goOn (block : BlockText)
  | over
  | fault

def step (b : BlockText) (column : Nat) (c : Char) : Step :=
  if b.inLine then
    if isBreak c then .goOn { b with lastBreak := some c, inLine := false }
    else .goOn { b with text := c :: b.text }
  else if c = ' ' && b.isIndent column then .goOn b
  else if c = '\t' && b.isIndent column then .fault
  else if isBreak c then
    .goOn { b with breaks := c :: b.breaks, widest := max b.widest column }
  else
    let indent := b.settledIndent column
    if column = indent then .goOn ({ b with indent := some indent }.beginLine c) else .over

def style (b : BlockText) : ScalarStyle :=
  if b.folded then .folded else .literal

def finish (b : BlockText) : String :=
  let last := if b.chomping = .none then [] else b.lastBreak.toList
  let more := if b.chomping = .all then b.breaks else []
  String.ofList (more ++ last ++ b.text).reverse

end BlockText

end ChatCommands.Yaml
