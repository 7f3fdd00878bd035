import ChatCommands.Text.Hex
import ChatCommands.Yaml.BlockText
import ChatCommands.Yaml.Escape
import ChatCommands.Yaml.Gap
import ChatCommands.Yaml.Token.Layout

/-!
# The tokens of a YAML text

The lexer reads a text whose breaks are unified one character at a time. It knows the layout so far
and what it is in the middle of, and it may look at the text that follows: a dash, a colon or the
mark of a document counts as such only before a gap.
-/

namespace ChatCommands

open Yaml (Gap BlockText BlockHeader isBlank isBreak atGap isNameChar isFlowMark continuesTag)

/-- What a lexer is in the middle of. Characters are kept last one first. -/
inductive LexerMode where
  | between
  | comment
  /-- The rest of a token already emitted, of which so many characters are left. -/
  | skipping (left : Nat)
  | directive (line : List Char)
  /-- The name of an anchor, or of a value that has one. -/
  | name (anchor : Bool) (cs : List Char)
  | tag (cs : List Char)
  | plain (text : List Char) (gap : Gap)
  | single (text : List Char) (gap : Gap)
  /-- The second of two single quotes, which stand for one. -/
  | repeatedQuote (text : List Char)
  | double (text : List Char) (gap : Gap)
  | escape (text : List Char)
  /-- Text in double quotes and the digits of a code point, of which so many are left. -/
  | code (text : List Char) (left : Nat) (value : Nat)
  | header (folded : Bool) (line : List Char)
  | block (block : BlockText)

structure Lexer where
  layout : Layout := {}
  mode : LexerMode := .between

namespace Lexer

/-! ## Marks -/

def documentMark? : List Char → Option YamlToken
  | '-' :: '-' :: '-' :: cs => if atGap cs then some .documentStart else none
  | '.' :: '.' :: '.' :: cs => if atGap cs then some .documentEnd else none
  | _ => none

def isDocumentMark (l : Layout) (c : Char) (rest : List Char) : Bool :=
  l.column = 0 && (documentMark? (c :: rest)).isSome

def beginsPlain (l : Layout) (c : Char) (rest : List Char) : Bool :=
  let marks := ['-', '?', ':', '#', '&', '*', '!', '|', '>', '\'', '"', '%', '@', '\x60']
  if c = '-' then !atGap rest
  else if c = '?' || c = ':' then !l.inFlow && !atGap rest
  else !(isBlank c || isBreak c || isFlowMark c || marks.contains c)

def endsPlain (l : Layout) (c : Char) (rest : List Char) : Bool :=
  c = ':' && atGap rest || l.inFlow && isFlowMark c

/-- Within a flow collection a plain scalar must not have this colon. -/
def isMisplacedColon (l : Layout) (c : Char) (rest : List Char) : Bool :=
  l.inFlow && c = ':' && rest.head?.any fun d => d = '?' || isFlowMark d

/-! ## Tokens -/

/-- `none` for characters that are no token, `some none` where the token may not stand. -/
def mark? (l : Layout) (c : Char) (rest : List Char) : Option (Option Layout) :=
  if c = '[' then some (l.openFlow .openBracket)
  else if c = '\x7b' then some (l.openFlow .openBrace)
  else if c = ']' then some (l.closeFlow .closeBracket)
  else if c = '\x7d' then some (l.closeFlow .closeBrace)
  else if c = ',' then some l.comma
  else if c = '-' && atGap rest then some l.entry
  else if c = '?' && (l.inFlow || atGap rest) then some l.key
  else if c = ':' && (l.inFlow || atGap rest) then some l.value
  else none

def mode? (l : Layout) (c : Char) (rest : List Char) : Option LexerMode :=
  if c = '&' then some (.name true [])
  else if c = '*' then some (.name false [])
  else if c = '!' then some (.tag [c])
  else if c = '\'' then some (.single [] .empty)
  else if c = '"' then some (.double [] .empty)
  else if beginsPlain l c rest then some (.plain [c] .empty)
  else none

def beginToken (l : Layout) (c : Char) (rest : List Char) : Option Lexer := do
  let l ← l.beginToken
  if l.column = 0 && c = '%' then return { layout := ← l.topLevel, mode := .directive [] }
  if l.column = 0 then
    if let some token := documentMark? (c :: rest) then
      return { layout := (← l.topLevel).emit token, mode := .skipping 2 }
  if let some marked := mark? l c rest then return { layout := ← marked }
  if !l.inFlow && (c = '|' || c = '>') then
    return { layout := (← l.dropPending).allowKey true, mode := .header (c = '>') [] }
  let mode ← mode? l c rest
  return { layout := ← l.beginPart, mode }

/-- Tabs are white space only where no key may begin, and a byte order mark only at the start of a
line. -/
def begin (l : Layout) (c : Char) (rest : List Char) : Option Lexer :=
  if c = ' ' || c = '\t' && (l.inFlow || !l.keyAllowed) || c = '\uFEFF' && l.column = 0 then
    some { layout := l }
  else if c = '#' then some { layout := l, mode := .comment }
  else if isBreak c then some { layout := l.allowKey (l.keyAllowed || !l.inFlow) }
  else beginToken l c rest

/-! ## Scalars -/

def scalar (style : ScalarStyle) (text : List Char) (l : Layout) : Layout :=
  l.emit (.scalar style (String.ofList text.reverse))

/-- If a new line has begun a key may begin. -/
def plainScalar (text : List Char) (gap : Gap) (l : Layout) : Layout :=
  scalar .plain text (l.allowKey (l.keyAllowed || gap.crossesLine))

def stepPlain (l : Layout) (text : List Char) (gap : Gap) (c : Char) (rest : List Char) :
    Option Lexer :=
  if isBlank c || isBreak c then
    if gap.crossesLine && c = '\t' && l.column < l.margin then none
    else some { layout := l, mode := .plain text (gap.add c) }
  else if !gap.isEmpty
      && (!l.inFlow && l.column < l.margin || isDocumentMark l c rest || c = '#') then
    begin (plainScalar text gap l) c rest
  else if isMisplacedColon l c rest then none
  else if endsPlain l c rest then begin (plainScalar text gap l) c rest
  else some { layout := l, mode := .plain (c :: (gap.fold ++ text)) .empty }

def stepSingle (l : Layout) (text : List Char) (gap : Gap) (c : Char) (rest : List Char) :
    Option Lexer :=
  if isBlank c || isBreak c then some { layout := l, mode := .single text (gap.add c) }
  else if isDocumentMark l c rest then none
  else
    let text := gap.fold ++ text
    if c ≠ '\'' then some { layout := l, mode := .single (c :: text) .empty }
    else if rest.head? = some '\'' then some { layout := l, mode := .repeatedQuote text }
    else some { layout := scalar .quoted text l }

def stepDouble (l : Layout) (text : List Char) (gap : Gap) (c : Char) (rest : List Char) :
    Option Lexer :=
  if isBlank c || isBreak c then some { layout := l, mode := .double text (gap.add c) }
  else if isDocumentMark l c rest then none
  else
    let text := gap.fold ++ text
    if c = '"' then some { layout := scalar .quoted text l }
    else if c = '\\' then some { layout := l, mode := .escape text }
    else some { layout := l, mode := .double (c :: text) .empty }

/-- A break after a backslash stands for nothing. -/
def stepEscape (l : Layout) (text : List Char) (c : Char) : Option Lexer :=
  if isBreak c then some { layout := l, mode := .double text (.breaks none []) }
  else
    match Yaml.codeLength? c with
    | some left => some { layout := l, mode := .code text left 0 }
    | none => (Yaml.unescape? c).map fun d => { layout := l, mode := .double (d :: text) .empty }

def stepCode (l : Layout) (text : List Char) (left value : Nat) (c : Char) : Option Lexer := do
  let value := value * 16 + (← Text.hexDigit? c)
  if 1 < left then return { layout := l, mode := .code text (left - 1) value }
  return { layout := l, mode := .double ((← Yaml.charOfCode? value) :: text) .empty }

def blockOf? (l : Layout) (folded : Bool) (line : List Char) : Option BlockText :=
  (BlockHeader.ofLine? line.reverse).map (BlockText.ofHeader folded l.margin)

def blockScalar (b : BlockText) (l : Layout) : Layout :=
  l.emit (.scalar b.style b.finish)

/-! ## Steps -/

def nameToken? (anchor : Bool) (cs : List Char) (l : Layout) : Option Layout :=
  if cs.isEmpty then none
  else
    let name := String.ofList cs.reverse
    some (l.emit (if anchor then .anchor name else .reference name))

def tagToken? (cs : List Char) (l : Layout) : Option Layout :=
  (Yaml.TagText.ofChars? cs.reverse).map fun tag => l.emit (.tag tag)

def directiveToken? (line : List Char) (l : Layout) : Option Layout :=
  (YamlDirective.ofLine? line.reverse).map fun d => l.emit (.directive d)

def read (x : Lexer) (c : Char) (rest : List Char) : Option Lexer := do
  let l := x.layout
  match x.mode with
  | .between => begin l c rest
  | .comment => if isBreak c then begin l c rest else return x
  | .skipping left =>
    return { layout := l, mode := if 1 < left then .skipping (left - 1) else .between }
  | .directive line =>
    if isBreak c then return { layout := ← directiveToken? line l }
    return { layout := l, mode := .directive (c :: line) }
  | .name anchor cs =>
    if isNameChar c then return { layout := l, mode := .name anchor (c :: cs) }
    if !(atGap [c] || ['?', ':', ',', ']', '\x7d', '%', '@', '\x60'].contains c) then none
    begin (← nameToken? anchor cs l) c rest
  | .tag cs =>
    if continuesTag cs c then return { layout := l, mode := .tag (c :: cs) }
    if !(atGap [c] || l.inFlow && c = ',') then none
    begin (← tagToken? cs l) c rest
  | .plain text gap => stepPlain l text gap c rest
  | .single text gap => stepSingle l text gap c rest
  | .repeatedQuote text => return { layout := l, mode := .single (c :: text) .empty }
  | .double text gap => stepDouble l text gap c rest
  | .escape text => stepEscape l text c
  | .code text left value => stepCode l text left value c
  | .header folded line =>
    if isBreak c then return { layout := l, mode := .block (← blockOf? l folded line) }
    return { layout := l, mode := .header folded (c :: line) }
  | .block b =>
    match b.step l.column c with
    | .goOn b => return { layout := l, mode := .block b }
    | .over => begin (blockScalar b l) c rest
    | .fault => none

def advance (c : Char) (x : Lexer) : Lexer :=
  { x with layout := x.layout.advance c }

def atEnd? (x : Lexer) : Option Layout := do
  let l := x.layout
  match x.mode with
  | .between | .comment | .skipping _ => return l
  | .directive line => directiveToken? line l
  | .name anchor cs => nameToken? anchor cs l
  | .tag cs => tagToken? cs l
  | .plain text gap => return plainScalar text gap l
  | .header folded line => return blockScalar (← blockOf? l folded line) l
  | .block b => return blockScalar b l
  | _ => none

def tokens? (x : Lexer) : List Char → Option (List YamlToken)
  | [] => x.atEnd?.bind Layout.finish
  | c :: cs => do
    let x ← x.read c cs
    (x.advance c).tokens? cs

end Lexer

end ChatCommands
