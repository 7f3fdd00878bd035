import ChatCommands.Text.Span

/-!
# Characters of a YAML text

Control characters must not occur. There are several line breaks, most of which stand for a line
feed; only the line and paragraph separators of Unicode stand for themselves.
-/

namespace ChatCommands.Yaml

def printableSpans : List Text.Span :=
  [⟨0x09, 0x0A⟩, ⟨0x0D, 0x0D⟩, ⟨0x20, 0x7E⟩, ⟨0x85, 0x85⟩, ⟨0xA0, 0xD7FF⟩, ⟨0xE000, 0xFFFD⟩,
   ⟨0x10000, 0x10FFFF⟩]

def isPrintable (c : Char) : Bool :=
  Text.Span.anyContains printableSpans c

/-- The text with one line feed for every carriage return, with or without a line feed after it,
and for every next-line character. -/
def unifyBreaks : List Char → List Char
  | [] => []
  | '\r' :: '\n' :: cs => '\n' :: unifyBreaks cs
  | c :: cs => (if c = '\r' || c = '\u0085' then '\n' else c) :: unifyBreaks cs

def isBlank (c : Char) : Bool :=
  c = ' ' || c = '\t'

def isBreak (c : Char) : Bool :=
  c = '\n' || c = '\u2028' || c = '\u2029'

/-- No word goes on here: there is a blank or a break, or the text is over. -/
def atGap : List Char → Bool
  | [] => true
  | c :: _ => isBlank c || isBreak c

def isRemark (cs : List Char) : Bool :=
  match cs.dropWhile isBlank with
  | [] => true
  | c :: _ => c = '#'

def isNameChar (c : Char) : Bool :=
  c.isAlphanum || c = '_' || c = '-'

def isFlowMark (c : Char) : Bool :=
  [',', '[', ']', '\x7b', '\x7d'].contains c

end ChatCommands.Yaml
