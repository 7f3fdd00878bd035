import ChatCommands.Json.Number
import ChatCommands.Text.Hex

/-!
# JSON tokens

The tokens of a text: punctuation, and the values that have no parts. The scanner reads one
character at a time; a run of letters, digits and signs is one word, which is a number, `true`,
`false`, `null` or nothing at all.
-/

namespace ChatCommands

inductive JsonToken where
  | openBrace
  | closeBrace
  | openBracket
  | closeBracket
  | colon
  | comma
  | scalar (value : Json)
  /-- Text that is no token. Nothing after it is read. -/
  | bad

namespace JsonToken

/-! ## Texts -/

/-- A part of a text between quotes: a character, or a UTF-16 code unit written as an escape. -/
inductive Part where
  | char (c : Char)
  | unit (n : Nat)

/-- The characters of a text. Two escapes that form a surrogate pair stand for one character; half
of a pair stands for none. -/
def charsOf? : List Part → Option (List Char)
  | [] => some []
  | .char c :: ps => (charsOf? ps).map (c :: ·)
  | .unit n :: ps =>
    if 0xD800 ≤ n && n < 0xDC00 then
      match ps with
      | .unit m :: ps =>
        if 0xDC00 ≤ m && m < 0xE000 then
          (charsOf? ps).map (Char.ofNat (0x10000 + (n - 0xD800) * 0x400 + (m - 0xDC00)) :: ·)
        else none
      | _ => none
    else if 0xDC00 ≤ n && n < 0xE000 then none
    else (charsOf? ps).map (Char.ofNat n :: ·)

def ofParts (parts : List Part) : JsonToken :=
  match charsOf? parts with
  | some cs => scalar (.text (String.ofList cs))
  | none => scalar .halfPair

def unescape? : Char → Option Char
  | '"' => some '"'
  | '\\' => some '\\'
  | '/' => some '/'
  | 'b' => some '\x08'
  | 'f' => some '\x0C'
  | 'n' => some '\n'
  | 'r' => some '\r'
  | 't' => some '\t'
  | _ => none

/-! ## Words -/

def ofWord (word : List Char) : JsonToken :=
  if word = "true".toList then scalar (.bool true)
  else if word = "false".toList then scalar (.bool false)
  else if word = "null".toList then scalar .null
  else
    match JsonNumber.ofWord? word with
    | some value => scalar value
    | none => bad

/-! ## The scanner -/

/-- What the scanner is in the middle of. Lists are kept last one first. -/
inductive Scanner where
  | idle
  | word (cs : List Char)
  | text (parts : List Part)
  | escape (parts : List Part)
  | unit (parts : List Part) (digits : List Nat)
  | failed

def isSpace (c : Char) : Bool :=
  c = ' ' || c = '\t' || c = '\n' || c = '\r'

def isWordChar (c : Char) : Bool :=
  c.isAlphanum || c = '+' || c = '-' || c = '.'

namespace Scanner

def begin (c : Char) : List JsonToken × Scanner :=
  if isSpace c then ([], idle)
  else if c = '\x7b' then ([openBrace], idle)
  else if c = '\x7d' then ([closeBrace], idle)
  else if c = '[' then ([openBracket], idle)
  else if c = ']' then ([closeBracket], idle)
  else if c = ':' then ([colon], idle)
  else if c = ',' then ([comma], idle)
  else if c = '"' then ([], text [])
  else if isWordChar c then ([], word [c])
  else ([], failed)

/-- One more character: the tokens it completes, and the scanner after it. -/
def step (s : Scanner) (c : Char) : List JsonToken × Scanner :=
  match s with
  | idle => begin c
  | word cs =>
    if isWordChar c then ([], word (c :: cs))
    else
      let (tokens, s) := begin c
      (ofWord cs.reverse :: tokens, s)
  | text parts =>
    if c = '"' then ([ofParts parts.reverse], idle)
    else if c = '\\' then ([], escape parts)
    else if c.toNat < 0x20 then ([], failed)
    else ([], text (.char c :: parts))
  | escape parts =>
    if c = 'u' then ([], unit parts [])
    else
      match unescape? c with
      | some c => ([], text (.char c :: parts))
      | none => ([], failed)
  | unit parts digits =>
    match Text.hexDigit? c, digits with
    | some d0, [d1, d2, d3] =>
      ([], text (.unit (((d3 * 16 + d2) * 16 + d1) * 16 + d0) :: parts))
    | some d, digits => ([], unit parts (d :: digits))
    | none, _ => ([], failed)
  | failed => ([], failed)

def finish : Scanner → List JsonToken
  | idle => []
  | word cs => [ofWord cs.reverse]
  | _ => [bad]

def tokens (s : Scanner) : List Char → List JsonToken
  | [] => s.finish
  | c :: cs =>
    let (found, s) := s.step c
    found ++ s.tokens cs

end Scanner

def scan (text : String) : List JsonToken :=
  Scanner.idle.tokens text.toList

end JsonToken

end ChatCommands
