/-!
# Escapes in double quotes

A backslash and a character stand for one character. After `x`, `u` and `U` two, four or eight
hexadecimal digits follow, which give its code point.
-/

namespace ChatCommands.Yaml

def unescape? : Char → Option Char
  | '0' => some '\x00'
  | 'a' => some '\x07'
  | 'b' => some '\x08'
  | 't' => some '\t'
  | '\t' => some '\t'
  | 'n' => some '\n'
  | 'v' => some '\x0B'
  | 'f' => some '\x0C'
  | 'r' => some '\r'
  | 'e' => some '\x1B'
  | ' ' => some ' '
  | '"' => some '"'
  | '/' => some '/'
  | '\\' => some '\\'
  | 'N' => some '\u0085'
  | '_' => some '\u00A0'
  | 'L' => some '\u2028'
  | 'P' => some '\u2029'
  | _ => none

def codeLength? : Char → Option Nat
  | 'x' => some 2
  | 'u' => some 4
  | 'U' => some 8
  | _ => none

/-- The character with a code point. There is none for surrogates and beyond the last plane. -/
def charOfCode? (code : Nat) : Option Char :=
  if code < 0xD800 ∨ 0xE000 ≤ code ∧ code < 0x110000 then some (Char.ofNat code) else none

end ChatCommands.Yaml
