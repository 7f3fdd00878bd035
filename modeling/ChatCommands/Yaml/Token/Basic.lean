import ChatCommands.Yaml.Directive
import ChatCommands.Yaml.Value

/-!
# YAML tokens

The tokens of a text. Those that open and close block collections stand for indentation, and the
token `key` may be written as `?` or stand for nothing written at all: it comes before every key.
-/

namespace ChatCommands

inductive YamlToken where
  | directive (directive : YamlDirective)
  | documentStart
  | documentEnd
  | blockList
  | blockMapping
  | blockEnd
  | openBracket
  | closeBracket
  | openBrace
  | closeBrace
  | entry
  | comma
  | key
  | value
  /-- A name for the value that follows. -/
  | anchor (name : String)
  /-- The value that was given this name. -/
  | reference (name : String)
  | tag (tag : Yaml.TagText)
  | scalar (style : ScalarStyle) (text : String)
  deriving DecidableEq

end ChatCommands
