import ChatCommands.Text.Lowercase

/-! # Words for on and off -/

namespace ChatCommands.Toggle

def onWords : List String := ["on", "true", "enable", "enabled", "yes"]

def offWords : List String := ["off", "false", "disable", "disabled", "no"]

/-- The state that a word asks for, its case ignored: `true` for on, `false` for off. -/
def parse? (word : String) : Option Bool :=
  let word := Text.lower word
  if onWords.contains word then some true
  else if offWords.contains word then some false
  else none

end ChatCommands.Toggle
