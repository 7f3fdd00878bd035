import ChatCommands.Text.Blank
import ChatCommands.Text.Lowercase
import ChatCommands.Text.Pieces

/-!
# Settings of the engine

Settings come from a file and may be overridden by variables of the environment. An override that
makes no sense is passed over.
-/

namespace ChatCommands

structure Settings where
  commandPrefix : String := "!"
  /-- Ids of the chatters who are bound neither by permissions nor by limits. -/
  ownerIds : List String := []
  enforceLimits : Bool := false
  consoleChatter : String := "console"
  voices : List String := ["brian", "amy", "emma"]
  deriving DecidableEq

namespace Settings

/-! ## Overrides -/

def prefixVariable : String := "COMMANDGATE_PREFIX"

def ownersVariable : String := "COMMANDGATE_OWNERS"

def enforceVariable : String := "COMMANDGATE_ENFORCE_USAGE"

/-- The settings with another command prefix, blanks around it dropped, unless it is blank. -/
def overridePrefix (s : Settings) (value : String) : Settings :=
  let value := Text.trim value
  if value = "" then s else { s with commandPrefix := value }

def overrideOwners (s : Settings) (value : String) : Settings :=
  { s with ownerIds := ((Text.pieces ',' value).map Text.trim).filter (· ≠ "") }

/-- The settings with limits enforced or not, if the value is a word for yes or no. -/
def overrideEnforcement (s : Settings) (value : String) : Settings :=
  let word := Text.lower (Text.trim value)
  if ["1", "true", "yes", "on"].contains word then { s with enforceLimits := true }
  else if ["0", "false", "no", "off"].contains word then { s with enforceLimits := false }
  else s

def override (s : Settings) (environment : String → Option String) : Settings :=
  let s := ((environment prefixVariable).map s.overridePrefix).getD s
  let s := ((environment ownersVariable).map s.overrideOwners).getD s
  ((environment enforceVariable).map s.overrideEnforcement).getD s

/-- The settings with the default command prefix in place of an empty one. -/
def withPrefix (s : Settings) : Settings :=
  if s.commandPrefix = "" then { s with commandPrefix := "!" } else s

end Settings

end ChatCommands
