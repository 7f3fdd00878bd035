import ChatCommands.Assoc
import ChatCommands.NameSet
import ChatCommands.Slot

/-!
# Voices for reading messages aloud

The state behind the voice commands. Voices and logins are kept in lowercase.
-/

namespace ChatCommands

structure VoiceState where
  /-- The voices that the speech backend offers. -/
  available : NameSet
  /-- The voices that chatters may pick. -/
  enabled : NameSet
  selected : List (String × String) := []
  active : Bool := true
  /-- A counter of the machine, which wraps around. -/
  skips : UInt64 := 0

namespace VoiceState

def ofVoices (voices : List String) : VoiceState :=
  { available := .ofList voices, enabled := .ofList voices }

def voiceOf? (s : VoiceState) (login : String) : Option String :=
  Assoc.get? (Text.lower login) s.selected

def select (s : VoiceState) (login voice : String) : VoiceState :=
  { s with selected := Assoc.put (Text.lower login) voice s.selected }

def availableKey : String := "available"

def enabledKey : String := "enabled"

def registries (s : VoiceState) : Registries := fun key =>
  if key = availableKey then s.available
  else if key = enabledKey then s.enabled
  else NameSet.empty

end VoiceState

end ChatCommands
