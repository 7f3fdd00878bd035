import ChatCommands.Engine.Operation
import ChatCommands.Settings.Basic
import ChatCommands.Voices.Commands

/-!
# The chat bot

An engine with the voice commands, set up from settings.
-/

namespace ChatCommands

abbrev Bot := Engine VoiceCommand VoiceState

namespace Bot

/-- The bot whose grammar comes from the definitions, if they agree with each other. -/
def ofDefinitions (definitions : List (Definition VoiceCommand)) (settings : Settings)
    (groups : Groups) : Except BuildError Bot := do
  let grammar ← Grammar.build definitions
  return {
    grammar
    behaviour := VoiceCommand.behaviour
    state := .ofVoices settings.voices
    commandPrefix := settings.commandPrefix
    owners := settings.ownerIds
    enforceLimits := settings.enforceLimits
    groups }

def ofSettings (settings : Settings) : Except BuildError Bot :=
  ofDefinitions [VoiceCommand.definition] settings {}

end Bot

end ChatCommands
