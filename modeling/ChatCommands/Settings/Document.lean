import ChatCommands.Json.Format
import ChatCommands.Settings.Basic

/-!
# Settings documents

The fields of settings in documents of any format. Each of them may be missing.
-/

namespace ChatCommands.Settings

variable {V : Type}

def fields (F : Format V) : List (Field V Settings) :=
  [.of "command_prefix" false F.text fun s commandPrefix => { s with commandPrefix },
   .of "owner_ids" false (F.listOf F.text) fun s ownerIds => { s with ownerIds },
   .of "enforce_usage_policies" false F.switch fun s enforceLimits => { s with enforceLimits },
   .of "console_chatter" false F.text fun s consoleChatter => { s with consoleChatter },
   .of "voices" false (F.listOf F.text) fun s voices => { s with voices }]

def decoder (F : Format V) : Decoder V Settings :=
  Field.recordOf F (fields F) {}

def texts (items : List String) : Json :=
  .array (items.map .text)

def toJson (s : Settings) : Json :=
  .ofMembers [("command_prefix", .text s.commandPrefix), ("owner_ids", texts s.ownerIds),
    ("enforce_usage_policies", .bool s.enforceLimits), ("console_chatter", .text s.consoleChatter),
    ("voices", texts s.voices)]

end ChatCommands.Settings
