import ChatCommands.Engine.Behaviour
import ChatCommands.Grammar.Builder
import ChatCommands.Voices.State

/-!
# The voice commands

The commands `tts`, `voice` and `skip`, by which chatters pick voices and moderators rule over the
reading aloud. Every command that runs sends one reply to where its message came from.
-/

namespace ChatCommands

inductive VoiceCommand where
  | status
  | enable
  | disable
  | setState
  | current
  | select
  | selectFor
  | skip
  | skipAll
  deriving DecidableEq, Repr

inductive MissingArgument where
  | voice
  | state
  | target
  deriving DecidableEq

namespace VoiceCommand

/-! ## Arguments -/

def voiceSlot : String := "voiceName"

def stateSlot : String := "state"

def targetSlot : String := "target"

def scopeSlot : String := "scope"

def voice? (arguments : ArgumentMap) : Except MissingArgument String :=
  match Assoc.get? voiceSlot arguments with
  | some name => .ok (Text.lower name)
  | none => .error .voice

def state? (arguments : ArgumentMap) : Except MissingArgument Bool :=
  match (Assoc.get? stateSlot arguments).bind Toggle.parse? with
  | some on => .ok on
  | none => .error .state

/-- The login that the arguments name, in lowercase and without `@` in front. -/
def target? (arguments : ArgumentMap) : Except MissingArgument String :=
  match Assoc.get? targetSlot arguments with
  | some login => .ok (Text.lower (String.ofList (login.toList.dropWhile (· = '@'))))
  | none => .error .target

/-! ## Behaviour -/

def onOff (on : Bool) : String :=
  if on then "on" else "off"

def perform (arguments : ArgumentMap) (m : Message) (s : VoiceState) :
    VoiceCommand → Except MissingArgument (VoiceState × String)
  | status =>
    .ok (s, "TTS is " ++ onOff s.active ++ " with " ++ toString s.enabled.names.length
      ++ " voices enabled")
  | enable => do
    let voice ← voice? arguments
    if s.enabled.contains voice then .ok (s, "Voice " ++ voice ++ " is already enabled")
    else .ok ({ s with enabled := s.enabled.insert voice }, "Enabled voice " ++ voice)
  | disable => do
    let voice ← voice? arguments
    .ok ({ s with enabled := s.enabled.erase voice }, "Disabled voice " ++ voice)
  | setState => do
    let on ← state? arguments
    .ok ({ s with active := on }, "TTS turned " ++ onOff on)
  | current =>
    match s.voiceOf? m.username with
    | some voice => .ok (s, "@" ++ m.username ++ " your voice is " ++ voice)
    | none => .ok (s, "@" ++ m.username ++ " you are using the default voice")
  | select => do
    let voice ← voice? arguments
    .ok (s.select m.username voice, "@" ++ m.username ++ " your voice is now " ++ voice)
  | selectFor => do
    let voice ← voice? arguments
    let target ← target? arguments
    .ok ({ s with selected := Assoc.put target voice s.selected },
      "@" ++ target ++ " voice is now " ++ voice)
  | skip => .ok ({ s with skips := s.skips + 1 }, "Skipped the current message")
  | skipAll => .ok ({ s with skips := s.skips + 1 }, "Skipped all queued messages")

/-- Where its reply cannot be sent a command takes hold all the same, but its run ends in an error. -/
def run (c : VoiceCommand) (arguments : ArgumentMap) (m : Message) (outboxOpen : Bool)
    (s : VoiceState) : Effect VoiceState :=
  match c.perform arguments m s with
  | .error _ => { state := s, ending := .error }
  | .ok (s, text) =>
    if outboxOpen then { state := s, replies := [m.reply text] }
    else { state := s, ending := .error }

/-- Only skipping may be granted through permission suffixes of the grammar. -/
def acceptsCustomPermission : VoiceCommand → Bool
  | skip | skipAll => true
  | _ => false

/-- Looking at the status and dealing with one's own voice is free to all, the rest is for
moderators and the broadcaster. -/
def allowedByDefault (c : VoiceCommand) (m : Message) : Bool :=
  match c with
  | status | current | select => true
  | _ => m.isMod || m.isBroadcaster

def behaviour : Behaviour VoiceCommand VoiceState where
  acceptsCustomPermission := acceptsCustomPermission
  allowedByDefault := allowedByDefault
  registries := VoiceState.registries
  run := run

/-! ## Grammar -/

def voiceIn (registry : String) : Slot :=
  { name := voiceSlot, kind := .registered registry }

def ttsDefinition : Definition VoiceCommand :=
  [.start "tts", .permission "tts", .command status,
   .scope
     [.keyword "add", .permission "tts.voice.add", .slot (voiceIn VoiceState.availableKey),
      .command enable],
   .scope
     [.keyword "delete", .permission "tts.voice.delete", .slot (voiceIn VoiceState.enabledKey),
      .command disable],
   .synonym "del" "delete",
   .scope [.keyword "state", .slot { name := stateSlot, kind := .toggle }, .command setState]]

def voiceDefinition : Definition VoiceCommand :=
  [.start "voice", .command current, .slot (voiceIn VoiceState.enabledKey), .command select,
   .slot { name := targetSlot, optional := true, kind := .mention },
   .permission "tts.voice.others", .command selectFor]

def skipDefinition : Definition VoiceCommand :=
  [.start "skip", .permission "tts.skip", .command skip,
   .slot { name := scopeSlot, optional := true, kind := .choice (.ofList ["all"]) },
   .command skipAll]

def definition : Definition VoiceCommand :=
  ttsDefinition ++ voiceDefinition ++ skipDefinition

end VoiceCommand

end ChatCommands
