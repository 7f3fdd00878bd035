import ChatCommands.Bot
import ChatCommands.Files
import ChatCommands.Policy.Document

/-!
# The console

The bot on a console. A line is a chat message of the channel's owner, or `/policy` and a policy
event in JSON; lines without text and events that cannot be read are passed over. Shown are the
replies, and the outcome unless it is success.
-/

namespace ChatCommands

structure Console where
  chatter : String
  bot : Bot

inductive ConsoleLine where
  | outcome (outcome : Outcome)
  | reply (reply : Reply)
  deriving DecidableEq

inductive StartFault where
  | settings (fault : FileFault)
  | grammar (error : BuildError)

namespace ConsoleLine

def text : ConsoleLine → String
  | outcome o => "-> " ++ o.display
  | reply r => "[" ++ r.platform ++ "#" ++ r.channel ++ "] " ++ r.text

def ofReport {C : Type} (r : Report C) : List ConsoleLine :=
  r.replies.map reply ++ if r.outcome = .success then [] else [outcome r.outcome]

end ConsoleLine

namespace Console

/-! ## Start -/

def ofSettings (s : Settings) (snapshot : Option PolicySnapshot) : Except BuildError Console :=
  (Bot.ofSettings s).map fun bot =>
    { chatter := s.consoleChatter
      bot := match snapshot with
        | some snapshot => (bot.perform 0 (.event (.fullSnapshot snapshot))).2
        | none => bot }

/-- A snapshot that cannot be used counts as missing. -/
def start (settingsFile snapshotFile : Option ByteArray) (environment : String → Option String) :
    Except StartFault Console :=
  match Settings.load settingsFile environment with
  | .error fault => .error (.settings fault)
  | .ok s =>
    let snapshot := match PolicySnapshot.load snapshotFile with
      | .ok snapshot => snapshot
      | .error _ => none
    match ofSettings s snapshot with
    | .error error => .error (.grammar error)
    | .ok console => .ok console

/-! ## Lines -/

def policyCommand : String := "/policy "

def message (chatter line : String) : Message :=
  { Message.ofContent "console" "local" chatter chatter line with
    badges := ["broadcaster"], isMod := true }

/-- The event in JSON that a line holds after the policy command. -/
def policyText? (line : String) : Option String :=
  (policyCommand.toList.isPrefixOf? line.toList).map String.ofList

def step (console : Console) (now : Int) (line : String) : List ConsoleLine × Console :=
  let line := Text.trim line
  if line = "" then ([], console)
  else
    match policyText? line with
    | some text =>
      match Json.readText PolicyEvent.read text with
      | .ok event => ([], { console with bot := (console.bot.perform now (.event event)).2 })
      | .error _ => ([], console)
    | none =>
      let (report, bot) := console.bot.process (message console.chatter line) now
      (ConsoleLine.ofReport report, { console with bot })

def run (console : Console) : List (Int × String) → List ConsoleLine × Console
  | [] => ([], console)
  | (now, line) :: lines =>
    let (shown, console) := console.step now line
    let (more, console) := console.run lines
    (shown ++ more, console)

end Console

end ChatCommands
