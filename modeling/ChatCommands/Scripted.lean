import ChatCommands.Engine.Behaviour

/-!
# Scripted commands

Commands whose whole behaviour is laid down beforehand, for rehearsing a grammar and its policies:
who may use them by default, and how every run of them ends.
-/

namespace ChatCommands

inductive ScriptedAccess where
  | everybody
  | nobody
  | moderators
  | broadcaster
  deriving DecidableEq

inductive ScriptedAction where
  | succeed
  | fail
  | breakDown
  /-- Says that it ran, and fails if that cannot be sent. -/
  | answer
  deriving DecidableEq

structure ScriptedCommand where
  id : String
  custom : Bool := false
  access : ScriptedAccess := .everybody
  action : ScriptedAction := .succeed
  deriving DecidableEq

namespace ScriptedCommand

def allows (c : ScriptedCommand) (m : Message) : Bool :=
  match c.access with
  | .everybody => true
  | .nobody => false
  | .moderators => m.isMod
  | .broadcaster => m.isBroadcaster

def perform {σ : Type} (c : ScriptedCommand) (m : Message) (outboxOpen : Bool) (state : σ) :
    Effect σ :=
  match c.action with
  | .succeed => { state }
  | .fail => { state, ending := .error }
  | .breakDown => { state, ending := .fault }
  | .answer =>
    if outboxOpen then { state, replies := [m.reply (c.id ++ " ran")] }
    else { state, ending := .error }

/-- Scripted commands leave the state alone; `registries` reads the name registries off it. -/
def behaviour {σ : Type} (registries : σ → Registries) : Behaviour ScriptedCommand σ :=
  { acceptsCustomPermission := custom
    allowedByDefault := allows
    registries
    run := fun c _ m outboxOpen state => c.perform m outboxOpen state }

end ScriptedCommand

end ChatCommands
