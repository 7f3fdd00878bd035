import ChatCommands.Engine.Behaviour
import ChatCommands.Grammar.Selection
import ChatCommands.Groups
import ChatCommands.Outcome.Basic
import ChatCommands.Policy.Store
import ChatCommands.Tokens

/-!
# The command engine

A chat line has to start with the command prefix and to name a command of the grammar. The chatter
must be allowed to use it, every argument must be accepted by its slot, and where limits are
enforced one of the chatter's groups must have room for another use; then the command runs. Each
stage may settle the outcome. Owners are asked neither for permission nor about limits.
-/

namespace ChatCommands

structure Call (C : Type) where
  command : C
  arguments : ArgumentMap
  deriving DecidableEq

structure Report (C : Type) where
  outcome : Outcome
  calls : List (Call C) := []
  replies : List Reply := []
  deriving DecidableEq

structure Engine (C σ : Type) where
  grammar : Grammar C
  behaviour : Behaviour C σ
  /-- What commands work on, the name registries included. -/
  state : σ
  commandPrefix : String := "!"
  /-- Chatters who are bound neither by permissions nor by limits. -/
  owners : List String := []
  enforceLimits : Bool := false
  groups : Groups := {}
  policy : PolicyStore := {}
  outboxOpen : Bool := true

namespace Engine

variable {C σ : Type}

def isOwner (e : Engine C σ) (chatter : String) : Bool :=
  e.owners.contains chatter

/-- The tokens after the command prefix, with which the line must start, blanks aside. -/
def tokensOf? (e : Engine C σ) (line : String) : Option (List String) :=
  (e.commandPrefix.toList.isPrefixOf? (Text.trimFront line.toList)).map fun rest =>
    tokenize (String.ofList rest)

def accepts (e : Engine C σ) (m : Message) (slot : Slot) (word : String) : Bool :=
  slot.accepts (e.behaviour.registries e.state) (some m) word

def select (e : Engine C σ) (m : Message) (tokens : List String) : Selection C :=
  e.grammar.select (e.accepts m) tokens

/-- What the permission rules say on a selected command, for a member of these groups. -/
def verdict (e : Engine C σ) (groups : StringSet) (command : C) (s : Selection C) : Verdict :=
  match e.policy.permissions.checkGroups groups s.path with
  | .unset =>
    if e.behaviour.acceptsCustomPermission command && !s.permissions.isEmpty then
      e.policy.permissions.checkGroupsAny groups s.permissions.names
    else .unset
  | verdict => verdict

/-- A chatter who is not an owner may use the selected command. -/
def permits (e : Engine C σ) (groups : StringSet) (m : Message) (command : C) (s : Selection C) :
    Bool :=
  match e.verdict groups command s with
  | .allow => true
  | .deny => false
  | .unset => e.behaviour.allowedByDefault command m

def arguments? (e : Engine C σ) (m : Message) (tokens : List String) (path : String) :
    Option (List Argument) :=
  match e.grammar.capture tokens path with
  | .error _ => none
  | .ok arguments =>
    if arguments.all fun a => e.accepts m a.slot a.value then some arguments else none

/-- Charges one use of the path where limits bind the chatter, and tells whether there was room. -/
def charge (e : Engine C σ) (chatter : String) (groups : StringSet) (path : String) (now : Int) :
    Bool × Engine C σ :=
  if e.enforceLimits && !e.isOwner chatter then
    let (used, usage) := e.policy.usage.tryUseGroups chatter groups path now
    (used, { e with policy := { e.policy with usage } })
  else (true, e)

def invoke (e : Engine C σ) (m : Message) (call : Call C) : Report C × Engine C σ :=
  let effect := e.behaviour.run call.command call.arguments m e.outboxOpen e.state
  ({ outcome := if effect.ending = .success then .success else .executionFailed
     calls := [call]
     replies := if e.outboxOpen then effect.replies else [] },
   { e with state := effect.state })

def dispatch (e : Engine C σ) (chatter : String) (m : Message) (now : Int) (tokens : List String)
    (s : Selection C) (command : C) : Report C × Engine C σ :=
  let groups := e.groups.groupsOf chatter
  if !e.isOwner chatter && !e.permits groups m command s then ({ outcome := .forbidden }, e)
  else
    match e.arguments? m tokens s.path with
    | none => ({ outcome := .badSyntax }, e)
    | some arguments =>
      match e.charge chatter groups s.path now with
      | (false, e) => ({ outcome := .rateLimited }, e)
      | (true, e) => e.invoke m ⟨command, Argument.byName arguments⟩

/-- Takes a line that a chatter wrote through all stages, at the instant `now`. -/
def execute (e : Engine C σ) (line chatter : String) (m : Message) (now : Int) :
    Report C × Engine C σ :=
  match e.tokensOf? line with
  | none | some [] => ({ outcome := .unrecognized }, e)
  | some tokens =>
    let s := e.select m tokens
    match s.command with
    | none => ({ outcome := .unrecognized }, e)
    | some command => e.dispatch chatter m now tokens s command

def process (e : Engine C σ) (m : Message) (now : Int) : Report C × Engine C σ :=
  e.execute m.content m.userId m now

end Engine

end ChatCommands
