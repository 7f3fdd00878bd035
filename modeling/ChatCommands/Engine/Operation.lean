import ChatCommands.Engine.Basic
import ChatCommands.Policy.Feed

/-!
# Operations on an engine

Everything that can happen to an engine, as data: chat lines, changes of its settings, groups and
policies, and changes that the outside makes to the state its commands work on. The states that an
engine can reach are those after a list of operations.
-/

namespace ChatCommands

inductive Operation (σ : Type) where
  | line (text chatter : String) (message : Message)
  | message (message : Message)
  | closeOutbox
  | setPrefix (commandPrefix : String)
  | setOwners (owners : List String)
  | enforceLimits (on : Bool)
  /-- A change that the outside makes to the state of the commands. -/
  | changeState (change : σ → σ)
  | addMember (group chatter : String)
  | removeMember (group chatter : String)
  | setPriority (group : String) (priority : Int)
  | setRule (path : String) (rule : Verdict)
  | removeRules (path : String)
  | clearRules
  | rebuildRules (rules : List (String × Verdict))
  | setLimit (path : String) (limit : UsageLimit)
  | removeLimits (path : String)
  | clearLimits
  | rebuildLimits (limits : List (String × UsageLimit))
  /-- A use charged without a line. -/
  | use (key path : String)
  | useGroups (key : String) (groups : StringSet) (suffix : String)
  | event (event : PolicyEvent)
  | updateLimit (entry : UsageEntry)
  /-- A feed of events read to its end. -/
  | listen (capacity : Nat) (events : List PolicyEvent)

inductive Answer (C : Type) where
  | done
  | report (report : Report C)
  | flag (changed : Bool)

namespace Engine

variable {C σ : Type}

def withPermissions (e : Engine C σ) (permissions : PermissionTree) : Engine C σ :=
  { e with policy := { e.policy with permissions } }

def withUsage (e : Engine C σ) (usage : UsageTree) : Engine C σ :=
  { e with policy := { e.policy with usage } }

def perform (e : Engine C σ) (now : Int) : Operation σ → Answer C × Engine C σ
  | .line text chatter m => (e.execute text chatter m now).map .report id
  | .message m => (e.process m now).map .report id
  | .closeOutbox => (.done, { e with outboxOpen := false })
  | .setPrefix commandPrefix => (.done, { e with commandPrefix })
  | .setOwners owners => (.done, { e with owners })
  | .enforceLimits on => (.done, { e with enforceLimits := on })
  | .changeState change => (.done, { e with state := change e.state })
  | .addMember group chatter => (.done, { e with groups := e.groups.addMember group chatter })
  | .removeMember group chatter =>
    (.flag (e.groups.hasMember group chatter),
      { e with groups := e.groups.removeMember group chatter })
  | .setPriority group priority =>
    (.done, { e with groups := e.groups.setPriority group priority })
  | .setRule path rule => (.done, e.withPermissions (e.policy.permissions.set path rule))
  | .removeRules path =>
    match e.policy.permissions.remove? path with
    | some permissions => (.flag true, e.withPermissions permissions)
    | none => (.flag false, e)
  | .clearRules => (.done, e.withPermissions .empty)
  | .rebuildRules rules => (.done, e.withPermissions (.ofRules rules))
  | .setLimit path limit =>
    match e.policy.usage.set? path limit with
    | some usage => (.flag true, e.withUsage usage)
    | none => (.flag false, e)
  | .removeLimits path =>
    match e.policy.usage.remove? path with
    | some usage => (.flag true, e.withUsage usage)
    | none => (.flag false, e)
  | .clearLimits => (.done, e.withUsage .empty)
  | .rebuildLimits limits => (.done, e.withUsage (.ofLimits limits))
  | .use key path => (e.policy.usage.tryUse key path now).map .flag e.withUsage
  | .useGroups key groups suffix =>
    (e.policy.usage.tryUseGroups key groups suffix now).map .flag e.withUsage
  | .event event => (.done, { e with policy := e.policy.apply event })
  | .updateLimit entry =>
    match e.policy.applyUpdate? entry with
    | some policy => (.flag true, { e with policy })
    | none => (.flag false, e)
  | .listen capacity events =>
    (.done, { e with policy := PolicyFeed.listen capacity events e.policy })

def run (e : Engine C σ) : List (Int × Operation σ) → Engine C σ
  | [] => e
  | (now, op) :: ops => (e.perform now op).2.run ops

end Engine

end ChatCommands
