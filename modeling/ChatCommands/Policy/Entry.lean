import ChatCommands.Permission.Verdict

/-!
# Policy entries and events

Policies are kept outside the engine, which hears of them through events: a full snapshot replaces
everything, a single update changes one usage limit. Entries name their group by an id; the rows of
a snapshot's group table say which name belongs to which id.
-/

namespace ChatCommands

/-- A permission rule for one group, at a path below the group's name. -/
structure PermissionEntry where
  groupId : String
  path : String
  rule : Verdict := .unset
  deriving DecidableEq

structure GroupEntry where
  id : String
  name : String
  deriving DecidableEq

structure UsageEntry where
  groupId : String
  path : String
  count : Nat
  windowMillis : Nat
  deriving DecidableEq

structure PolicySnapshot where
  permissions : List PermissionEntry := []
  groups : List GroupEntry := []
  policies : List UsageEntry := []
  deriving DecidableEq

inductive PolicyEvent where
  | fullSnapshot (snapshot : PolicySnapshot)
  | singlePolicyUpdate (entry : UsageEntry)
  deriving DecidableEq

end ChatCommands
