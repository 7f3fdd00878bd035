import ChatCommands.Permission.Tree
import ChatCommands.Policy.Entry
import ChatCommands.Text.Lowercase
import ChatCommands.Usage.Tree

/-!
# The policy store

The permission tree, the usage tree and the group table of the last snapshot. A snapshot rebuilds
both trees, so usage histories start afresh; an update sets one limit and leaves the histories
alone. Entries of groups that the table does not know are skipped. Group names and paths are
lowercased, each on its own.
-/

namespace ChatCommands

/-- The greatest window that a limit can have, in milliseconds. -/
def maxWindow : Nat := Nat.pow 2 63 - 1

namespace UsageEntry

def limit (e : UsageEntry) : UsageLimit :=
  { count := e.count, window := (min e.windowMillis maxWindow : Nat) }

end UsageEntry

abbrev GroupTable := List (String × String)

namespace GroupTable

/-- The table of a list of rows; of several rows with one id the last counts. -/
def ofEntries (entries : List GroupEntry) : GroupTable :=
  entries.foldl (fun table e => Assoc.put e.id (Text.lower e.name) table) []

def place? (table : GroupTable) (groupId path : String) : Option String :=
  (Assoc.get? groupId table).map fun name => Dotted.below name (Text.lower path)

end GroupTable

structure PolicyStore where
  permissions : PermissionTree := {}
  usage : UsageTree := {}
  groupNames : GroupTable := []

namespace PolicySnapshot

def groupTable (s : PolicySnapshot) : GroupTable :=
  .ofEntries s.groups

def rules (s : PolicySnapshot) : List (String × Verdict) :=
  s.permissions.filterMap fun e =>
    (s.groupTable.place? e.groupId e.path).map fun path => (path, e.rule)

def limits (s : PolicySnapshot) : List (String × UsageLimit) :=
  s.policies.filterMap fun e =>
    (s.groupTable.place? e.groupId e.path).map fun path => (path, e.limit)

def toStore (s : PolicySnapshot) : PolicyStore :=
  { permissions := .ofRules s.rules, usage := .ofLimits s.limits, groupNames := s.groupTable }

end PolicySnapshot

namespace PolicyStore

def applySnapshot (_ : PolicyStore) (s : PolicySnapshot) : PolicyStore :=
  s.toStore

/-- There is no such store if the group is unknown or the place has no segment. -/
def applyUpdate? (store : PolicyStore) (e : UsageEntry) : Option PolicyStore := do
  let path ← store.groupNames.place? e.groupId e.path
  let usage ← store.usage.set? path e.limit
  return { store with usage }

def apply (store : PolicyStore) : PolicyEvent → PolicyStore
  | .fullSnapshot s => store.applySnapshot s
  | .singlePolicyUpdate e => (store.applyUpdate? e).getD store

end PolicyStore

end ChatCommands
