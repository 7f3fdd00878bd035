import ChatCommands.Json.Format
import ChatCommands.Policy.Entry

/-!
# Policy documents

Snapshots are kept in files and events are sent as JSON. The fields of entries and snapshots are
described here for documents of any format; events have a form of their own in JSON, a record of
which the field `type` tells what the other fields are.
-/

namespace ChatCommands

section
variable {V : Type}

namespace Verdict

def ofSwitch : Option Bool → Verdict
  | some true => allow
  | some false => deny
  | none => unset

def toSwitch : Verdict → Option Bool
  | allow => some true
  | deny => some false
  | unset => none

end Verdict

namespace PermissionEntry

def fields (F : Format V) : List (Field V PermissionEntry) :=
  [.of "group_id" true F.text fun e groupId => { e with groupId },
   .of "path" true F.text fun e path => { e with path },
   .of "allow" false (F.optional F.switch) fun e allow => { e with rule := .ofSwitch allow }]

def decoder (F : Format V) : Decoder V PermissionEntry :=
  Field.recordOf F (fields F) { groupId := "", path := "" }

end PermissionEntry

namespace GroupEntry

def fields (F : Format V) : List (Field V GroupEntry) :=
  [.of "id" true F.text fun e id => { e with id },
   .of "name" true F.text fun e name => { e with name }]

def decoder (F : Format V) : Decoder V GroupEntry :=
  Field.recordOf F (fields F) { id := "", name := "" }

end GroupEntry

namespace UsageEntry

def fields (F : Format V) : List (Field V UsageEntry) :=
  [.of "group_id" true F.text fun e groupId => { e with groupId },
   .of "path" true F.text fun e path => { e with path },
   .of "count" true F.natural fun e count => { e with count },
   .of "window_millis" true F.natural fun e windowMillis => { e with windowMillis }]

def decoder (F : Format V) : Decoder V UsageEntry :=
  Field.recordOf F (fields F) { groupId := "", path := "", count := 0, windowMillis := 0 }

end UsageEntry

namespace PolicySnapshot

def fields (F : Format V) : List (Field V PolicySnapshot) :=
  [.of "permissions" false (F.listOf (PermissionEntry.decoder F)) fun s permissions =>
      { s with permissions },
   .of "groups" false (F.listOf (GroupEntry.decoder F)) fun s groups => { s with groups },
   .of "policies" false (F.listOf (UsageEntry.decoder F)) fun s policies => { s with policies }]

def decoder (F : Format V) : Decoder V PolicySnapshot :=
  Field.recordOf F (fields F) {}

end PolicySnapshot

end

/-! ## Events in JSON -/

namespace PolicyEvent

def kindField : String := "type"

def snapshotKind : String := "full_snapshot"

def updateKind : String := "single_policy_update"

def kinds : List String := [snapshotKind, updateKind]

/-- How deep the values of an event's fields may nest. -/
def maxDepth : Nat := 126

def readKind (v : Json) : Read String := do
  let kind ← Json.format.text.read v
  if kinds.contains kind then .ok kind else .error (.unknownVariant kind kinds)

def ofKind (kind : String) (v : Json) : Read PolicyEvent :=
  if kind = snapshotKind then .fullSnapshot <$> (PolicySnapshot.decoder Json.format).read v
  else .singlePolicyUpdate <$> (UsageEntry.decoder Json.format).read v

/-- The kind among the members of an event, and the other members in order. All of them are gone
through before any but the kind is read, so they must be storable. -/
def separate (kind : Option String) (others : List (Option String × Json)) :
    List (Option String × Json) → Read (String × List (Option String × Json))
  | [] =>
    match kind with
    | some kind => .ok (kind, others.reverse)
    | none => .error (.missingField kindField)
  | (none, _) :: _ => .error .unreadable
  | (some key, v) :: rest =>
    if key = kindField then
      if kind.isSome then .error (.duplicateField kindField)
      else
        match readKind v with
        | .error fault => .error fault
        | .ok kind => separate (some kind) others rest
    else if v.isStorable maxDepth then separate kind ((some key, v) :: others) rest
    else .error .unreadable

/-- Reads an event: an object with the kind among its members, or an array that begins with it. -/
def read : Json → Read PolicyEvent
  | .object members => do
    let (kind, others) ← separate none [] members
    ofKind kind (.object others)
  | .array [] => .error (.missingField kindField)
  | .array (v :: items) => do
    let kind ← readKind v
    if Json.allStorable maxDepth items then ofKind kind (.array items) else .error .unreadable
  | _ => .error .unreadable

end PolicyEvent

/-! ## Writing JSON -/

namespace PermissionEntry

def toJson (e : PermissionEntry) : Json :=
  .ofMembers [("group_id", .text e.groupId), ("path", .text e.path),
    ("allow", match e.rule.toSwitch with
      | some allow => .bool allow
      | none => .null)]

end PermissionEntry

namespace GroupEntry

def toJson (e : GroupEntry) : Json :=
  .ofMembers [("id", .text e.id), ("name", .text e.name)]

end GroupEntry

namespace UsageEntry

def members (e : UsageEntry) : List (String × Json) :=
  [("group_id", .text e.groupId), ("path", .text e.path), ("count", .natural e.count),
    ("window_millis", .natural e.windowMillis)]

def toJson (e : UsageEntry) : Json :=
  .ofMembers e.members

end UsageEntry

namespace PolicySnapshot

def members (s : PolicySnapshot) : List (String × Json) :=
  [("permissions", .array (s.permissions.map PermissionEntry.toJson)),
    ("groups", .array (s.groups.map GroupEntry.toJson)),
    ("policies", .array (s.policies.map UsageEntry.toJson))]

def toJson (s : PolicySnapshot) : Json :=
  .ofMembers s.members

end PolicySnapshot

namespace PolicyEvent

def toJson : PolicyEvent → Json
  | fullSnapshot s => .ofMembers ((kindField, .text snapshotKind) :: s.members)
  | singlePolicyUpdate e => .ofMembers ((kindField, .text updateKind) :: e.members)

end PolicyEvent

end ChatCommands
