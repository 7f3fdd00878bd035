import ChatCommands.Assoc
import ChatCommands.Permission.Verdict
import ChatCommands.StringSet
import ChatCommands.Text.Dotted

/-!
# The permission tree

Permission rules are addressed by dotted paths whose first segment is usually a group. What holds at
a path is the rule of the nearest node at or above it that has one. Nodes without a rule stand where
a path leads through them or where a rule was taken back.
-/

namespace ChatCommands

inductive PermissionNode where
  | mk (rule : Verdict) (children : List (String × PermissionNode))

namespace PermissionNode

def rule : PermissionNode → Verdict
  | mk rule _ => rule

def children : PermissionNode → List (String × PermissionNode)
  | mk _ children => children

@[simp] theorem rule_mk (v : Verdict) (children : List (String × PermissionNode)) :
    (mk v children).rule = v := rfl

@[simp] theorem children_mk (v : Verdict) (children : List (String × PermissionNode)) :
    (mk v children).children = children := rfl

def empty : PermissionNode := mk .unset []

instance : Inhabited PermissionNode := ⟨empty⟩

def set (v : Verdict) : List String → PermissionNode → PermissionNode
  | [], n => mk v n.children
  | s :: rest, n =>
    mk n.rule (Assoc.put s (set v rest ((Assoc.get? s n.children).getD empty)) n.children)

/-- The node itself, where no segment is given, cannot be taken out. -/
def remove? : List String → PermissionNode → Option PermissionNode
  | [], _ => none
  | s :: rest, n =>
    match Assoc.get? s n.children with
    | none => none
    | some child =>
      if rest.isEmpty then some (mk n.rule (Assoc.erase s n.children))
      else (remove? rest child).map fun child => mk n.rule (Assoc.put s child n.children)

/-- The rule of the nearest node on the way along the segments, `inherited` where none has one. -/
def check (inherited : Verdict) : List String → PermissionNode → Verdict
  | [], n => n.rule.orElse inherited
  | s :: rest, n =>
    let nearest := n.rule.orElse inherited
    match Assoc.get? s n.children with
    | none => nearest
    | some child => check nearest rest child

mutual

def ruleCount : PermissionNode → Nat
  | mk rule children => (if rule.isSet then 1 else 0) + ruleCountAll children

def ruleCountAll : List (String × PermissionNode) → Nat
  | [] => 0
  | (_, n) :: rest => ruleCount n + ruleCountAll rest

end

end PermissionNode

structure PermissionTree where
  root : PermissionNode := .empty

namespace PermissionTree

def empty : PermissionTree := {}

instance : Inhabited PermissionTree := ⟨empty⟩

/-- The verdict `unset` takes the rule back. -/
def set (t : PermissionTree) (path : String) (v : Verdict) : PermissionTree :=
  ⟨t.root.set v (Dotted.segments path)⟩

def remove? (t : PermissionTree) (path : String) : Option PermissionTree :=
  (t.root.remove? (Dotted.segments path)).map .mk

def check (t : PermissionTree) (path : String) : Verdict :=
  t.root.check .unset (Dotted.segments path)

def checkGroups (t : PermissionTree) (groups : StringSet) (suffix : String) : Verdict :=
  Verdict.combine (groups.members.map fun group => t.check (Dotted.below group suffix))

/-- What holds for a member of all these groups when any of the suffixes will do. -/
def checkGroupsAny (t : PermissionTree) (groups : StringSet) (suffixes : List String) : Verdict :=
  Verdict.combine (suffixes.map fun suffix => t.checkGroups groups suffix)

def ruleCount (t : PermissionTree) : Nat :=
  t.root.ruleCount

def ofRules (rules : List (String × Verdict)) : PermissionTree :=
  rules.foldl (fun t (path, v) => t.set path v) empty

end PermissionTree

end ChatCommands
