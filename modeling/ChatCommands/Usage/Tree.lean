import ChatCommands.StringSet
import ChatCommands.Text.Dotted
import ChatCommands.Usage.Ledger

/-!
# The usage tree

Usage limits are addressed by dotted paths, as permission rules are, and every limit keeps the
histories of the chatters in a ledger of its own. A use of a path is charged to the deepest limit at
or above it that has room; where none has, or there is none, the use is refused. The root carries no
limit.
-/

namespace ChatCommands

inductive UsageNode where
  | mk (limit : Option UsageLimit) (ledger : UsageLedger) (children : List (String × UsageNode))

namespace UsageNode

def limit : UsageNode → Option UsageLimit
  | mk limit _ _ => limit

def ledger : UsageNode → UsageLedger
  | mk _ ledger _ => ledger

def children : UsageNode → List (String × UsageNode)
  | mk _ _ children => children

section
variable (limit : Option UsageLimit) (ledger : UsageLedger) (children : List (String × UsageNode))

@[simp] theorem limit_mk : (mk limit ledger children).limit = limit := rfl

@[simp] theorem ledger_mk : (mk limit ledger children).ledger = ledger := rfl

@[simp] theorem children_mk : (mk limit ledger children).children = children := rfl

end

def empty : UsageNode := mk none {} []

instance : Inhabited UsageNode := ⟨empty⟩

/-- The histories of a node that is there already stay. -/
def set (l : UsageLimit) : List String → UsageNode → UsageNode
  | [], n => mk (some l) n.ledger n.children
  | s :: rest, n =>
    mk n.limit n.ledger
      (Assoc.put s (set l rest ((Assoc.get? s n.children).getD empty)) n.children)

/-- The node itself, where no segment is given, cannot be taken out. -/
def remove? : List String → UsageNode → Option UsageNode
  | [], _ => none
  | s :: rest, n =>
    match Assoc.get? s n.children with
    | none => none
    | some child =>
      if rest.isEmpty then some (mk n.limit n.ledger (Assoc.erase s n.children))
      else
        (remove? rest child).map fun child => mk n.limit n.ledger (Assoc.put s child n.children)

def limitFor : List String → UsageNode → Option UsageLimit
  | [], n => n.limit
  | s :: rest, n =>
    match Assoc.get? s n.children with
    | none => n.limit
    | some child => limitFor rest child <|> n.limit

def charge (key : String) (now : Int) (n : UsageNode) : Bool × UsageNode :=
  match n.limit with
  | none => (false, n)
  | some limit =>
    let (used, ledger) := n.ledger.tryUse limit key now
    (used, mk n.limit ledger n.children)

/-- Charges a use to the deepest limit along the segments that has room. Limits without room note
the attempt in their ledgers only. -/
def tryUse (key : String) (now : Int) : List String → UsageNode → Bool × UsageNode
  | [], n => n.charge key now
  | s :: rest, n =>
    match Assoc.get? s n.children with
    | none => n.charge key now
    | some child =>
      let (used, child) := tryUse key now rest child
      let n := mk n.limit n.ledger (Assoc.put s child n.children)
      if used then (true, n) else n.charge key now

mutual

def limitCount : UsageNode → Nat
  | mk limit _ children => (if limit.isSome then 1 else 0) + limitCountAll children

def limitCountAll : List (String × UsageNode) → Nat
  | [] => 0
  | (_, n) :: rest => limitCount n + limitCountAll rest

end

end UsageNode

structure UsageTree where
  root : UsageNode := .empty

namespace UsageTree

def empty : UsageTree := {}

instance : Inhabited UsageTree := ⟨empty⟩

/-- There is no such tree if the path has no segment. -/
def set? (t : UsageTree) (path : String) (limit : UsageLimit) : Option UsageTree :=
  let segments := Dotted.segments path
  if segments.isEmpty then none else some ⟨t.root.set limit segments⟩

def set (t : UsageTree) (path : String) (limit : UsageLimit) : UsageTree :=
  (t.set? path limit).getD t

def remove? (t : UsageTree) (path : String) : Option UsageTree :=
  (t.root.remove? (Dotted.segments path)).map .mk

def limitFor (t : UsageTree) (path : String) : Option UsageLimit :=
  t.root.limitFor (Dotted.segments path)

def tryUse (t : UsageTree) (key path : String) (now : Int) : Bool × UsageTree :=
  let (used, node) := t.root.tryUse key now (Dotted.segments path)
  (used, ⟨node⟩)

/-- Charges one use of `suffix` to the first of the groups, in order, that has room for it. -/
def tryUseInOrder (t : UsageTree) (key suffix : String) (now : Int) :
    List String → Bool × UsageTree
  | [] => (false, t)
  | group :: groups =>
    let (used, t) := t.tryUse key (Dotted.below group suffix) now
    if used then (true, t) else t.tryUseInOrder key suffix now groups

def tryUseGroups (t : UsageTree) (key : String) (groups : StringSet) (suffix : String)
    (now : Int) : Bool × UsageTree :=
  t.tryUseInOrder key suffix now groups.members

def limitCount (t : UsageTree) : Nat :=
  t.root.limitCount

def ofLimits (limits : List (String × UsageLimit)) : UsageTree :=
  limits.foldl (fun t (path, limit) => t.set path limit) empty

end UsageTree

end ChatCommands
