import ChatCommands.Slot

/-!
# The command grammar

A grammar is a trie of slots. Its nodes stand in one array and refer to each other by position, the
root at position 0. Below a node there is nothing, or a number of keywords, or one parameter:
keywords and parameters never stand side by side. A keyword may be reached by several literals, its
own and its aliases, which is why the literals stand on the edges.

`C` is the type of the commands that the nodes carry. The grammar does not look into them.
-/

namespace ChatCommands

abbrev NodeId := Nat

/-- A literal that leads to a keyword node: the keyword itself or an alias of it. -/
structure Edge where
  literal : String
  target : NodeId
  deriving DecidableEq

inductive Branches where
  | leaf
  | keywords (edges : List Edge)
  | parameter (child : NodeId)
  deriving DecidableEq

structure Node (C : Type) where
  slot : Slot
  command : Option C := none
  /-- Permission suffixes that may grant the commands at and below this node. -/
  permissions : NameSet := {}
  branches : Branches := .leaf

structure Grammar (C : Type) where
  nodes : Array (Node C)

def root : NodeId := 0

def wildcard : String := "*"

namespace Node

variable {C : Type}

def ofSlot (slot : Slot) : Node C := { slot }

instance : Inhabited (Node C) := ⟨ofSlot default⟩

/-- The node's segment in canonical paths: a keyword's own literal, the wildcard for a parameter. -/
def segment (n : Node C) : String :=
  match n.slot.kind with
  | .keyword literal => literal
  | _ => wildcard

end Node

namespace Branches

def targetWhere? (p : String → Bool) (edges : List Edge) : Option NodeId :=
  (edges.find? (p ·.literal)).map Edge.target

end Branches

namespace Grammar

variable {C : Type}

def empty : Grammar C := ⟨#[Node.ofSlot (Slot.keyword "")]⟩

def node (g : Grammar C) (id : NodeId) : Node C :=
  g.nodes[id]?.getD default

/-- The literals of the top-level commands, aliases included, in the order of declaration. -/
def commandNames (g : Grammar C) : List String :=
  match (g.node root).branches with
  | .keywords edges => edges.map Edge.literal
  | _ => []

end Grammar

end ChatCommands
