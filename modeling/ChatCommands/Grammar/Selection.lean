import ChatCommands.Grammar.Walk
import ChatCommands.Text.Dotted

/-!
# Selecting a command

The selection for a list of tokens is read off the walk: the command is that of the last node
entered that carries one, the path names the nodes entered by their canonical segments, and the
permission suffixes are those of all nodes entered.
-/

namespace ChatCommands

structure Selection (C : Type) where
  command : Option C
  segments : List String
  permissions : NameSet

namespace Selection

variable {C : Type}

def path (s : Selection C) : String :=
  Dotted.join s.segments

end Selection

namespace Grammar

variable {C : Type}

def lastCommand (g : Grammar C) (ids : List NodeId) : Option C :=
  ids.foldl (fun best id => (g.node id).command <|> best) none

/-- The command that a walk leads to. The root's own command counts only in a grammar without any
other node to go to. -/
def commandOf (g : Grammar C) (w : Walk) : Option C :=
  if (g.node root).branches = .leaf then (g.node root).command else g.lastCommand w.entered

def segmentsOf (g : Grammar C) (w : Walk) : List String :=
  w.entered.map (fun id => (g.node id).segment) ++ if w.stuck then [wildcard] else []

def permissionsOf (g : Grammar C) (w : Walk) : NameSet :=
  w.entered.foldl (fun gathered id => gathered.union (g.node id).permissions) NameSet.empty

def select (g : Grammar C) (accepts : Slot → String → Bool) (tokens : List String) : Selection C :=
  let w := g.walk accepts tokens
  { command := g.commandOf w, segments := g.segmentsOf w, permissions := g.permissionsOf w }

end Grammar

end ChatCommands
