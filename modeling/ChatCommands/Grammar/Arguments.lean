import ChatCommands.Assoc
import ChatCommands.Grammar.Basic
import ChatCommands.Text.Dotted

/-!
# Arguments

The arguments of a command are the tokens that stand where its path has a wildcard. They are
captured by following the path through the grammar, segment by segment, beside the tokens.
-/

namespace ChatCommands

/-- A token captured at a parameter, with the slot that is to accept it. -/
structure Argument where
  slot : Slot
  value : String
  deriving DecidableEq

abbrev ArgumentMap := List (String × String)

namespace Argument

/-- The map of a list of arguments; of several with one name the last counts. -/
def byName (arguments : List Argument) : ArgumentMap :=
  arguments.foldl (fun map a => Assoc.put a.slot.name a.value map) []

end Argument

inductive CaptureError where
  | tooFewTokens (path : String) (segments tokens : Nat)
  /-- No keyword of this literal lies there. -/
  | leavesGrammar (path segment : String)
  /-- A wildcard and a keyword meet, or nothing lies there. -/
  | doesNotFit (path segment : String)
  deriving DecidableEq

namespace CaptureError

def message : CaptureError → String
  | tooFewTokens path segments tokens =>
    "path '" ++ path ++ "' has " ++ toString segments ++ " segments but only " ++ toString tokens
      ++ " tokens were given"
  | leavesGrammar path segment => "path '" ++ path ++ "' leaves the grammar at '" ++ segment ++ "'"
  | doesNotFit path segment =>
    "path '" ++ path ++ "' does not fit the grammar at '" ++ segment ++ "'"

end CaptureError

namespace Grammar

variable {C : Type}

def captureFrom (g : Grammar C) (path : String) (id : NodeId) :
    List String → List String → Except CaptureError (List Argument)
  | segment :: segments, token :: tokens =>
    match (g.node id).branches with
    | .parameter next =>
      if segment = wildcard then do
        let later ← g.captureFrom path next segments tokens
        return ⟨(g.node next).slot, token⟩ :: later
      else .error (.doesNotFit path segment)
    | .keywords edges =>
      match Branches.targetWhere? (· == segment) edges with
      | some next => g.captureFrom path next segments tokens
      | none => .error (.leavesGrammar path segment)
    | .leaf => .error (.doesNotFit path segment)
  | _, _ => .ok []

/-- The empty path has no arguments. -/
def capture (g : Grammar C) (tokens : List String) (path : String) :
    Except CaptureError (List Argument) :=
  if path = "" then .ok []
  else
    let segments := Dotted.split path
    if tokens.length < segments.length then
      .error (.tooFewTokens path segments.length tokens.length)
    else g.captureFrom path root segments tokens

end Grammar

end ChatCommands
