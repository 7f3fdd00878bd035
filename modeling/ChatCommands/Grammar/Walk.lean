import ChatCommands.Grammar.Basic
import ChatCommands.Text.AsciiCase

/-!
# Walking the grammar

A list of tokens is matched against the grammar by one walk down from the root. At a node with
keywords the next token must be one of their literals, up to ASCII case. At a node with a parameter
the slot decides: a token that it accepts is consumed and the walk enters the parameter's node,
provided that node is optional or carries a command. Otherwise the walk stops there. A token that an
*optional* parameter refuses is left alone, it may belong to something else; a token at a *required*
parameter is consumed in any case and is then *stuck*.
-/

namespace ChatCommands

/-- `stuck` tells that one more token was consumed, at a required parameter that was not entered. -/
structure Walk where
  entered : List NodeId := []
  stuck : Bool := false
  deriving DecidableEq

namespace Walk

def via (id : NodeId) (w : Walk) : Walk :=
  { w with entered := id :: w.entered }

end Walk

namespace Grammar

variable {C : Type}

/-- The parameter node may be entered: a token may be left out there or a command lies there. -/
def enterable (g : Grammar C) (id : NodeId) : Bool :=
  (g.node id).slot.optional || (g.node id).command.isSome

/-- The walk from `id` over the tokens, where `accepts` tells which words a slot accepts. -/
def walkFrom (g : Grammar C) (accepts : Slot → String → Bool) (id : NodeId) : List String → Walk
  | [] => {}
  | token :: tokens =>
    match (g.node id).branches with
    | .leaf => {}
    | .keywords edges =>
      match Branches.targetWhere? (Text.sameUpToAsciiCase · token) edges with
      | some next => (g.walkFrom accepts next tokens).via next
      | none => {}
    | .parameter next =>
      let slot := (g.node next).slot
      if accepts slot token then
        if g.enterable next then (g.walkFrom accepts next tokens).via next else { stuck := true }
      else { stuck := !slot.optional }

def walk (g : Grammar C) (accepts : Slot → String → Bool) (tokens : List String) : Walk :=
  g.walkFrom accepts root tokens

end Grammar

end ChatCommands
