import ChatCommands.Grammar.Basic
import ChatCommands.Grammar.Error
import ChatCommands.Text.Dotted

/-!
# Building a grammar

A builder holds the nodes made so far and a cursor on one of them. Every step that adds a child
moves the cursor onto it, so that a list of steps goes down the trie; a scope brings the cursor back
to where the scope began. The trail is the path from the root to the cursor, kept for error
messages.

A step that adds what is already there reuses it. A step that fails leaves the nodes as they were.
-/

namespace ChatCommands

structure Builder (C : Type) where
  grammar : Grammar C := .empty
  cursor : NodeId := root
  /-- The canonical segments from the root to the cursor. -/
  trail : List String := []

namespace Builder

variable {C : Type}

def current (b : Builder C) : Node C :=
  b.grammar.node b.cursor

def site (b : Builder C) : String :=
  if b.trail.isEmpty then "<root>" else Dotted.join b.trail

def reset (b : Builder C) : Builder C :=
  { b with cursor := root, trail := [] }

def modifyCurrent (b : Builder C) (f : Node C → Node C) : Builder C :=
  { b with grammar.nodes := b.grammar.nodes.modify b.cursor f }

def descend (b : Builder C) (id : NodeId) : Builder C :=
  { b with cursor := id, trail := b.trail ++ [(b.grammar.node id).segment] }

/-- A new child below the cursor. `attach` enters its position into the branches of the parent. -/
def grow (b : Builder C) (slot : Slot) (attach : NodeId → Branches) : Builder C :=
  let id := b.grammar.nodes.size
  let b := b.modifyCurrent fun n => { n with branches := attach id }
  let b := { b with grammar.nodes := b.grammar.nodes.push (Node.ofSlot slot) }
  b.descend id

/-! ## Steps -/

/-- A literal is not empty and holds neither dots nor blanks. -/
def isLiteral (literal : String) : Bool :=
  literal ≠ "" && literal.toList.all fun c => c ≠ '.' && !Text.isBlank c

def checkLiteral (literal : String) : Except BuildError Unit :=
  if isLiteral literal then .ok () else .error (.invalidLiteral literal)

def addKeyword (b : Builder C) (literal : String) : Except BuildError (Builder C) := do
  checkLiteral literal
  let key := Text.lower literal
  match b.current.branches with
  | .parameter _ => .error (.mixedChildren b.site)
  | .leaf => .ok (b.grow (Slot.keyword key) fun id => .keywords [⟨key, id⟩])
  | .keywords edges =>
    match Branches.targetWhere? (· == key) edges with
    | some id => .ok (b.descend id)
    | none => .ok (b.grow (Slot.keyword key) fun id => .keywords (edges ++ [⟨key, id⟩]))

/-- A parameter that is there already is reused if it is the same slot. An optional parameter needs
a command above it. -/
def addSlot (b : Builder C) (slot : Slot) : Except BuildError (Builder C) :=
  match slot.kind with
  | .keyword literal => b.addKeyword literal
  | _ =>
    match b.current.branches with
    | .keywords _ => .error (.mixedChildren b.site)
    | .parameter child =>
      let existing := (b.grammar.node child).slot
      if existing.same slot then .ok (b.descend child)
      else .error (.duplicateParameter b.site existing.name slot.name)
    | .leaf =>
      if slot.optional && b.current.command.isNone then
        .error (.optionalWithoutFallback b.site slot.name)
      else .ok (b.grow slot .parameter)

/-- Makes `name` another literal for the keyword `target` below the cursor. -/
def addAlias (b : Builder C) (name target : String) : Except BuildError (Builder C) := do
  checkLiteral name
  let name := Text.lower name
  let target := Text.lower target
  match b.current.branches with
  | .keywords edges =>
    if edges.any (·.literal == name) then .error (.aliasTaken name b.site)
    else
      match Branches.targetWhere? (· == target) edges with
      | some id =>
        .ok (b.modifyCurrent fun n => { n with branches := .keywords (edges ++ [⟨name, id⟩]) })
      | none => .error (.aliasTargetMissing target b.site)
  | _ => .error (.aliasTargetMissing target b.site)

def addPermission (b : Builder C) (suffix : String) : Builder C :=
  b.modifyCurrent fun n => { n with permissions := n.permissions.insert suffix }

def setCommand (b : Builder C) (command : C) : Except BuildError (Builder C) :=
  if b.current.command.isSome then .error (.commandAlreadySet b.site)
  else .ok (b.modifyCurrent fun n => { n with command := some command })

def attempt (b : Builder C) (step : Builder C → Except BuildError (Builder C)) :
    Builder C × Option BuildError :=
  match step b with
  | .ok b' => (b', none)
  | .error e => (b, some e)

/-- The cursor goes to the root first, and stays there if the name is refused. -/
def startCommand (b : Builder C) (name : String) : Builder C × Option BuildError :=
  if Text.trim name = "" then (b, some .emptyCommandName)
  else b.reset.attempt (·.addKeyword name)

/-- `after` with the cursor where `before` had it. -/
def returnTo (before after : Builder C) : Builder C :=
  { after with cursor := before.cursor, trail := after.trail.take before.trail.length }

end Builder

/-! ## Scripts -/

inductive BuildStep (C : Type) where
  | start (name : String)
  | keyword (literal : String)
  | slot (s : Slot)
  | synonym (name target : String)
  | permission (suffix : String)
  | command (c : C)
  /-- Steps after which the cursor returns. The first failure among them ends the scope. -/
  | scope (steps : List (BuildStep C))

inductive BuildAnswer where
  | ok
  | failed (error : BuildError)
  | scope (inner : List BuildAnswer) (failure : Option BuildError)

namespace BuildAnswer

def failure? : BuildAnswer → Option BuildError
  | ok => none
  | failed e => some e
  | scope _ failure => failure

def ofFailure : Option BuildError → BuildAnswer
  | none => ok
  | some e => failed e

end BuildAnswer

section
variable {C : Type}

mutual

def BuildStep.run : BuildStep C → Builder C → Builder C × BuildAnswer
  | .start name, b => (b.startCommand name).map id .ofFailure
  | .keyword literal, b => (b.attempt (·.addKeyword literal)).map id .ofFailure
  | .slot s, b => (b.attempt (·.addSlot s)).map id .ofFailure
  | .synonym name target, b => (b.attempt (·.addAlias name target)).map id .ofFailure
  | .permission suffix, b => (b.addPermission suffix, .ok)
  | .command c, b => (b.attempt (·.setCommand c)).map id .ofFailure
  | .scope steps, b =>
    let (after, inner, failure) := BuildStep.runUntilFailure steps b
    (b.returnTo after, .scope inner failure)

def BuildStep.runUntilFailure :
    List (BuildStep C) → Builder C → Builder C × List BuildAnswer × Option BuildError
  | [], b => (b, [], none)
  | step :: steps, b =>
    let (b, answer) := step.run b
    match answer.failure? with
    | some e => (b, [answer], some e)
    | none =>
      let (b, answers, failure) := runUntilFailure steps b
      (b, answer :: answers, failure)

end

def BuildStep.runAll : List (BuildStep C) → Builder C → Builder C × List BuildAnswer
  | [], b => (b, [])
  | step :: steps, b =>
    let (b, answer) := step.run b
    let (b, answers) := runAll steps b
    (b, answer :: answers)

end

/-! ## Definitions -/

abbrev Definition (C : Type) := List (BuildStep C)

namespace Grammar

variable {C : Type}

def define (b : Builder C) (definition : Definition C) : Except BuildError (Builder C) :=
  match BuildStep.runUntilFailure definition b.reset with
  | (b, _, none) => .ok b
  | (_, _, some e) => .error e

/-- The first failure refuses the whole list. -/
def build (definitions : List (Definition C)) : Except BuildError (Grammar C) :=
  Builder.grammar <$> definitions.foldlM define {}

end Grammar

end ChatCommands
