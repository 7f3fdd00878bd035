import ChatCommands.Proofs.Grammar.Failures
import ChatCommands.Proofs.Grammar.Sameness

/-!
# Parameters that are declared again

A parameter that is declared where the same one stands already is reused: the slot that was declared first is
kept, and the one that was given is dropped. The builder of this module does the opposite: it keeps the slot
that was given last.

* `Builder.addSlotReplacing`: as `addSlot`, except that the slot takes the place of the one that is reused.
* `Builder.Alike`: builders in the same place, whose grammars agree up to slots that are the same.
* `Builder.SameFuture`: builders that nothing declared later tells apart, nor the grammars that come of it.
* `SameOutcome`: both fail with one error, or neither fails.

**Theorem (`abreast_run`).** From builders that are alike every step leads to builders that are alike, with one
answer, whether it reuses slots or replaces them.

**Theorem (`reusing_behavesLike_replacing`).** Being the same is an equivalence, slots that are the same are
interchangeable, and so a parameter that is reused means what the slot that was given means.

A slot that stands is compared with every slot that is declared there later. That the outcome is one for the
slot that was kept and the one that was given takes more than that both accept the same: it holds because being
the same is symmetric and transitive.
-/

namespace ChatCommands

variable {C : Type}

/-! ## The builder that replaces -/

namespace Builder

/-- The builder with another slot at a node. -/
def replaceSlot (b : Builder C) (id : NodeId) (slot : Slot) : Builder C :=
  { b with grammar := b.grammar.modify id fun n => { n with slot } }

/-- Goes down to a slot, adding it where it is missing, and putting it in the place of the parameter that is
there already if that is the same slot. -/
def addSlotReplacing (b : Builder C) (slot : Slot) : Except BuildError (Builder C) :=
  match b.current.branches with
  | .parameter child => (b.addSlot slot).map (·.replaceSlot child slot)
  | _ => b.addSlot slot

end Builder

namespace BuildStep

mutual

/-- Runs one step, replacing slots. -/
def runReplacing : BuildStep C → Builder C → Builder C × BuildAnswer
  | .slot s, b => (b.attempt (·.addSlotReplacing s)).map id .ofFailure
  | .scope steps, b =>
    let (after, inner, failure) := runReplacingUntilFailure steps b
    (b.returnTo after, .scope inner failure)
  | step, b => step.run b

/-- Runs steps up to the first one that fails, replacing slots. -/
def runReplacingUntilFailure :
    List (BuildStep C) → Builder C → Builder C × List BuildAnswer × Option BuildError
  | [], b => (b, [], none)
  | step :: steps, b =>
    let (b, answer) := step.runReplacing b
    match answer.failure? with
    | some e => (b, [answer], some e)
    | none =>
      let (b, answers, failure) := runReplacingUntilFailure steps b
      (b, answer :: answers, failure)

end

/-- Runs every step, replacing slots. -/
def runAllReplacing : List (BuildStep C) → Builder C → Builder C × List BuildAnswer
  | [], b => (b, [])
  | step :: steps, b =>
    let (b, answer) := step.runReplacing b
    let (b, answers) := runAllReplacing steps b
    (b, answer :: answers)

end BuildStep

namespace Grammar

/-- Extends a builder by a definition, replacing slots. -/
def defineReplacing (b : Builder C) (definition : Definition C) : Except BuildError (Builder C) :=
  match BuildStep.runReplacingUntilFailure definition b.reset with
  | (b, _, none) => .ok b
  | (_, _, some e) => .error e

/-- The grammar of a list of definitions in which slots were replaced. -/
def buildReplacing (definitions : List (Definition C)) : Except BuildError (Grammar C) :=
  Builder.grammar <$> definitions.foldlM defineReplacing {}

/-! ## Grammars up to their slots -/

namespace AgreesUpTo

variable {R : Slot → Slot → Prop} {g g' : Grammar C}

theorem refl (hR : ∀ s, R s s) (g : Grammar C) : g.AgreesUpTo R g :=
  ⟨rfl, fun _ => ⟨hR _, rfl, rfl, rfl, rfl⟩⟩

theorem modify (h : g.AgreesUpTo R g') {id : NodeId} {f f' : Node C → Node C}
    (hf : (f (g.node id)).AgreesUpTo R (f' (g'.node id))) :
    (g.modify id f).AgreesUpTo R (g'.modify id f') where
  size := by rw [size_modify, size_modify, h.size]
  node j := by
    rw [node_modify, node_modify, h.size]
    split_ifs with hj
    · obtain ⟨rfl, -⟩ := hj
      exact hf
    · exact h.node j

theorem modify_right (h : g.AgreesUpTo R g') {id : NodeId} {f : Node C → Node C}
    (hf : (g.node id).AgreesUpTo R (f (g'.node id))) : g.AgreesUpTo R (g'.modify id f) where
  size := by rw [size_modify, h.size]
  node j := by
    rw [node_modify]
    split_ifs with hj
    · obtain ⟨rfl, -⟩ := hj
      exact hf
    · exact h.node j

theorem push (h : g.AgreesUpTo R g') {n : Node C} (hn : n.AgreesUpTo R n) :
    AgreesUpTo R ⟨g.nodes.push n⟩ ⟨g'.nodes.push n⟩ where
  size := by simp only [Array.size_push, h.size]
  node j := by
    rw [Grammar.node, Grammar.node, Array.getElem?_push, Array.getElem?_push, h.size]
    split_ifs
    · exact hn
    · exact h.node j

theorem grow (h : g.AgreesUpTo R g') {slot : Slot} (hslot : R slot slot) (id : NodeId)
    (attach : NodeId → Branches) : (g.grow id slot attach).AgreesUpTo R (g'.grow id slot attach) := by
  have hattached : AgreesUpTo R
      (g.modify id fun n => { n with branches := attach g.nodes.size })
      (g'.modify id fun n => { n with branches := attach g'.nodes.size }) :=
    h.modify { h.node id with branches := congrArg attach h.size }
  exact hattached.push ⟨hslot, rfl, rfl, rfl, rfl⟩

end AgreesUpTo

end Grammar

/-- Both fail with the same error, or neither fails and `R` holds of what they give. -/
inductive SameOutcome {α : Type} (R : α → α → Prop) :
    Except BuildError α → Except BuildError α → Prop
  | ok {a a' : α} (h : R a a') : SameOutcome R (.ok a) (.ok a')
  | error (e : BuildError) : SameOutcome R (.error e) (.error e)

namespace SameOutcome

variable {α β : Type} {R : α → α → Prop} {S : β → β → Prop} {x x' : Except BuildError α}

theorem bind (h : SameOutcome R x x') {f f' : α → Except BuildError β}
    (hf : ∀ a a', R a a' → SameOutcome S (f a) (f' a')) : SameOutcome S (x >>= f) (x' >>= f') := by
  cases h with
  | ok ha => exact hf _ _ ha
  | error e => exact .error e

theorem map (h : SameOutcome R x x') {f f' : α → β} (hf : ∀ a a', R a a' → S (f a) (f' a')) :
    SameOutcome S (f <$> x) (f' <$> x') := by
  cases h with
  | ok ha => exact .ok (hf _ _ ha)
  | error e => exact .error e

end SameOutcome

/-! ## Builders that are alike -/

namespace Builder

/-- Builders in the same place, whose grammars agree up to slots that are the same. -/
structure Alike (b b' : Builder C) : Prop where
  grammar : b.grammar.AgreesUpTo Slot.Same b'.grammar
  cursor : b.cursor = b'.cursor
  trail : b.trail = b'.trail

/-- Whatever is declared next, both builders answer the same, and grammars that behave alike come of it. -/
def SameFuture (b b' : Builder C) : Prop :=
  ∀ steps : List (BuildStep C),
    (BuildStep.runAll steps b).2 = (BuildStep.runAll steps b').2 ∧
      (BuildStep.runAll steps b).1.grammar.BehavesLike (BuildStep.runAll steps b').1.grammar

/-- Runs that lead to builders that are alike, with the same answer. -/
def Abreast {α : Type} (r r' : Builder C × α) : Prop :=
  r.1.Alike r'.1 ∧ r.2 = r'.2

theorem Abreast.map {α β : Type} {r r' : Builder C × α} (h : Abreast r r') (f : α → β) :
    Abreast (r.map id f) (r'.map id f) :=
  ⟨h.1, congrArg f h.2⟩

theorem Alike.refl (b : Builder C) : b.Alike b :=
  ⟨.refl Slot.equivalence_same.refl _, rfl, rfl⟩

theorem grow_eq (b : Builder C) (slot : Slot) (attach : NodeId → Branches) :
    b.grow slot attach =
      descend { b with grammar := b.grammar.grow b.cursor slot attach } b.grammar.nodes.size := rfl

/-- A parameter that is declared again is there already, and the same. -/
theorem same_of_addSlot {b after : Builder C} {slot : Slot} {child : NodeId}
    (hbranches : b.current.branches = .parameter child) (h : b.addSlot slot = .ok after) :
    (b.grammar.node child).slot.Same slot ∧ after = b.descend child := by
  unfold addSlot at h
  split at h
  next literal _ =>
    -- A keyword does not go beside a parameter.
    have hnode : (b.grammar.node b.cursor).branches = .parameter child := hbranches
    obtain ⟨-, ⟨id, hedge, -⟩ | ⟨hnone, -⟩⟩ := addKeyword_cases h
    · rw [hnode] at hedge
      cases hedge
    · exact absurd hnode (hnone child)
  next =>
    rw [hbranches] at h
    dsimp only at h
    split_ifs at h with hsame
    cases h
    exact ⟨hsame, rfl⟩

namespace Alike

section
variable {b b' : Builder C} (h : b.Alike b')
include h

theorem current : b.current.AgreesUpTo Slot.Same b'.current := by
  rw [Builder.current, Builder.current, h.cursor]
  exact h.grammar.node b'.cursor

theorem site : b.site = b'.site := by
  rw [Builder.site, Builder.site, h.trail]

theorem reset : b.reset.Alike b'.reset := ⟨h.grammar, rfl, rfl⟩

theorem descend (id : NodeId) : (b.descend id).Alike (b'.descend id) where
  grammar := h.grammar
  cursor := rfl
  trail := by rw [Builder.descend, Builder.descend, h.trail, (h.grammar.node id).segment]

theorem modifyCurrent {f : Node C → Node C}
    (hf : ∀ n n' : Node C, n.AgreesUpTo Slot.Same n' → (f n).AgreesUpTo Slot.Same (f n')) :
    (b.modifyCurrent f).Alike (b'.modifyCurrent f) where
  grammar := by
    show (b.grammar.modify b.cursor f).AgreesUpTo Slot.Same (b'.grammar.modify b'.cursor f)
    rw [h.cursor]
    exact h.grammar.modify (hf _ _ (h.grammar.node b'.cursor))
  cursor := h.cursor
  trail := h.trail

theorem grow (slot : Slot) (attach : NodeId → Branches) :
    (b.grow slot attach).Alike (b'.grow slot attach) := by
  have hgrown : Alike { b with grammar := b.grammar.grow b.cursor slot attach }
      { b' with grammar := b'.grammar.grow b'.cursor slot attach } := by
    refine ⟨?_, h.cursor, h.trail⟩
    rw [h.cursor]
    exact h.grammar.grow (Slot.equivalence_same.refl slot) b'.cursor attach
  rw [grow_eq, grow_eq, ← h.grammar.size]
  exact hgrown.descend b.grammar.nodes.size

theorem replaceSlot {id : NodeId} {slot : Slot} (hsame : (b.grammar.node id).slot.Same slot) :
    b.Alike (b'.replaceSlot id slot) where
  grammar := by
    have hnode := h.grammar.node id
    refine h.grammar.modify_right { hnode with slot := hsame, segment := ?_ }
    exact Node.segment_eq_of_matches (Slot.same_iff.1 hsame).2.2
  cursor := h.cursor
  trail := h.trail

end

theorem returnTo {before before' after after' : Builder C} (h : before.Alike before')
    (hafter : after.Alike after') : (before.returnTo after).Alike (before'.returnTo after') :=
  ⟨hafter.grammar, h.cursor, by rw [Builder.returnTo, Builder.returnTo, h.trail, hafter.trail]⟩

/-! ### Steps -/

section
variable {b b' : Builder C} (h : b.Alike b')
include h

theorem addKeyword (literal : String) :
    SameOutcome Alike (b.addKeyword literal) (b'.addKeyword literal) := by
  unfold Builder.addKeyword
  cases checkLiteral literal with
  | error e => exact .error e
  | ok _ =>
    simp only [bind, Except.bind, h.current.branches, h.site]
    cases b'.current.branches with
    | parameter child => exact .error _
    | leaf => exact .ok (h.grow _ _)
    | keywords es =>
      dsimp only
      cases Branches.targetWhere? (· == Text.lower literal) es with
      | some id => exact .ok (h.descend id)
      | none => exact .ok (h.grow _ _)

theorem addSlot (slot : Slot) : SameOutcome Alike (b.addSlot slot) (b'.addSlot slot) := by
  unfold Builder.addSlot
  split
  next literal _ => exact h.addKeyword literal
  next =>
    simp only [h.current.branches, h.current.command, h.site]
    cases b'.current.branches with
    | keywords es => exact .error _
    | parameter child =>
      -- The slots that were kept are the same, so the new one is the same as both or as neither.
      have hslot := (h.grammar.node child).slot
      simp only [hslot.congr slot, (Slot.interchangeable_of_same hslot).name]
      split_ifs
      · exact .ok (h.descend child)
      · exact .error _
    | leaf =>
      dsimp only
      split_ifs
      · exact .error _
      · exact .ok (h.grow _ _)

/-- **Replacing a slot by the same one keeps builders alike.** -/
theorem addSlotReplacing (slot : Slot) :
    SameOutcome Alike (b.addSlot slot) (b'.addSlotReplacing slot) := by
  have houtcome := h.addSlot slot
  unfold Builder.addSlotReplacing
  cases hbranches : b'.current.branches with
  | leaf | keywords => exact houtcome
  | parameter child =>
    have hreused : ∀ after, b.addSlot slot = .ok after →
        (b.grammar.node child).slot.Same slot ∧ after = b.descend child :=
      fun _ => same_of_addSlot (h.current.branches.trans hbranches)
    generalize b.addSlot slot = r at houtcome hreused
    generalize b'.addSlot slot = r' at houtcome
    cases houtcome with
    | error e => exact .error e
    | @ok after _ hafter =>
      obtain ⟨hsame, rfl⟩ := hreused after rfl
      exact .ok (hafter.replaceSlot hsame)

theorem addAlias (name target : String) :
    SameOutcome Alike (b.addAlias name target) (b'.addAlias name target) := by
  unfold Builder.addAlias
  cases checkLiteral name with
  | error e => exact .error e
  | ok _ =>
    simp only [bind, Except.bind, h.current.branches, h.site]
    cases b'.current.branches with
    | leaf | parameter => exact .error _
    | keywords es =>
      dsimp only
      split_ifs
      · exact .error _
      · cases Branches.targetWhere? (· == Text.lower target) es with
        | some id => exact .ok (h.modifyCurrent fun n n' hn => { hn with branches := rfl })
        | none => exact .error _

theorem addPermission (suffix : String) : (b.addPermission suffix).Alike (b'.addPermission suffix) :=
  h.modifyCurrent fun n n' hn => { hn with permissions := by rw [hn.permissions] }

theorem setCommand (c : C) : SameOutcome Alike (b.setCommand c) (b'.setCommand c) := by
  unfold Builder.setCommand
  rw [h.current.command, h.site]
  split_ifs
  · exact .error _
  · exact .ok (h.modifyCurrent fun n n' hn => { hn with command := rfl })

theorem attempt {step step' : Builder C → Except BuildError (Builder C)}
    (hstep : SameOutcome Alike (step b) (step' b')) :
    Abreast (b.attempt step) (b'.attempt step') := by
  unfold Builder.attempt
  generalize step b = r at hstep
  generalize step' b' = r' at hstep
  cases hstep with
  | ok hafter => exact ⟨hafter, rfl⟩
  | error e => exact ⟨h, rfl⟩

theorem startCommand (name : String) : Abreast (b.startCommand name) (b'.startCommand name) := by
  unfold Builder.startCommand
  split_ifs
  · exact ⟨h, rfl⟩
  · exact h.reset.attempt (h.reset.addKeyword name)

end

end Alike

end Builder

/-! ## Runs -/

namespace BuildStep

mutual

/-- **Every step leads from builders that are alike to builders that are alike**, with one answer. -/
theorem abreast_run (step : BuildStep C) {b b' : Builder C} (h : b.Alike b') :
    Builder.Abreast (step.run b) (step.runReplacing b') := by
  cases step with
  | start name =>
    simp only [runReplacing, run]
    exact (h.startCommand name).map _
  | keyword literal =>
    simp only [runReplacing, run]
    exact (h.attempt (h.addKeyword literal)).map _
  | slot s =>
    rw [runReplacing, run]
    exact (h.attempt (h.addSlotReplacing s)).map _
  | synonym name target =>
    simp only [runReplacing, run]
    exact (h.attempt (h.addAlias name target)).map _
  | permission suffix =>
    simp only [runReplacing, run]
    exact ⟨h.addPermission suffix, rfl⟩
  | command c =>
    simp only [runReplacing, run]
    exact (h.attempt (h.setCommand c)).map _
  | scope steps =>
    obtain ⟨hafter, hanswers⟩ := abreast_runUntilFailure steps h
    rw [runReplacing, run]
    exact ⟨h.returnTo hafter, congrArg (fun answers : List BuildAnswer × Option BuildError =>
      BuildAnswer.scope answers.1 answers.2) hanswers⟩

theorem abreast_runUntilFailure (steps : List (BuildStep C)) {b b' : Builder C} (h : b.Alike b') :
    Builder.Abreast (runUntilFailure steps b) (runReplacingUntilFailure steps b') := by
  cases steps with
  | nil => exact ⟨h, rfl⟩
  | cons step steps =>
    obtain ⟨hafter, hanswer⟩ := abreast_run step h
    obtain ⟨hlast, hanswers⟩ := abreast_runUntilFailure steps hafter
    rw [runUntilFailure, runReplacingUntilFailure]
    simp only [hanswer, hanswers]
    cases (step.runReplacing b').2.failure? with
    | some e => exact ⟨hafter, rfl⟩
    | none => exact ⟨hlast, rfl⟩

end

/-- **A whole script leads to builders that are alike.** -/
theorem abreast_runAll (steps : List (BuildStep C)) {b b' : Builder C} (h : b.Alike b') :
    Builder.Abreast (runAll steps b) (runAllReplacing steps b') := by
  induction steps generalizing b b' with
  | nil => exact ⟨h, rfl⟩
  | cons step steps ih =>
    obtain ⟨hafter, hanswer⟩ := abreast_run step h
    obtain ⟨hlast, hanswers⟩ := ih hafter
    exact ⟨hlast, congrArg₂ List.cons hanswer hanswers⟩

end BuildStep

namespace Grammar

theorem sameOutcome_define {b b' : Builder C} (h : b.Alike b') (definition : Definition C) :
    SameOutcome Builder.Alike (define b definition) (defineReplacing b' definition) := by
  have hrun := BuildStep.abreast_runUntilFailure definition h.reset
  unfold define defineReplacing
  generalize BuildStep.runUntilFailure definition b.reset = r at hrun
  generalize BuildStep.runReplacingUntilFailure definition b'.reset = r' at hrun
  obtain ⟨after, answers, failure⟩ := r
  obtain ⟨after', answers', failure'⟩ := r'
  obtain ⟨hafter, hanswers⟩ := hrun
  cases hanswers
  cases failure with
  | some e => exact .error e
  | none => exact .ok hafter

theorem sameOutcome_foldlM_define {b b' : Builder C} (h : b.Alike b')
    (definitions : List (Definition C)) :
    SameOutcome Builder.Alike (definitions.foldlM define b)
      (definitions.foldlM defineReplacing b') := by
  induction definitions generalizing b b' with
  | nil => exact .ok h
  | cons definition definitions ih =>
    rw [List.foldlM_cons, List.foldlM_cons]
    exact (sameOutcome_define h definition).bind fun _ _ => ih

end Grammar

/-- Builders that are alike have grammars that behave alike. -/
theorem Builder.Alike.behavesLike {b b' : Builder C} (h : b.Alike b') :
    b.grammar.BehavesLike b'.grammar :=
  (h.grammar.mono fun _ _ => Slot.interchangeable_of_same).behavesLike

/-- **Builders that are alike have the same future.** Both stay alike to the builder that replaces slots. -/
theorem Builder.Alike.sameFuture {b b' : Builder C} (h : b.Alike b') : b.SameFuture b' := by
  intro steps
  obtain ⟨halike, hanswers⟩ := BuildStep.abreast_runAll steps h
  obtain ⟨halike', hanswers'⟩ := BuildStep.abreast_runAll steps (.refl b')
  exact ⟨hanswers.trans hanswers'.symm, halike.behavesLike.trans halike'.behavesLike.symm⟩

/-- **Reusing a parameter keeps its meaning.** Whatever the registries hold by then, nothing shows that the
slot declared first was kept: neither after one parameter was reused, nor where all are replaced. -/
theorem Grammar.reusing_behavesLike_replacing (C : Type) :
    Equivalence Slot.Same ∧
      (∀ s t : Slot, s.Same t → s.Interchangeable t) ∧
      (∀ (b after : Builder C) (slot : Slot) (child : NodeId),
        b.current.branches = .parameter child → b.addSlot slot = .ok after →
          after = b.descend child ∧ after.SameFuture (after.replaceSlot child slot)) ∧
      (∀ definitions : List (Definition C),
        SameOutcome BehavesLike (build definitions) (buildReplacing definitions)) ∧
      ∀ (steps : List (BuildStep C)) (b : Builder C),
        (BuildStep.runAll steps b).2 = (BuildStep.runAllReplacing steps b).2 ∧
          (BuildStep.runAll steps b).1.grammar.BehavesLike
            (BuildStep.runAllReplacing steps b).1.grammar := by
  refine ⟨Slot.equivalence_same, fun s t => Slot.interchangeable_of_same, ?_, fun definitions => ?_,
    fun steps b => ?_⟩
  · intro b after slot child hbranches hafter
    obtain ⟨hsame, rfl⟩ := Builder.same_of_addSlot hbranches hafter
    exact ⟨rfl, ((Builder.Alike.refl (b.descend child)).replaceSlot hsame).sameFuture⟩
  · exact (sameOutcome_foldlM_define (.refl {}) definitions).map fun _ _ => Builder.Alike.behavesLike
  · obtain ⟨halike, hanswers⟩ := BuildStep.abreast_runAll steps (.refl b)
    exact ⟨hanswers, halike.behavesLike⟩

/-! ## A sample -/

namespace Sample

/-- An optional choice. -/
def choosing (words : List String) : Slot :=
  { name := "scope", optional := true, kind := .choice (.ofList words) }

/-- The cursor is back above the choice. -/
def skipping : Builder String :=
  (BuildStep.runAll [.start "skip", .command "skip", .slot (choosing ["all", "mine"]),
    .command "skip some", .start "Skip"] {}).1

/-- The words of the choice in another order and another case. -/
theorem sameFuture_skipping :
    (choosing ["all", "mine"]).Same (choosing ["Mine", "ALL", "mine"]) ∧
      (choosing ["all", "mine"]).Interchangeable (choosing ["Mine", "ALL", "mine"]) ∧
      skipping.current.branches = .parameter 2 ∧
      ∃ after, skipping.addSlot (choosing ["Mine", "ALL", "mine"]) = .ok after ∧
        after = skipping.descend 2 ∧
        after.SameFuture (after.replaceSlot 2 (choosing ["Mine", "ALL", "mine"])) := by
  obtain ⟨-, hinterchangeable, hreuse, -⟩ := Grammar.reusing_behavesLike_replacing String
  have hsame : (choosing ["all", "mine"]).Same (choosing ["Mine", "ALL", "mine"]) := by
    decide +kernel
  have hbranches : skipping.current.branches = .parameter 2 := by decide +kernel
  have hok : (skipping.addSlot (choosing ["Mine", "ALL", "mine"])).isOk = true := by decide +kernel
  refine ⟨hsame, hinterchangeable _ _ hsame, hbranches, ?_⟩
  cases hafter : skipping.addSlot (choosing ["Mine", "ALL", "mine"]) with
  | ok after => exact ⟨after, rfl, hreuse _ _ _ _ hbranches hafter⟩
  | error e =>
    rw [hafter] at hok
    cases hok

/-- Another choice is refused there. -/
example : (skipping.attempt (·.addSlot (choosing ["all"]))).2 =
    some (.duplicateParameter "skip" "scope" "scope") := by
  decide +kernel

end Sample

end ChatCommands
