import ChatCommands.Proofs.Grammar.Places

/-!
# Chains of keywords

A command is most often declared by a chain of keywords, the first of which starts it. Where such a
chain is accepted, the cursor stands on the node that the chain leads to, and the trail is the node's
canonical path.

* `OnTrail`: the trail is the canonical path of the cursor.
* `onTrail_of_chain`: chains of keywords lead to such states.
* `segments_select_of_entered`: a walk that ends on a node selects the canonical path of the node.
-/

namespace ChatCommands

variable {C : Type}

/-- The steps that declare a chain of keywords from the root. -/
def BuildStep.chain (l : String) (ls : List String) : List (BuildStep C) :=
  .start l :: ls.map .keyword

namespace Builder

/-- The trail is the canonical path of the node under the cursor. -/
structure OnTrail (b : Builder C) : Prop where
  sound : b.Sound
  hasPath : b.grammar.HasPath b.cursor b.trail

theorem Sound.onTrail_reset {b : Builder C} (h : b.Sound) : b.reset.OnTrail :=
  ⟨h.reset, .root⟩

/-- **Moves keep to the trail**: the segment of the child that the cursor goes to is added to it. -/
theorem OnTrail.moves {b b' : Builder C} (h : b.OnTrail) (hb : b.Moves b') : b'.OnTrail := by
  refine ⟨(hb.extends h.sound).1, ?_⟩
  cases hb with
  | fail => exact h.hasPath
  | descend hid => exact h.hasPath.child hid
  | @grow slot attach hattach hedit =>
    have hchild : (b.grammar.grow b.cursor slot attach).Child b.cursor b.grammar.nodes.size := by
      have hlt := h.sound.cursor_lt
      rw [Grammar.Child, Grammar.node_grow hlt, if_neg (Nat.ne_of_lt hlt), if_pos rfl]
      exact hattach _
    exact (h.hasPath.edit h.sound.grown hedit).child hchild
  | edit hedit => exact h.hasPath.edit h.sound.grown hedit

theorem OnTrail.addKeyword {b b' : Builder C} (h : b.OnTrail) {literal : String}
    (hb : b.addKeyword literal = .ok b') : b'.OnTrail ∧ isLiteral literal = true :=
  ⟨h.moves (h.sound.moves_addKeyword hb), (addKeyword_cases hb).1⟩

/-- An attempt that did not fail went through. -/
theorem eq_ok_of_attempt {b : Builder C} {step : Builder C → Except BuildError (Builder C)}
    (h : (b.attempt step).2 = none) : step b = .ok (b.attempt step).1 := by
  unfold attempt at h ⊢
  cases hstep : step b with
  | ok b' => rfl
  | error e =>
    rw [hstep] at h
    cases h

theorem failure?_ofFailure (failure : Option BuildError) :
    (BuildAnswer.ofFailure failure).failure? = failure := by
  cases failure <;> rfl

/-- A step that answers with no failure went through. -/
theorem eq_ok_of_answer {b : Builder C} {step : Builder C → Except BuildError (Builder C)}
    (h : ((b.attempt step).map id BuildAnswer.ofFailure).2.failure? = none) :
    step b = .ok ((b.attempt step).map id BuildAnswer.ofFailure).1 := by
  rw [Prod.map_snd, failure?_ofFailure] at h
  exact eq_ok_of_attempt h

/-- Steps that all went through went through one after the other. -/
theorem runUntilFailure_cons_eq {b b' : Builder C} {step : BuildStep C} {steps : List (BuildStep C)}
    {answers : List BuildAnswer}
    (h : BuildStep.runUntilFailure (step :: steps) b = (b', answers, none)) :
    (step.run b).2.failure? = none ∧
      ∃ answers', BuildStep.runUntilFailure steps (step.run b).1 = (b', answers', none) := by
  rw [BuildStep.runUntilFailure] at h
  dsimp only at h
  cases hfailure : (step.run b).2.failure? with
  | some e =>
    rw [hfailure] at h
    cases h
  | none =>
    rw [hfailure] at h
    obtain ⟨rfl, hrest⟩ := Prod.mk.inj h
    obtain ⟨-, hnone⟩ := Prod.mk.inj hrest
    exact ⟨rfl, _, by rw [← hnone]⟩

theorem OnTrail.keywords {b b' : Builder C} (h : b.OnTrail) {ls : List String}
    {answers : List BuildAnswer}
    (hrun : BuildStep.runUntilFailure (ls.map .keyword) b = (b', answers, none)) :
    b'.OnTrail ∧ ∀ l ∈ ls, isLiteral l = true := by
  induction ls generalizing b answers with
  | nil =>
    cases hrun
    exact ⟨h, fun l hl => nomatch hl⟩
  | cons l ls ih =>
    obtain ⟨hfailure, answers', hrest⟩ := runUntilFailure_cons_eq hrun
    rw [BuildStep.run] at hfailure hrest
    obtain ⟨hnext, hliteral⟩ := h.addKeyword (eq_ok_of_answer hfailure)
    obtain ⟨hlast, hliterals⟩ := ih hnext hrest
    exact ⟨hlast, List.forall_mem_cons.2 ⟨hliteral, hliterals⟩⟩

/-- **A chain of keywords that is accepted leads to a node that the trail describes.** -/
theorem Sound.onTrail_of_chain {b b' : Builder C} (h : b.Sound) {l : String} {ls : List String}
    {answers : List BuildAnswer}
    (hrun : BuildStep.runUntilFailure (BuildStep.chain l ls) b = (b', answers, none)) :
    b'.OnTrail ∧ ∀ p ∈ l :: ls, isLiteral p = true := by
  obtain ⟨hfailure, answers', hrest⟩ := runUntilFailure_cons_eq hrun
  rw [BuildStep.run, Prod.map_snd, failure?_ofFailure] at hfailure
  rw [BuildStep.run, Prod.map_fst, id_eq] at hrest
  unfold startCommand at hfailure hrest
  split_ifs at hfailure with hempty
  rw [if_neg hempty] at hrest
  obtain ⟨hnext, hliteral⟩ := h.onTrail_reset.addKeyword (eq_ok_of_attempt hfailure)
  obtain ⟨hlast, hliterals⟩ := hnext.keywords hrest
  exact ⟨hlast, List.forall_mem_cons.2 ⟨hliteral, hliterals⟩⟩

end Builder

namespace Grammar

/-- **A walk that ends on a node selects the canonical path of the node.** -/
theorem segments_select_of_entered {g : Grammar C} (hg : g.Grown) {accepts : Slot → String → Bool}
    {tokens : List String} {id : NodeId} {p : List String} (hp : g.HasPath id p)
    (hlast : (g.walk accepts tokens).entered.getLast? = some id)
    (hstuck : (g.walk accepts tokens).stuck = false) : (g.select accepts tokens).segments = p := by
  obtain ⟨before, hentered⟩ := List.getLast?_eq_some_iff.1 hlast
  have hpath := g.hasPath_of_walk accepts tokens hentered
  show g.segmentsOf (g.walk accepts tokens) = p
  rw [segmentsOf, hstuck, hentered, if_neg Bool.false_ne_true, List.append_nil]
  exact hg.hasPath_unique hpath hp

end Grammar

end ChatCommands
