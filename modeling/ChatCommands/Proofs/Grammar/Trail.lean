import ChatCommands.Proofs.Grammar.Chain
import ChatCommands.Proofs.Grammar.WellFormed

/-!
# The trail of a builder

A builder holds its position twice: as the cursor, and as the trail of segments down to it, which tells
errors their place. Steps move both alike. A scope, at its end, puts the cursor back to where it was and
cuts the trail to the length it had, and this is the same only if the trail still goes on from there.

* `BuildError.site?`: the place that an error tells.
* `BuildStep.failsAt`: the node on which a step fails.
* `BuildStep.returns`: the scopes of a step end with trails that go on from those they began with.
* `Builder.LeadsHome`: steps in any order, failed ones included, whose scopes do.
* `Builder.Truthful`: the trail is the canonical path of the cursor, and the next error will tell its place.

**Theorem (`truthful_of_leadsHome`).** A builder is truthful as long as all scopes return. A scope that
does not return leaves a false trail.

The scopes of a script return wherever no command is started in them (`leadsHome_runAll`), and always at
the root.
-/

namespace ChatCommands

variable {C : Type}

/-! ## Errors and their places -/

/-- The place that the error tells. A refused name or literal is refused everywhere. -/
def BuildError.site? : BuildError → Option String
  | emptyCommandName => none
  | invalidLiteral _ => none
  | mixedChildren site => some site
  | duplicateParameter site _ _ => some site
  | optionalWithoutFallback site _ => some site
  | commandAlreadySet site => some site
  | aliasTaken _ site => some site
  | aliasTargetMissing _ site => some site

/-- The text is the canonical path of the node, in the form that errors have it. -/
def Grammar.IsSite (g : Grammar C) (id : NodeId) (site : String) : Prop :=
  ∃ p, g.HasPath id p ∧ site = if p.isEmpty then "<root>" else Dotted.join p

theorem Grammar.IsSite.growsInto {g g' : Grammar C} (hg : g.Grown) (hgrow : g.GrowsInto g')
    {id : NodeId} {site : String} (h : g.IsSite id site) : g'.IsSite id site := by
  obtain ⟨p, hp, hsite⟩ := h
  exact ⟨p, (hp.growsInto hg hgrow).2, hsite⟩

namespace BuildStep

mutual

/-- The node on which the step fails, if it does: in a scope, the one on which a step in it failed. -/
def failsAt : BuildStep C → Builder C → NodeId
  | start _, _ => root
  | scope steps, b => failsAtOneOf steps b
  | _, b => b.cursor

def failsAtOneOf : List (BuildStep C) → Builder C → NodeId
  | [], b => b.cursor
  | step :: steps, b =>
    match (step.run b).2.failure? with
    | some _ => step.failsAt b
    | none => failsAtOneOf steps (step.run b).1

end

mutual

/-- Every scope that is run ends with a trail that goes on from the one it began with. -/
def returns : BuildStep C → Builder C → Bool
  | scope steps, b => returnsAll steps b && b.trail.isPrefixOf (runUntilFailure steps b).1.trail
  | _, _ => true

def returnsAll : List (BuildStep C) → Builder C → Bool
  | [], _ => true
  | step :: steps, b =>
    step.returns b && ((step.run b).2.failure?.isSome || returnsAll steps (step.run b).1)

end

end BuildStep

namespace Builder

/-! ## Steps keep to the trail -/

theorem onTrail_start : OnTrail ({} : Builder C) := ⟨sound_start, .root⟩

section
variable {b b' : Builder C} (h : b.OnTrail)
include h

/-- **The trail is right after a scope** exactly if it went on, at the end, from what it had been. -/
theorem OnTrail.returnTo_iff (hb : b.Extends b') :
    (b.returnTo b').OnTrail ↔ b.trail <+: b'.trail := by
  obtain ⟨hgrown, hpath⟩ := h.hasPath.growsInto h.sound.grown hb.2
  rw [List.prefix_iff_eq_take]
  constructor
  · intro hreturned
    exact hgrown.hasPath_unique hpath hreturned.hasPath
  · intro htrail
    refine ⟨(hb.returnTo h.sound).1, ?_⟩
    show b'.grammar.HasPath b.cursor (b'.trail.take b.trail.length)
    rwa [← htrail]

/-- **Every step keeps to the trail** if its scopes return. -/
theorem OnTrail.run {step : BuildStep C} (hreturns : step.returns b = true) :
    (step.run b).1.OnTrail := by
  cases step with
  | start name =>
    rw [BuildStep.run, Prod.map_fst, id_eq]
    rcases h.sound.moves_startCommand name with hsame | hmoves
    · rwa [hsame]
    · exact h.sound.onTrail_reset.moves hmoves
  | scope steps =>
    rw [BuildStep.returns, Bool.and_eq_true] at hreturns
    rw [BuildStep.run]
    exact (h.returnTo_iff (h.sound.extends_runUntilFailure steps)).2
      (List.isPrefixOf_iff_prefix.1 hreturns.2)
  | _ => exact h.moves (h.sound.moves_run (by simp) (by simp))

end

/-! ## Errors tell the trail -/

section
variable {b : Builder C} {e : BuildError} {site : String}

/-- What fails after a literal was checked fails at the check, where no place is told, or later. -/
theorem error_of_checkLiteral {literal : String} {later : Unit → Except BuildError (Builder C)}
    (h : (checkLiteral literal >>= later) = .error e) :
    e.site? = none ∨ later () = .error e := by
  unfold checkLiteral at h
  split_ifs at h
  · exact .inr h
  · cases h
    exact .inl rfl

theorem site_of_addKeyword {literal : String} (h : b.addKeyword literal = .error e)
    (hsite : site ∈ e.site?) : site = b.site := by
  unfold addKeyword at h
  rcases error_of_checkLiteral h with hnone | h
  · rw [hnone] at hsite
    cases hsite
  · dsimp only at h
    split at h
    · cases h
      exact (Option.some.inj hsite).symm
    · cases h
    · split at h <;> cases h

theorem site_of_addSlot {slot : Slot} (h : b.addSlot slot = .error e) (hsite : site ∈ e.site?) :
    site = b.site := by
  unfold addSlot at h
  split at h
  · exact site_of_addKeyword h hsite
  · split at h
    · cases h
      exact (Option.some.inj hsite).symm
    · dsimp only at h
      split_ifs at h
      cases h
      exact (Option.some.inj hsite).symm
    · split_ifs at h
      cases h
      exact (Option.some.inj hsite).symm

theorem site_of_addAlias {name target : String} (h : b.addAlias name target = .error e)
    (hsite : site ∈ e.site?) : site = b.site := by
  unfold addAlias at h
  rcases error_of_checkLiteral h with hnone | h
  · rw [hnone] at hsite
    cases hsite
  · dsimp only at h
    split at h
    · split_ifs at h
      · cases h
        exact (Option.some.inj hsite).symm
      · split at h <;> cases h
        exact (Option.some.inj hsite).symm
    · cases h
      exact (Option.some.inj hsite).symm

theorem site_of_setCommand {c : C} (h : b.setCommand c = .error e) (hsite : site ∈ e.site?) :
    site = b.site := by
  unfold setCommand at h
  split_ifs at h
  cases h
  exact (Option.some.inj hsite).symm

theorem error_of_attempt {step : Builder C → Except BuildError (Builder C)}
    (h : (b.attempt step).2 = some e) : step b = .error e := by
  unfold attempt at h
  cases hs : step b with
  | ok b' =>
    rw [hs] at h
    cases h
  | error e' =>
    rw [hs] at h
    exact congrArg Except.error (Option.some.inj h)

theorem site_of_startCommand {name : String} (h : (b.startCommand name).2 = some e)
    (hsite : site ∈ e.site?) : site = b.reset.site := by
  unfold startCommand at h
  split_ifs at h
  · cases h
    cases hsite
  · exact site_of_addKeyword (error_of_attempt h) hsite

end

/-- What a builder on its trail calls its place is the place of the cursor. -/
theorem OnTrail.isSite {b : Builder C} (h : b.OnTrail) : b.grammar.IsSite b.cursor b.site :=
  ⟨b.trail, h.hasPath, rfl⟩

mutual

/-- **The error of a step tells the place of the node on which it failed.** -/
theorem OnTrail.isSite_of_run {b : Builder C} (h : b.OnTrail) {step : BuildStep C}
    (hreturns : step.returns b = true) {e : BuildError} {site : String}
    (he : (step.run b).2.failure? = some e) (hsite : site ∈ e.site?) :
    (step.run b).1.grammar.IsSite (step.failsAt b) site := by
  have hcursor : (step.run b).1.grammar.IsSite b.cursor b.site :=
    h.isSite.growsInto h.sound.grown (h.sound.extends_run step).2
  cases step with
  | start name =>
    rw [BuildStep.run, Prod.map_snd, failure?_ofFailure] at he
    obtain rfl := site_of_startCommand he hsite
    exact h.sound.onTrail_reset.isSite.growsInto h.sound.grown (h.sound.extends_run _).2
  | keyword literal =>
    rw [BuildStep.run, Prod.map_snd, failure?_ofFailure] at he
    obtain rfl := site_of_addKeyword (error_of_attempt he) hsite
    exact hcursor
  | slot s =>
    rw [BuildStep.run, Prod.map_snd, failure?_ofFailure] at he
    obtain rfl := site_of_addSlot (error_of_attempt he) hsite
    exact hcursor
  | synonym name target =>
    rw [BuildStep.run, Prod.map_snd, failure?_ofFailure] at he
    obtain rfl := site_of_addAlias (error_of_attempt he) hsite
    exact hcursor
  | permission suffix => cases he
  | command c =>
    rw [BuildStep.run, Prod.map_snd, failure?_ofFailure] at he
    obtain rfl := site_of_setCommand (error_of_attempt he) hsite
    exact hcursor
  | scope steps =>
    rw [BuildStep.returns, Bool.and_eq_true] at hreturns
    rw [BuildStep.run] at he ⊢
    rw [BuildStep.failsAt]
    exact h.isSite_of_runUntilFailure hreturns.1 he hsite

theorem OnTrail.isSite_of_runUntilFailure {b : Builder C} (h : b.OnTrail)
    {steps : List (BuildStep C)} (hreturns : BuildStep.returnsAll steps b = true) {e : BuildError}
    {site : String}
    (he : (BuildStep.runUntilFailure steps b).2.2 = some e) (hsite : site ∈ e.site?) :
    (BuildStep.runUntilFailure steps b).1.grammar.IsSite (BuildStep.failsAtOneOf steps b) site := by
  cases steps with
  | nil => cases he
  | cons step steps =>
    rw [BuildStep.returnsAll, Bool.and_eq_true] at hreturns
    rw [BuildStep.runUntilFailure] at he ⊢
    rw [BuildStep.failsAtOneOf]
    dsimp only at he ⊢
    cases hfailure : (step.run b).2.failure? with
    | some e' =>
      rw [hfailure] at he
      obtain rfl := Option.some.inj he
      exact h.isSite_of_run hreturns.1 hfailure hsite
    | none =>
      rw [hfailure] at he hreturns
      exact (h.run hreturns.1).isSite_of_runUntilFailure hreturns.2 he hsite

end

/-! ## Scopes that return -/

/-- The second builder comes from the first by steps as in `LeadsTo`, and every scope ended with a trail
that goes on from the one it began with. -/
inductive LeadsHome : Builder C → Builder C → Prop
  | refl (b : Builder C) : LeadsHome b b
  | reset {b b' : Builder C} (h : LeadsHome b b') : LeadsHome b b'.reset
  | step {b b' : Builder C} (h : LeadsHome b b') (s : BuildStep C)
    (hreturns : s.returns b' = true) : LeadsHome b (s.run b').1
  | scope {b b' b'' : Builder C} (h : LeadsHome b b') (inner : LeadsTo b' b'')
    (hreturns : b'.trail <+: b''.trail) : LeadsHome b (b'.returnTo b'')

/-- The builder knows where it is. -/
structure Truthful (b : Builder C) : Prop where
  /-- The trail is the canonical path of the node under the cursor. -/
  hasPath : b.grammar.HasPath b.cursor b.trail
  /-- An error of the next step tells the node on which the step fails. -/
  isSite (step : BuildStep C) (hreturns : step.returns b = true) (e : BuildError)
    (he : (step.run b).2.failure? = some e) : ∀ site ∈ e.site?,
      (step.run b).1.grammar.IsSite (step.failsAt b) site
  /-- Whatever is done in a scope, the trail is right after it if the scope returns, and wrong if not. -/
  returnTo (b' : Builder C) (inner : LeadsTo b b') :
    (b.returnTo b').grammar.HasPath (b.returnTo b').cursor (b.returnTo b').trail ↔
      b.trail <+: b'.trail

theorem OnTrail.truthful {b : Builder C} (h : b.OnTrail) : b.Truthful where
  hasPath := h.hasPath
  isSite step hreturns e he site hsite := h.isSite_of_run hreturns he hsite
  returnTo b' inner := by
    have hextends := inner.extends h.sound
    rw [← h.returnTo_iff hextends]
    exact ⟨fun hpath => ⟨(hextends.returnTo h.sound).1, hpath⟩, fun hreturned => hreturned.hasPath⟩

theorem LeadsHome.onTrail {b b' : Builder C} (h : LeadsHome b b') (hb : b.OnTrail) :
    b'.OnTrail := by
  induction h with
  | refl => exact hb
  | reset _ ih => exact ih.sound.onTrail_reset
  | step _ s hreturns ih => exact ih.run hreturns
  | scope _ inner hreturns ih => exact (ih.returnTo_iff (inner.extends ih.sound)).2 hreturns

/-- **As long as all scopes return, a builder is truthful.** -/
theorem truthful_of_leadsHome {b : Builder C} (h : LeadsHome {} b) : b.Truthful :=
  (h.onTrail onTrail_start).truthful

end Builder

/-! ## Scripts whose scopes return -/

namespace BuildStep

mutual

/-- No command is started in the step. -/
def startsNone : BuildStep C → Bool
  | start _ => false
  | scope steps => allStartNone steps
  | _ => true

def allStartNone : List (BuildStep C) → Bool
  | [] => true
  | step :: steps => step.startsNone && allStartNone steps

end

/-- Commands are started outside of scopes only. -/
def startsOutside : BuildStep C → Bool
  | scope steps => allStartNone steps
  | _ => true

end BuildStep

/-- A move goes on from the trail. -/
theorem Builder.Moves.isPrefix_trail {b b' : Builder C} (hb : b.Moves b') : b.trail <+: b'.trail := by
  cases hb with
  | descend => exact List.prefix_append _ _
  | grow => exact List.prefix_append _ _
  | fail | edit => exact List.prefix_rfl

namespace BuildStep

mutual

/-- A step that starts no command goes on from the trail, and so does every scope in it. -/
theorem isPrefix_trail_run {b : Builder C} (hb : b.Sound) {step : BuildStep C}
    (h : step.startsNone = true) : step.returns b = true ∧ b.trail <+: (step.run b).1.trail := by
  cases step with
  | start name => cases h
  | scope steps =>
    obtain ⟨hreturns, honward⟩ := isPrefix_trail_runUntilFailure hb h
    refine ⟨Bool.and_eq_true_iff.2 ⟨hreturns, List.isPrefixOf_iff_prefix.2 honward⟩, ?_⟩
    rw [run]
    show b.trail <+: (runUntilFailure steps b).1.trail.take b.trail.length
    exact List.prefix_take_iff.2 ⟨honward, Nat.le_refl _⟩
  | _ => exact ⟨rfl, (hb.moves_run (by simp) (by simp)).isPrefix_trail⟩

theorem isPrefix_trail_runUntilFailure {b : Builder C} (hb : b.Sound) {steps : List (BuildStep C)}
    (h : allStartNone steps = true) :
    returnsAll steps b = true ∧ b.trail <+: (runUntilFailure steps b).1.trail := by
  cases steps with
  | nil => exact ⟨rfl, List.prefix_rfl⟩
  | cons step steps =>
    rw [allStartNone, Bool.and_eq_true] at h
    obtain ⟨hreturns, honward⟩ := isPrefix_trail_run hb h.1
    obtain ⟨hreturnsAll, hlater⟩ := isPrefix_trail_runUntilFailure (hb.extends_run step).1 h.2
    rw [returnsAll, runUntilFailure, hreturns, hreturnsAll, Bool.or_true]
    refine ⟨rfl, ?_⟩
    dsimp only
    split
    · exact honward
    · exact honward.trans hlater

end

theorem returns_of_startsOutside {b : Builder C} (hb : b.Sound) {step : BuildStep C}
    (h : step.startsOutside = true) : step.returns b = true := by
  cases step with
  | scope steps =>
    have hnone : (scope steps).startsNone = true := h
    exact (isPrefix_trail_run hb hnone).1
  | _ => rfl

end BuildStep

/-- **The scopes of a script return** if all commands are started outside of them. -/
theorem Builder.leadsHome_runAll {b b' : Builder C} (hb : b'.Sound) (h : LeadsHome b b')
    {steps : List (BuildStep C)} (hsteps : ∀ step ∈ steps, step.startsOutside = true) :
    LeadsHome b (BuildStep.runAll steps b').1 := by
  induction steps generalizing b' with
  | nil => exact h
  | cons step steps ih =>
    obtain ⟨hstep, hlater⟩ := List.forall_mem_cons.1 hsteps
    exact ih (hb.extends_run step).1 (h.step step (BuildStep.returns_of_startsOutside hb hstep))
      hlater

/-! ## Samples -/

namespace Sample

open Builder

/-- A scope in a scope, and one that goes back to the command it is in and ends with an error. -/
def rounded : Builder String :=
  (BuildStep.runAll [.start "tts",
    .scope [.keyword "add", .scope [.slot { name := "word", kind := .anything }], .command "add"],
    .scope [.start "tts", .keyword "on off"], .keyword "add"] {}).1

theorem truthful_rounded : LeadsHome {} rounded ∧ rounded.Truthful := by
  have hstart : LeadsHome {} (BuildStep.runAll [.start "tts",
      .scope [.keyword "add", .scope [.slot { name := "word", kind := .anything }], .command "add"]]
      ({} : Builder String)).1 :=
    leadsHome_runAll sound_start (.refl {}) (by decide +kernel)
  have hrounded : LeadsHome {} rounded :=
    (hstart.step (.scope [.start "tts", .keyword "on off"]) (by decide +kernel)).step
      (.keyword "add") rfl
  exact ⟨hrounded, truthful_of_leadsHome hrounded⟩

example : rounded.trail = ["tts", "add"] ∧ rounded.site = "tts.add" := by
  decide +kernel

/-- A command that is started in a scope below another one. -/
def strayed : Builder String :=
  (BuildStep.runAll [.start "tts", .scope [.start "voice"]] {}).1

/-- **A false trail.** The next error blames the command that was started in the scope. -/
theorem not_truthful_strayed :
    LeadsTo {} strayed ∧ strayed.grammar.HasPath strayed.cursor ["tts"] ∧
      strayed.trail = ["voice"] ∧
      ((BuildStep.slot { name := "state", optional := true, kind := .toggle }).run
        strayed).2.failure? = some (.optionalWithoutFallback "voice" "state") ∧
      ¬ strayed.grammar.IsSite strayed.cursor "voice" := by
  have hstrayed : LeadsTo {} strayed := (LeadsTo.refl {}).runAll _
  have hchild : strayed.grammar.Child root strayed.cursor := by decide +kernel
  have hpath : strayed.grammar.HasPath strayed.cursor ["tts"] := by
    have hsegment : (strayed.grammar.node strayed.cursor).segment = "tts" := by decide +kernel
    have hbelow := Grammar.HasPath.root.child hchild
    rwa [hsegment] at hbelow
  refine ⟨hstrayed, hpath, by decide +kernel, by decide +kernel, ?_⟩
  rintro ⟨p, hp, hsite⟩
  obtain rfl := (hstrayed.extends sound_start).1.grown.hasPath_unique hp hpath
  revert hsite
  decide

end Sample

end ChatCommands
