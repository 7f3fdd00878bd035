import ChatCommands.Proofs.Grammar.Chain

/-!
# Scripts without their failures

A script goes on after a step that failed, so that whatever a failed step left behind would be met by all
steps after it. A step that fails leaves nothing behind, and a scope that fails leaves what the steps before
the failure did. Only a command that fails to start may leave the cursor on the root.

* `BuildStep.failed?`: the innermost step that failed.
* `BuildStep.keptAll`: the steps of a script without those that failed, each beside its answer. Of a scope
  that failed, the scope of what is kept of the steps in it is kept.
* `Builder.FailsCleanly`: what is kept of a script builds the same, with the same answers.

**Theorem (`failsCleanly`).** Every builder fails cleanly.

A scope in which a command failed to start is kept as it is: the start emptied the trail, and errors after
the scope would tell another place without it.
-/

namespace ChatCommands

variable {C : Type}

/-- The answers of the inner steps that ran. -/
def BuildAnswer.inner : BuildAnswer → List BuildAnswer
  | scope inner _ => inner
  | _ => []

namespace BuildStep

/-! ## What is kept of a script -/

/-- The step starts a command. -/
def isStart : BuildStep C → Bool
  | start _ => true
  | _ => false

mutual

/-- The innermost step that failed, by the answer of the step. -/
def failed? : BuildStep C → BuildAnswer → Option (BuildStep C)
  | scope steps, answer => failedAmong? steps answer.inner
  | step, answer => if answer.failure?.isSome then some step else none

def failedAmong? : List (BuildStep C) → List BuildAnswer → Option (BuildStep C)
  | step :: steps, answer :: answers =>
    if answer.failure?.isSome then failed? step answer else failedAmong? steps answers
  | _, _ => none

end

/-- By its answer, the step failed because a command failed to start. -/
def failsByStart (step : BuildStep C) (answer : BuildAnswer) : Bool :=
  (step.failed? answer).any isStart

mutual

/-- What is kept of a step, beside the answer that it then gives. A step that failed is dropped, and of a
scope that failed the scope of what is kept of its steps remains. What failed because a command failed to
start is kept as it is. -/
def kept : BuildStep C → BuildAnswer → List (BuildStep C × BuildAnswer)
  | scope steps, answer =>
    if answer.failure?.isNone || failsByStart (scope steps) answer then [(scope steps, answer)]
    else
      let inner := keptAll steps answer.inner
      [(scope (inner.map Prod.fst), .scope (inner.map Prod.snd) none)]
  | step, answer =>
    if answer.failure?.isNone || failsByStart step answer then [(step, answer)] else []

/-- What is kept of steps. Those that did not run have no answer and are not kept. -/
def keptAll : List (BuildStep C) → List BuildAnswer → List (BuildStep C × BuildAnswer)
  | step :: steps, answer :: answers => kept step answer ++ keptAll steps answers
  | _, _ => []

end

end BuildStep

/-- Failures leave nothing behind. -/
structure Builder.FailsCleanly (b : Builder C) : Prop where
  /-- What is kept of a script leads to the same builder, with the same answers. -/
  runAll_keptAll (steps : List (BuildStep C)) :
    BuildStep.runAll ((BuildStep.keptAll steps (BuildStep.runAll steps b).2).map Prod.fst) b =
      ((BuildStep.runAll steps b).1,
        (BuildStep.keptAll steps (BuildStep.runAll steps b).2).map Prod.snd)
  /-- No failures are kept, except where a command failed to start. -/
  failure (steps : List (BuildStep C)) :
    ∀ p ∈ BuildStep.keptAll steps (BuildStep.runAll steps b).2,
      p.2.failure? = none ∨ p.1.failsByStart p.2 = true
  /-- After a scope, failed or not, the cursor is where it was before. -/
  cursor_scope (steps : List (BuildStep C)) : ((BuildStep.scope steps).run b).1.cursor = b.cursor
  /-- A command that fails to start changes no node, and moves the cursor to the root if at all. -/
  start (name : String) : ((BuildStep.start name).run b).2.failure? ≠ none →
    ((BuildStep.start name).run b).1.grammar = b.grammar ∧
      (((BuildStep.start name).run b).1.cursor = b.cursor ∨
        ((BuildStep.start name).run b).1.cursor = root)

/-! ## One step that fails -/

namespace Builder

theorem fst_attempt_of_failed {b : Builder C} {step : Builder C → Except BuildError (Builder C)}
    (h : (b.attempt step).2 ≠ none) : (b.attempt step).1 = b := by
  unfold attempt at h ⊢
  cases hstep : step b with
  | ok b' =>
    rw [hstep] at h
    exact absurd rfl h
  | error e => rfl

/-- A command that fails to start fails from where the cursor is, or from the root. -/
theorem fst_startCommand_of_failed {b : Builder C} {name : String}
    (h : (b.startCommand name).2 ≠ none) :
    (b.startCommand name).1 = b ∨ (b.startCommand name).1 = b.reset := by
  unfold startCommand at h ⊢
  by_cases hblank : Text.trim name = ""
  · rw [if_pos hblank]
    exact .inl rfl
  · rw [if_neg hblank] at h ⊢
    exact .inr (fst_attempt_of_failed h)

end Builder

namespace BuildStep

/-- **A step that fails leaves the builder as it was**, unless it starts a command or is a scope. -/
theorem fst_run_of_failed {step : BuildStep C} {b : Builder C} (hstart : step.isStart = false)
    (hscope : ∀ steps, step ≠ .scope steps) (h : (step.run b).2.failure? ≠ none) :
    (step.run b).1 = b := by
  cases step with
  | start name => cases hstart
  | permission suffix => exact absurd rfl h
  | scope steps => exact absurd rfl (hscope steps)
  | keyword | slot | synonym | command =>
    rw [run, Prod.map_snd, Builder.failure?_ofFailure] at h
    rw [run, Prod.map_fst, id_eq]
    exact Builder.fst_attempt_of_failed h

/-! ## Runs -/

section
variable {step : BuildStep C} {b : Builder C}

theorem runUntilFailure_cons_of_failed {e : BuildError} (h : (step.run b).2.failure? = some e)
    (steps : List (BuildStep C)) :
    runUntilFailure (step :: steps) b = ((step.run b).1, [(step.run b).2], some e) := by
  rw [runUntilFailure]
  simp only [h]

theorem runUntilFailure_cons_of_ok (h : (step.run b).2.failure? = none)
    (steps : List (BuildStep C)) :
    runUntilFailure (step :: steps) b =
      ((runUntilFailure steps (step.run b).1).1,
        (step.run b).2 :: (runUntilFailure steps (step.run b).1).2.1,
        (runUntilFailure steps (step.run b).1).2.2) := by
  rw [runUntilFailure]
  simp only [h]

end

/-- Where no step fails it makes no difference whether a failure would end the run. -/
theorem runAll_of_runUntilFailure {steps : List (BuildStep C)} {b b' : Builder C}
    {answers : List BuildAnswer} (h : runUntilFailure steps b = (b', answers, none)) :
    runAll steps b = (b', answers) := by
  induction steps generalizing b answers with
  | nil =>
    cases h
    rfl
  | cons step steps ih =>
    cases hfailure : (step.run b).2.failure? with
    | some e =>
      rw [runUntilFailure_cons_of_failed hfailure] at h
      cases h
    | none =>
      rw [runUntilFailure_cons_of_ok hfailure] at h
      obtain ⟨hb, hrest⟩ := Prod.mk.inj h
      obtain ⟨hanswers, hnone⟩ := Prod.mk.inj hrest
      have htail := ih (b := (step.run b).1) (Prod.ext hb (Prod.ext rfl hnone))
      rw [runAll]
      simp only [htail, hanswers]

theorem runAll_append (steps steps' : List (BuildStep C)) (b : Builder C) :
    runAll (steps ++ steps') b =
      ((runAll steps' (runAll steps b).1).1,
        (runAll steps b).2 ++ (runAll steps' (runAll steps b).1).2) := by
  induction steps generalizing b with
  | nil => rfl
  | cons step steps ih => simp only [List.cons_append, runAll, ih]

/-! ## What is kept does what was done -/

theorem kept_of_ok {answer : BuildAnswer} (h : answer.failure? = none) (step : BuildStep C) :
    kept step answer = [(step, answer)] := by
  cases step <;> simp [kept, h]

theorem kept_of_failsByStart {step : BuildStep C} {answer : BuildAnswer}
    (h : step.failsByStart answer = true) : kept step answer = [(step, answer)] := by
  cases step <;> simp [kept, h]

/-- Of a step that failed nothing is kept, unless it starts a command or is a scope. -/
theorem kept_of_failed {step : BuildStep C} {answer : BuildAnswer} (hstart : step.isStart = false)
    (hscope : ∀ steps, step ≠ .scope steps) (h : answer.failure? ≠ none) : kept step answer = [] := by
  cases step with
  | start name => cases hstart
  | scope steps => exact absurd rfl (hscope steps)
  | keyword | slot | synonym | permission | command =>
    have hsome := Option.isSome_iff_ne_none.2 h
    simp [kept, failsByStart, failed?, isStart, h, hsome]

theorem kept_scope_of_failed {steps : List (BuildStep C)} {answer : BuildAnswer}
    (hstart : (scope steps).failsByStart answer = false) (h : answer.failure? ≠ none) :
    kept (scope steps) answer =
      [(scope ((keptAll steps answer.inner).map Prod.fst),
        .scope ((keptAll steps answer.inner).map Prod.snd) none)] := by
  simp [kept, hstart, h]

theorem keptAll_nil (steps : List (BuildStep C)) : keptAll steps [] = [] := by
  cases steps <;> rfl

mutual

/-- **What is kept of a step goes through and does what the step did**, unless a command failed to
start. -/
theorem runUntilFailure_kept (step : BuildStep C) (b : Builder C)
    (h : step.failsByStart (step.run b).2 = false) :
    runUntilFailure ((kept step (step.run b).2).map Prod.fst) b =
      ((step.run b).1, (kept step (step.run b).2).map Prod.snd, none) := by
  cases hfailure : (step.run b).2.failure? with
  | none =>
    rw [kept_of_ok hfailure]
    exact runUntilFailure_cons_of_ok hfailure []
  | some e =>
    have hfailed : (step.run b).2.failure? ≠ none := by simp [hfailure]
    cases step with
    | start name => simp [failsByStart, failed?, isStart, hfailure] at h
    | scope steps =>
      rw [run] at hfailed h ⊢
      rw [kept_scope_of_failed h hfailed]
      -- The steps that are kept go through, and the scope goes back from where they end.
      have hsteps := runUntilFailure_keptAll steps b h
      rw [List.map_singleton, runUntilFailure, run]
      simp only [BuildAnswer.inner, hsteps]
      rfl
    | keyword | slot | synonym | permission | command =>
      rw [kept_of_failed rfl (by simp) hfailed, fst_run_of_failed rfl (by simp) hfailed]
      rfl

theorem runUntilFailure_keptAll (steps : List (BuildStep C)) (b : Builder C)
    (h : (failedAmong? steps (runUntilFailure steps b).2.1).any isStart = false) :
    runUntilFailure ((keptAll steps (runUntilFailure steps b).2.1).map Prod.fst) b =
      ((runUntilFailure steps b).1, (keptAll steps (runUntilFailure steps b).2.1).map Prod.snd,
        none) := by
  cases steps with
  | nil => rfl
  | cons step steps =>
    cases hfailure : (step.run b).2.failure? with
    | some e =>
      rw [runUntilFailure_cons_of_failed hfailure] at h ⊢
      simp only [failedAmong?, hfailure, Option.isSome_some, if_true] at h
      -- No step ran after the one that failed.
      simp only [keptAll, keptAll_nil, List.append_nil]
      exact runUntilFailure_kept step b h
    | none =>
      rw [runUntilFailure_cons_of_ok hfailure] at h ⊢
      simp only [failedAmong?, hfailure, Option.isSome_none, Bool.false_eq_true, if_false] at h
      have hsteps := runUntilFailure_keptAll steps (step.run b).1 h
      simp only [keptAll, kept_of_ok hfailure, List.cons_append, List.nil_append, List.map_cons]
      rw [runUntilFailure_cons_of_ok hfailure, hsteps]

end

theorem runAll_kept (step : BuildStep C) (b : Builder C) :
    runAll ((kept step (step.run b).2).map Prod.fst) b =
      ((step.run b).1, (kept step (step.run b).2).map Prod.snd) := by
  by_cases hstart : step.failsByStart (step.run b).2 = true
  · rw [kept_of_failsByStart hstart]
    rfl
  · exact runAll_of_runUntilFailure (runUntilFailure_kept step b (Bool.eq_false_iff.2 hstart))

/-- **What is kept of a script does what the script did.** -/
theorem runAll_keptAll (steps : List (BuildStep C)) (b : Builder C) :
    runAll ((keptAll steps (runAll steps b).2).map Prod.fst) b =
      ((runAll steps b).1, (keptAll steps (runAll steps b).2).map Prod.snd) := by
  induction steps generalizing b with
  | nil => rfl
  | cons step steps ih =>
    simp only [runAll, keptAll, List.map_append]
    rw [runAll_append, runAll_kept, ih]

theorem failure_of_mem_kept {step : BuildStep C} {answer : BuildAnswer}
    {p : BuildStep C × BuildAnswer} (hp : p ∈ kept step answer) :
    p.2.failure? = none ∨ p.1.failsByStart p.2 = true := by
  by_cases hstart : step.failsByStart answer = true
  · rw [kept_of_failsByStart hstart, List.mem_singleton] at hp
    subst hp
    exact .inr hstart
  · by_cases hok : answer.failure? = none
    · rw [kept_of_ok hok, List.mem_singleton] at hp
      subst hp
      exact .inl hok
    · cases step with
      | scope steps =>
        rw [kept_scope_of_failed (Bool.eq_false_iff.2 hstart) hok, List.mem_singleton] at hp
        subst hp
        exact .inl rfl
      | start | keyword | slot | synonym | permission | command => simp [kept, hstart, hok] at hp

theorem failure_of_mem_keptAll {steps : List (BuildStep C)} {answers : List BuildAnswer}
    {p : BuildStep C × BuildAnswer} (hp : p ∈ keptAll steps answers) :
    p.2.failure? = none ∨ p.1.failsByStart p.2 = true := by
  induction steps generalizing answers with
  | nil => cases hp
  | cons step steps ih =>
    cases answers with
    | nil => cases hp
    | cons answer answers =>
      rw [keptAll] at hp
      rcases List.mem_append.1 hp with hp | hp
      · exact failure_of_mem_kept hp
      · exact ih hp

end BuildStep

/-- **Whatever a builder holds, it fails cleanly.** -/
theorem Builder.failsCleanly (b : Builder C) : b.FailsCleanly where
  runAll_keptAll steps := BuildStep.runAll_keptAll steps b
  failure steps p hp := BuildStep.failure_of_mem_keptAll hp
  cursor_scope steps := by
    rw [BuildStep.run]
    rfl
  start name hfailed := by
    rw [BuildStep.run, Prod.map_snd, failure?_ofFailure] at hfailed
    rw [BuildStep.run, Prod.map_fst, id_eq]
    rcases fst_startCommand_of_failed hfailed with hsame | hreset
    · rw [hsame]
      exact ⟨rfl, .inl rfl⟩
    · rw [hreset]
      exact ⟨rfl, .inr rfl⟩

namespace Sample

/-- A keyword that is refused, and a scope that ends because a scope in it does. -/
def stumbling : List (BuildStep String) :=
  [.start "tts", .keyword "on off",
    .scope [.keyword "add", .scope [.keyword "now", .keyword "a.b"], .command "add"], .command "tts"]

/-- The keyword is dropped, and what is kept of the scope goes through. -/
example : (BuildStep.keptAll stumbling (BuildStep.runAll stumbling {}).2).map
    (fun p => (p.1.isStart, p.2.failure?)) = [(true, none), (false, none), (false, none)] := by
  decide +kernel

/-- A scope in which a command failed to start cannot be left out: it leaves another trail. -/
example : (BuildStep.runAll [.start "tts", .scope [.start "on off"]] ({} : Builder String)).1.trail = [] ∧
    (BuildStep.runAll [.start "tts"] ({} : Builder String)).1.trail = ["tts"] := by
  decide +kernel

end Sample

end ChatCommands
