import ChatCommands.Proofs.Engine.Effects
import ChatCommands.Proofs.Usage.Counted

/-!
# Chatters do not affect each other

All chatters share the ledgers, and how many of them there are decides when a ledger is pruned. So the
lines of others do change what an engine holds of a chatter. They do not change what becomes of the
chatter's own lines, as long as the commands keep the chatters apart:

* `Behaviour.Impartial`: how a command ends does not depend on what was called before, and no command
  changes the registries that the grammar reads.
* `Engine.LooksAlike`: a chatter cannot tell two engines apart. They have the same setup and the same
  names to accept, and their limits count the same uses of the chatter.

**Theorem (`resultsOf_filter`).** The lines of all other chatters can be left out of a run, and the
chatter's own lines end as before, with the same calls.
-/

namespace ChatCommands

variable {C σ : Type}

/-! ## What a walk depends on -/

namespace Grammar

/-- Some slot of the grammar accepts the names of the registry. -/
def Reads (g : Grammar C) (registry : String) : Prop :=
  ∃ id, (g.node id).slot.kind = .registered registry

variable {g : Grammar C} {accepts accepts' : Slot → String → Bool}

/-- A walk asks the slots of the grammar only. -/
theorem walkFrom_congr
    (h : ∀ id word, accepts (g.node id).slot word = accepts' (g.node id).slot word) (id : NodeId)
    (tokens : List String) : g.walkFrom accepts id tokens = g.walkFrom accepts' id tokens := by
  induction tokens generalizing id with
  | nil => rfl
  | cons token tokens ih => simp only [walkFrom, h, ih]

theorem select_congr
    (h : ∀ id word, accepts (g.node id).slot word = accepts' (g.node id).slot word)
    (tokens : List String) : g.select accepts tokens = g.select accepts' tokens := by
  unfold select walk
  rw [walkFrom_congr h]

/-- What is captured is for slots of the grammar. -/
theorem slot_of_mem_captureFrom {path : String} {segments tokens : List String} {id : NodeId}
    {arguments : List Argument} (h : g.captureFrom path id segments tokens = .ok arguments)
    {a : Argument} (ha : a ∈ arguments) : ∃ id, a.slot = (g.node id).slot := by
  induction segments generalizing id tokens arguments with
  | nil =>
    simp only [captureFrom, Except.ok.injEq] at h
    rw [← h] at ha
    cases ha
  | cons segment segments ih =>
    cases tokens with
    | nil =>
      simp only [captureFrom, Except.ok.injEq] at h
      rw [← h] at ha
      cases ha
    | cons token tokens =>
      cases hbranches : (g.node id).branches with
      | leaf =>
        simp only [captureFrom, hbranches] at h
        cases h
      | keywords es =>
        simp only [captureFrom, hbranches] at h
        split at h
        · exact ih h ha
        · cases h
      | parameter next =>
        simp only [captureFrom, hbranches] at h
        split_ifs at h
        cases hlater : g.captureFrom path next segments tokens with
        | error fault =>
          rw [hlater] at h
          cases h
        | ok later =>
          rw [hlater] at h
          obtain rfl := Except.ok.inj h
          rcases List.mem_cons.1 ha with rfl | ha
          · exact ⟨next, rfl⟩
          · exact ih hlater ha

theorem slot_of_mem_capture {path : String} {tokens : List String} {arguments : List Argument}
    (h : g.capture tokens path = .ok arguments) {a : Argument} (ha : a ∈ arguments) :
    ∃ id, a.slot = (g.node id).slot := by
  unfold capture at h
  dsimp only at h
  split_ifs at h
  · rw [← Except.ok.inj h] at ha
    cases ha
  · exact slot_of_mem_captureFrom h ha

end Grammar

/-- Commands keep chatters apart: whether a call succeeds depends on its arguments and message and not
on the state, and no call changes a registry that the grammar reads. -/
structure Behaviour.Impartial (b : Behaviour C σ) (g : Grammar C) : Prop where
  ending (command : C) (arguments : ArgumentMap) (m : Message) (outboxOpen : Bool) (s s' : σ) :
    (b.run command arguments m outboxOpen s).ending = .success ↔
      (b.run command arguments m outboxOpen s').ending = .success
  registries (command : C) (arguments : ArgumentMap) (m : Message) (outboxOpen : Bool) (s : σ)
    {registry : String} (hreads : g.Reads registry) :
    b.registries (b.run command arguments m outboxOpen s).state registry = b.registries s registry

/-- The outcome of a line and the calls that it made. -/
def Report.result (r : Report C) : Outcome × List (Call C) := (r.outcome, r.calls)

namespace Engine

/-! ## Engines that a chatter cannot tell apart -/

/-- At `now`, the engines have the same setup, accept the same names and count the same uses of the
chatter. Their commands keep chatters apart. -/
structure LooksAlike (chatter : String) (now : Int) (e e' : Engine C σ) : Prop where
  impartial : e.behaviour.Impartial e.grammar
  setup : SameSetup e e'
  registries {registry : String} (hreads : e.grammar.Reads registry) :
    e.behaviour.registries e'.state registry = e.behaviour.registries e.state registry
  ordered : e.policy.usage.accounts.Ordered now
  ordered' : e'.policy.usage.accounts.Ordered now
  alike : Accounts.Alike {chatter} now e.policy.usage.accounts e'.policy.usage.accounts

namespace LooksAlike

variable {chatter : String} {now : Int} {e e' : Engine C σ}

theorem refl (chatter : String) (himpartial : e.behaviour.Impartial e.grammar)
    (h : e.policy.usage.accounts.Ordered now) : LooksAlike chatter now e e :=
  ⟨himpartial, .refl e, fun _ => rfl, h, h, .refl _⟩

theorem later (h : LooksAlike chatter now e e') {now' : Int} (hnow : now ≤ now') :
    LooksAlike chatter now' e e' where
  impartial := h.impartial
  setup := h.setup
  registries := h.registries
  ordered := h.ordered.later hnow
  ordered' := h.ordered'.later hnow
  alike := h.alike.later hnow

/-! ### What they make of a line -/

section
variable (h : LooksAlike chatter now e e')
include h

theorem accepts_eq (m : Message) (id : NodeId) (word : String) :
    e'.accepts m (e.grammar.node id).slot word = e.accepts m (e.grammar.node id).slot word := by
  unfold Engine.accepts Slot.accepts
  rw [h.setup.behaviour]
  split <;> try rfl
  next registry hkind => rw [h.registries ⟨id, hkind⟩]

theorem tokensOf?_eq (line : String) : e'.tokensOf? line = e.tokensOf? line := by
  unfold Engine.tokensOf?
  rw [h.setup.commandPrefix]

theorem select_eq (m : Message) (tokens : List String) : e'.select m tokens = e.select m tokens := by
  unfold Engine.select
  rw [h.setup.grammar]
  exact Grammar.select_congr (h.accepts_eq m) tokens

theorem isOwner_eq : e'.isOwner chatter = e.isOwner chatter := by
  unfold Engine.isOwner
  rw [h.setup.owners]

theorem permits_eq (groups : StringSet) (m : Message) (command : C) (s : Selection C) :
    e'.permits groups m command s = e.permits groups m command s := by
  unfold Engine.permits Engine.verdict
  rw [h.setup.permissions, h.setup.behaviour]

theorem arguments?_eq (m : Message) (tokens : List String) (path : String) :
    e'.arguments? m tokens path = e.arguments? m tokens path := by
  unfold Engine.arguments?
  rw [h.setup.grammar]
  cases hcapture : e.grammar.capture tokens path with
  | error fault => rfl
  | ok arguments =>
    have hall : (arguments.all fun a => e'.accepts m a.slot a.value) =
        arguments.all fun a => e.accepts m a.slot a.value := by
      rw [Bool.eq_iff_iff, List.all_eq_true, List.all_eq_true]
      refine forall₂_congr fun a ha => ?_
      obtain ⟨id, hslot⟩ := Grammar.slot_of_mem_capture hcapture ha
      rw [hslot, h.accepts_eq]
    dsimp only
    rw [hall]

end

theorem withUsage (h : LooksAlike chatter now e e') {usage usage' : UsageTree}
    (hordered : usage.accounts.Ordered now) (hordered' : usage'.accounts.Ordered now)
    (halike : Accounts.Alike {chatter} now usage.accounts usage'.accounts) :
    LooksAlike chatter now (e.withUsage usage) (e'.withUsage usage') where
  impartial := h.impartial
  setup := ⟨h.setup.grammar, h.setup.behaviour, h.setup.commandPrefix, h.setup.owners,
    h.setup.enforceLimits, h.setup.groups, h.setup.permissions, h.setup.groupNames,
    h.setup.outboxOpen⟩
  registries := h.registries
  ordered := hordered
  ordered' := hordered'
  alike := halike

/-! ### A line of the chatter -/

section
variable (h : LooksAlike chatter now e e')
include h

/-- **A charge** ends alike. -/
theorem charge (groups : StringSet) (path : String) :
    (e'.charge chatter groups path now).1 = (e.charge chatter groups path now).1 ∧
      LooksAlike chatter now (e.charge chatter groups path now).2
        (e'.charge chatter groups path now).2 := by
  rcases bound_or_not e chatter with ⟨henforced, howner⟩ | hfree
  · have henforced' : e'.enforceLimits = true := by rwa [h.setup.enforceLimits]
    have howner' : e'.isOwner chatter = false := by rwa [h.isOwner_eq]
    rw [charge_of_bound henforced howner, charge_of_bound henforced' howner']
    obtain ⟨hused, halike⟩ :=
      UsageTree.alike_tryUseGroups h.alike h.ordered h.ordered' rfl groups path
    exact ⟨hused.symm, h.withUsage (UsageTree.ordered_tryUseGroups h.ordered chatter groups path)
      (UsageTree.ordered_tryUseGroups h.ordered' chatter groups path) halike⟩
  · have hfree' : e'.enforceLimits = false ∨ e'.isOwner chatter = true := by
      rwa [h.setup.enforceLimits, h.isOwner_eq]
    rw [charge_of_not_bound hfree, charge_of_not_bound hfree']
    exact ⟨rfl, h⟩

/-- **A call** ends alike, though what it replies and does to the state may differ. -/
theorem invoke (m : Message) (call : Call C) :
    (e'.invoke m call).1.result = (e.invoke m call).1.result ∧
      LooksAlike chatter now (e.invoke m call).2 (e'.invoke m call).2 := by
  refine ⟨?_, h.impartial, ?_, fun {registry} hreads => ?_, h.ordered, h.ordered', h.alike⟩
  · have hending := h.impartial.ending call.command call.arguments m e.outboxOpen e'.state e.state
    simp only [Engine.invoke, Report.result, h.setup.behaviour, h.setup.outboxOpen, hending]
  · exact ((invoke_sameSetup e m call).symm.trans h.setup).trans (invoke_sameSetup e' m call)
  · show e.behaviour.registries (e'.behaviour.run _ _ m _ e'.state).state registry =
      e.behaviour.registries (e.behaviour.run _ _ m _ e.state).state registry
    rw [h.setup.behaviour, h.impartial.registries _ _ _ _ _ hreads,
      h.impartial.registries _ _ _ _ _ hreads, h.registries hreads]

theorem dispatch (m : Message) (tokens : List String) (s : Selection C) (command : C) :
    (e'.dispatch chatter m now tokens s command).1.result =
        (e.dispatch chatter m now tokens s command).1.result ∧
      LooksAlike chatter now (e.dispatch chatter m now tokens s command).2
        (e'.dispatch chatter m now tokens s command).2 := by
  simp only [Engine.dispatch]
  rw [h.setup.groups, h.isOwner_eq, h.permits_eq, h.arguments?_eq]
  split_ifs
  · exact ⟨rfl, h⟩
  · cases e.arguments? m tokens s.path with
    | none => exact ⟨rfl, h⟩
    | some arguments =>
      obtain ⟨hused, hcharged⟩ := h.charge (e.groups.groupsOf chatter) s.path
      generalize e.charge chatter (e.groups.groupsOf chatter) s.path now = result at hused hcharged
      generalize e'.charge chatter (e.groups.groupsOf chatter) s.path now = result' at hused hcharged
      obtain ⟨used, charged⟩ := result
      obtain ⟨used', charged'⟩ := result'
      obtain rfl : used' = used := hused
      cases used' with
      | true => exact hcharged.invoke m ⟨command, Argument.byName arguments⟩
      | false => exact ⟨rfl, hcharged⟩

/-- **A line of the chatter** has the same result. -/
theorem execute (line : String) (m : Message) :
    (e'.execute line chatter m now).1.result = (e.execute line chatter m now).1.result ∧
      LooksAlike chatter now (e.execute line chatter m now).2
        (e'.execute line chatter m now).2 := by
  unfold Engine.execute
  rw [h.tokensOf?_eq]
  split
  · exact ⟨rfl, h⟩
  · exact ⟨rfl, h⟩
  · next tokens _ _ =>
    dsimp only
    rw [h.select_eq]
    cases (e.select m tokens).command with
    | none => exact ⟨rfl, h⟩
    | some command => exact h.dispatch m tokens _ command

end

/-! ### A line of someone else -/

section
variable (h : LooksAlike chatter now e e') {user : String} (huser : user ≠ chatter)
include h

theorem invoke_left (m : Message) (call : Call C) :
    LooksAlike chatter now (e.invoke m call).2 e' where
  impartial := h.impartial
  setup := (invoke_sameSetup e m call).symm.trans h.setup
  registries hreads :=
    (h.registries hreads).trans (h.impartial.registries _ _ _ _ _ hreads).symm
  ordered := h.ordered
  ordered' := h.ordered'
  alike := h.alike

include huser

theorem charge_left (groups : StringSet) (path : String) :
    LooksAlike chatter now (e.charge user groups path now).2 e' := by
  rcases bound_or_not e user with ⟨henforced, howner⟩ | hfree
  · rw [charge_of_bound henforced howner]
    have halike := UsageTree.alike_tryUseGroups_left (K := {chatter}) h.ordered huser groups path
    exact h.withUsage (UsageTree.ordered_tryUseGroups h.ordered user groups path) h.ordered'
      (halike.symm.trans h.alike)
  · rw [charge_of_not_bound hfree]
    exact h

/-- **A line of someone else** cannot be noticed. -/
theorem execute_left (line : String) (m : Message) :
    LooksAlike chatter now (e.execute line user m now).2 e' := by
  have hcourse := e.course_execute line user m now
  generalize e.execute line user m now = result at hcourse
  cases hcourse with
  | rateLimited => exact h.charge_left huser _ _
  | called => exact (h.charge_left huser _ _).invoke_left m _
  | _ => exact h

end

end LooksAlike

/-! ## Runs -/

/-- A line that a chatter writes at some instant. -/
structure Line where
  instant : Int
  text : String
  chatter : String
  message : Message

/-- The results of the lines of one chatter in a run of lines. -/
def resultsOf (e : Engine C σ) (chatter : String) : List Line → List (Outcome × List (Call C))
  | [] => []
  | l :: ls =>
    let (report, e) := e.execute l.text l.chatter l.message l.instant
    if l.chatter = chatter then report.result :: e.resultsOf chatter ls
    else e.resultsOf chatter ls

/-- Engines that look alike to a chatter give the same results, with the lines of all chatters and with
those of the one alone. -/
theorem LooksAlike.resultsOf_eq {chatter : String} {now : Int} {e e' : Engine C σ}
    (h : LooksAlike chatter now e e') {lines : List Line}
    (hsorted : (now :: lines.map Line.instant).Pairwise (· ≤ ·)) :
    e'.resultsOf chatter (lines.filter (·.chatter = chatter)) = e.resultsOf chatter lines := by
  induction lines generalizing e e' now with
  | nil => rfl
  | cons l lines ih =>
    obtain ⟨hlater, hsorted⟩ := List.pairwise_cons.1 hsorted
    have h := h.later (hlater l.instant List.mem_cons_self)
    by_cases hchatter : l.chatter = chatter
    · subst hchatter
      obtain ⟨hresult, hafter⟩ := h.execute l.text l.message
      rw [List.filter_cons_of_pos (by simp)]
      simp only [resultsOf, if_true]
      rw [hresult, ih hafter hsorted]
    · rw [List.filter_cons_of_neg (by simpa using hchatter)]
      simp only [resultsOf, if_neg hchatter]
      exact ih (h.execute_left hchatter l.text l.message) hsorted

theorem run_append (e : Engine C σ) (ops ops' : List (Int × Operation σ)) :
    e.run (ops ++ ops') = (e.run ops).run ops' := by
  induction ops generalizing e with
  | nil => rfl
  | cons op ops ih =>
    obtain ⟨now, op⟩ := op
    exact ih (e.perform now op).2

section
variable (grammar : Grammar C) (behaviour : Behaviour C σ) (state : σ)

/-- What was done in order of time is on record in order of time. -/
theorem ordered_run {ops : List (Int × Operation σ)} {now : Int}
    (hsorted : (ops.map Prod.fst ++ [now]).Pairwise (· ≤ ·)) :
    ((start grammar behaviour state).run ops).policy.usage.accounts.Ordered now := by
  induction ops using List.reverseRecOn generalizing now with
  | nil => exact (UsageTree.keptAt_ordered now).empty
  | append_singleton ops op ih =>
    obtain ⟨now', op⟩ := op
    rw [List.map_append] at hsorted
    obtain ⟨hbefore, -, hlast⟩ := List.pairwise_append.1 hsorted
    have hordered := usage_perform_of (UsageTree.keptAt_ordered now') (ih hbefore) op
    rw [run_append]
    exact Accounts.Ordered.later hordered (hlast now' (by simp) now (by simp))

/-- **Chatters do not affect each other.** Whatever was done to the engine before, the results of a
chatter's lines are the same without the lines of all others, however many these are. -/
theorem resultsOf_filter {before : List (Int × Operation σ)} {lines : List Line}
    (himpartial : behaviour.Impartial grammar)
    (hsorted : (before.map Prod.fst ++ lines.map Line.instant).Pairwise (· ≤ ·))
    (chatter : String) :
    ((start grammar behaviour state).run before).resultsOf chatter
        (lines.filter (·.chatter = chatter)) =
      ((start grammar behaviour state).run before).resultsOf chatter lines := by
  cases lines with
  | nil => rfl
  | cons l lines =>
    -- The clock starts at the first line.
    have hordered := ordered_run grammar behaviour state (hsorted.sublist
      ((List.Sublist.refl _).append (List.singleton_sublist.2 List.mem_cons_self)))
    have halike := LooksAlike.refl chatter
      (by rwa [behaviour_run, grammar_run]) hordered
    have hlines := (List.pairwise_append.1 hsorted).2.1
    refine halike.resultsOf_eq (List.pairwise_cons.2 ⟨fun s hs => ?_, hlines⟩)
    rcases List.mem_cons.1 hs with rfl | hs
    · exact Int.le_refl _
    · exact (List.pairwise_cons.1 hlines).1 s hs

end

end Engine

/-! ## A sample -/

namespace ScriptedCommand

/-- What a scripted command does has nothing to do with the state. -/
theorem perform_eq (c : ScriptedCommand) (m : Message) (outboxOpen : Bool) (s s' : σ) :
    c.perform m outboxOpen s = { c.perform m outboxOpen s' with state := s } := by
  unfold perform
  split
  · rfl
  · rfl
  · rfl
  · split <;> rfl

theorem impartial (registries : σ → Registries) (g : Grammar ScriptedCommand) :
    (behaviour registries).Impartial g where
  ending c _ m outboxOpen s s' := by
    show (c.perform m outboxOpen s).ending = _ ↔ (c.perform m outboxOpen s').ending = _
    rw [c.perform_eq m outboxOpen s s']
  registries c _ m outboxOpen s registry _ := by
    show registries (c.perform m outboxOpen s).state registry = registries s registry
    rw [c.perform_eq m outboxOpen s s]

end ScriptedCommand

namespace Sample

open Engine

/-- One use a second for a command. -/
def hourglass : List (Int × Operation Unit) :=
  [(0, .enforceLimits true), (0, .setLimit "everyone.tts" ⟨1, 1000⟩)]

/-- Among the lines of a chatter, so many others come that the ledger is pruned. -/
def crowded : List Line :=
  ⟨1, "!tts now", "7", message⟩ ::
    (List.range 70).map (fun i => ⟨i + 2, "!tts now", String.ofList (List.replicate i 'k'), message⟩) ++
    [⟨1000, "!tts later", "7", message⟩, ⟨1001, "!tts", "7", message⟩]

theorem resultsOf_crowded :
    scripted.Impartial builder.grammar ∧
      (hourglass.map Prod.fst ++ crowded.map Line.instant).Pairwise (· ≤ ·) ∧
      ((start builder.grammar scripted ()).run hourglass).resultsOf "7"
          (crowded.filter (·.chatter = "7")) =
        ((start builder.grammar scripted ()).run hourglass).resultsOf "7" crowded := by
  have himpartial : scripted.Impartial builder.grammar := ScriptedCommand.impartial _ _
  have hsorted : (hourglass.map Prod.fst ++ crowded.map Line.instant).Pairwise (· ≤ ·) := by
    decide +kernel
  exact ⟨himpartial, hsorted, resultsOf_filter builder.grammar scripted () himpartial hsorted "7"⟩

-- The second line comes a millisecond too early.
example :
    (((start builder.grammar scripted ()).run hourglass).resultsOf "7"
      (crowded.filter (·.chatter = "7"))).map Prod.fst = [.success, .rateLimited, .success] := by
  decide +kernel

end Sample

end ChatCommands
