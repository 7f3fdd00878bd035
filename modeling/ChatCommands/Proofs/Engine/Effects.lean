import ChatCommands.Proofs.Engine.Authorization
import ChatCommands.Proofs.Engine.History
import ChatCommands.Proofs.Usage.Recording

/-!
# The effects of a line

What a line does besides settling its outcome: it may call a command, send replies, change the state of
the commands and have a use recorded.

**Theorem (`effects_execute`).** These effects match the outcome (`Effects`). A command is called where
the outcome says so, it is the selected one, and one run of it accounts for everything that is sent and
changed. A call of a chatter whom limits bind is recorded as one use, below one of the chatter's groups.
Nothing is recorded where the outcome was settled before the limits were asked, nor where they refused.

The groups are those that the history of the engine left the chatter in.
-/

namespace ChatCommands

variable {C σ : Type}

/-! ## The usage trees of engines -/

namespace UsageTree.KeptAt

variable {now : Int} {P : UsageTree → Prop} (hP : KeptAt now P) {store : PolicyStore}
  (h : P store.usage)
include hP h

theorem applyUpdate? {store' : PolicyStore} {entry : UsageEntry}
    (heq : store.applyUpdate? entry = some store') : P store'.usage := by
  simp only [PolicyStore.applyUpdate?, bind, Option.bind_eq_some_iff, pure,
    Option.some.injEq] at heq
  obtain ⟨path, -, usage, husage, rfl⟩ := heq
  exact hP.set? h husage

theorem apply (event : PolicyEvent) : P (store.apply event).usage := by
  cases event with
  | fullSnapshot s => exact hP.ofLimits s.limits
  | singlePolicyUpdate entry =>
    rw [PolicyStore.apply]
    cases heq : store.applyUpdate? entry with
    | none => exact h
    | some store' => exact hP.applyUpdate? h heq

theorem foldl_apply (events : List PolicyEvent) :
    P (events.foldl PolicyStore.apply store).usage := by
  induction events generalizing store with
  | nil => exact h
  | cons event events ih => exact ih (hP.apply h event)

end UsageTree.KeptAt

namespace Engine

section
variable {e : Engine C σ} {chatter : String}

/-- Owners are not charged, and no one is where limits are not enforced. -/
theorem charge_of_not_bound (h : e.enforceLimits = false ∨ e.isOwner chatter = true)
    (groups : StringSet) (path : String) (now : Int) :
    e.charge chatter groups path now = (true, e) := by
  have hfree : (e.enforceLimits && !e.isOwner chatter) = false := by
    rcases h with h | h
    · rw [h, Bool.false_and]
    · rw [h, Bool.not_true, Bool.and_false]
  rw [charge, hfree, if_neg Bool.false_ne_true]

theorem charge_of_bound (henforced : e.enforceLimits = true) (howner : e.isOwner chatter = false)
    (groups : StringSet) (path : String) (now : Int) :
    e.charge chatter groups path now =
      ((e.policy.usage.tryUseGroups chatter groups path now).1,
        e.withUsage (e.policy.usage.tryUseGroups chatter groups path now).2) := by
  have hbound : (e.enforceLimits && !e.isOwner chatter) = true := by
    rw [henforced, howner]
    rfl
  rw [charge, if_pos hbound]
  rfl

/-- Limits bind a chatter or they do not. -/
theorem bound_or_not (e : Engine C σ) (chatter : String) :
    (e.enforceLimits = true ∧ e.isOwner chatter = false) ∨
      (e.enforceLimits = false ∨ e.isOwner chatter = true) := by
  cases e.enforceLimits <;> cases e.isOwner chatter <;> simp

end

section
variable {now : Int} {P : UsageTree → Prop} (hP : UsageTree.KeptAt now P) {e : Engine C σ}
  (h : P e.policy.usage)
include hP h

theorem usage_charge_of (chatter : String) (groups : StringSet) (path : String) :
    P (e.charge chatter groups path now).2.policy.usage := by
  rcases bound_or_not e chatter with ⟨henforced, howner⟩ | hfree
  · rw [charge_of_bound henforced howner]
    exact hP.useInOrder h chatter path groups.members
  · rw [charge_of_not_bound hfree]
    exact h

theorem usage_execute_of (line chatter : String) (m : Message) :
    P (e.execute line chatter m now).2.policy.usage := by
  have hcourse := e.course_execute line chatter m now
  generalize e.execute line chatter m now = result at hcourse
  cases hcourse with
  | rateLimited => exact usage_charge_of hP h _ _ _
  | called => exact usage_charge_of hP h _ _ _
  | _ => exact h

/-- **What changes and uses at `now` keep of a usage tree, an operation at `now` keeps.** -/
theorem usage_perform_of (op : Operation σ) : P (e.perform now op).2.policy.usage := by
  cases op with
  | line text chatter m => exact usage_execute_of hP h text chatter m
  | message m => exact usage_execute_of hP h m.content m.userId m
  | removeRules path => simp only [perform]; split <;> exact h
  | setLimit path limit =>
    simp only [perform]
    split
    next heq => exact hP.set? h heq
    next => exact h
  | removeLimits path =>
    simp only [perform]
    split
    next heq => exact hP.remove? h heq
    next => exact h
  | clearLimits => exact hP.empty
  | rebuildLimits limits => exact hP.ofLimits limits
  | use key path => exact hP.use h key path
  | useGroups key groups suffix => exact hP.useInOrder h key suffix groups.members
  | event event => exact hP.apply h event
  | updateLimit entry =>
    simp only [perform]
    split
    next heq => exact hP.applyUpdate? h heq
    next => exact h
  | listen capacity events => exact hP.foldl_apply h _
  | _ => exact h

end

/-- The usage tree of an engine is one that changes and uses bring about. -/
theorem reachable_run {e : Engine C σ} (h : e.policy.usage.Reachable)
    (ops : List (Int × Operation σ)) : (e.run ops).policy.usage.Reachable := by
  induction ops generalizing e with
  | nil => exact h
  | cons op ops ih =>
    obtain ⟨now, op⟩ := op
    exact ih (usage_perform_of (UsageTree.keptAt_reachable now) h op)

/-! ## Effects -/

/-- The call is the one that the line asks for: of the command that its tokens select, with the
arguments captured from them. -/
def AsksFor (e : Engine C σ) (line : String) (m : Message) (call : Call C) : Prop :=
  ∃ tokens arguments, e.Names line m tokens call.command ∧
    e.grammar.capture tokens (e.select m tokens).path = .ok arguments ∧
    call.arguments = Argument.byName arguments

/-- The call was made once and nothing else was called. What was sent, what became of the state and how
it ended are what one run of the command brings about. -/
structure Ran (e : Engine C σ) (m : Message) (call : Call C) (r : Report C) (e' : Engine C σ) :
    Prop where
  calls : r.calls = [call]
  state : e'.state =
    (e.behaviour.run call.command call.arguments m e.outboxOpen e.state).state
  replies : r.replies =
    if e.outboxOpen then
      (e.behaviour.run call.command call.arguments m e.outboxOpen e.state).replies
    else []
  outcome : r.outcome =
    if (e.behaviour.run call.command call.arguments m e.outboxOpen e.state).ending = .success then
      .success
    else .executionFailed

/-- The line has come so far that its use is charged: it names a command, the chatter may use it, and
its arguments are accepted. -/
def ComesToCharge (e : Engine C σ) (line chatter : String) (m : Message) (tokens : List String) :
    Prop :=
  ∃ command arguments, e.Passes line chatter m tokens command ∧
    e.arguments? m tokens (e.select m tokens).path = some arguments

/-- The effects of a line of a chatter who is in these groups, with the report `r` and the engine `e'`
after it. -/
structure Effects (e : Engine C σ) (groups : Set String) (line chatter : String) (m : Message)
    (now : Int) (r : Report C) (e' : Engine C σ) : Prop where
  /-- The outcome tells whether a command was called. -/
  calls_ne_nil_iff : r.calls ≠ [] ↔ r.outcome = .success ∨ r.outcome = .executionFailed
  called : r.calls ≠ [] → ∃ call, e.AsksFor line m call ∧ e.Ran m call r e'
  /-- A line that comes through all stages is not left without a call. -/
  calls_ne_nil : ∀ tokens, e.ComesToCharge line chatter m tokens →
    (e.chargeFor chatter m tokens now).1 = true → r.calls ≠ []
  silent : r.calls = [] → r.replies = [] ∧ e'.state = e.state
  /-- No limit is asked before a command is selected, permitted and supplied with arguments, nor
  where limits do not bind. -/
  usage_eq : (r.outcome = .unrecognized ∨ r.outcome = .forbidden ∨ r.outcome = .badSyntax ∨
    e.enforceLimits = false ∨ e.isOwner chatter = true) → e'.policy.usage = e.policy.usage
  /-- A call that limits bind is recorded once, at a limit on the way to the path below a group. -/
  recorded : r.calls ≠ [] → e.enforceLimits = true → e.isOwner chatter = false →
    ∃ tokens, e.tokensOf? line = some tokens ∧ ∃ group ∈ groups, ∃ p ≠ [],
      p <+: Dotted.segments (Dotted.below group (e.select m tokens).path) ∧
      (e.policy.usage.accounts.limit p).isSome ∧
      Accounts.RecordsOne p chatter now e.policy.usage.accounts e'.policy.usage.accounts
  refused : r.outcome = .rateLimited →
    Accounts.RecordsNone e.policy.usage.accounts e'.policy.usage.accounts
  setup : SameSetup e e'

theorem capture_of_arguments?_eq_some {e : Engine C σ} {m : Message} {tokens : List String}
    {path : String} {arguments : List Argument}
    (h : e.arguments? m tokens path = some arguments) :
    e.grammar.capture tokens path = .ok arguments := by
  unfold arguments? at h
  cases hcapture : e.grammar.capture tokens path with
  | error fault => rw [hcapture] at h; cases h
  | ok captured =>
    rw [hcapture] at h
    dsimp only at h
    split_ifs at h with hall
    rw [Option.some.inj h]

section
variable {e e' : Engine C σ} {line chatter : String} {m : Message} {now : Int}
  {groups : Set String}

/-- Nothing happens where a line is settled before the limits are asked. -/
theorem Effects.of_settled {o : Outcome} (ho : o = .unrecognized ∨ o = .forbidden ∨ o = .badSyntax)
    (hstops : ∀ tokens, ¬ e.ComesToCharge line chatter m tokens) :
    e.Effects groups line chatter m now { outcome := o } e where
  calls_ne_nil_iff := by rcases ho with rfl | rfl | rfl <;> simp
  called h := absurd rfl h
  calls_ne_nil tokens hcomes _ := absurd hcomes (hstops tokens)
  silent _ := ⟨rfl, rfl⟩
  usage_eq _ := rfl
  recorded h := absurd rfl h
  refused _ := .refl _
  setup := .refl e

/-- How the charge for a line ends, if the limits bind the chatter. -/
theorem settles_chargeFor (h : e.policy.usage.Reachable) (henforced : e.enforceLimits = true)
    (howner : e.isOwner chatter = false) (tokens : List String) :
    Accounts.Settles
      (fun p => p ≠ [] ∧ ∃ group ∈ e.groups.groupsOf chatter,
        p <+: Dotted.segments (Dotted.below group (e.select m tokens).path))
      chatter now e.policy.usage.accounts
      ((e.chargeFor chatter m tokens now).1,
        (e.chargeFor chatter m tokens now).2.policy.usage.accounts) := by
  rw [chargeFor, charge_of_bound henforced howner]
  exact h.settles_tryUseGroups chatter (e.groups.groupsOf chatter) (e.select m tokens).path now

/-- A charge does not touch what commands work on. -/
theorem state_charge (e : Engine C σ) (chatter : String) (groups : StringSet) (path : String)
    (now : Int) : (e.charge chatter groups path now).2.state = e.state := by
  unfold charge
  split <;> rfl

/-- A call after a charge is a call of the engine before it. -/
theorem ran_invoke (e : Engine C σ) (chatter : String) (m : Message) (tokens : List String)
    (now : Int) (call : Call C) :
    e.Ran m call ((e.chargeFor chatter m tokens now).2.invoke m call).1
      ((e.chargeFor chatter m tokens now).2.invoke m call).2 := by
  have hsetup : SameSetup e (e.chargeFor chatter m tokens now).2 := charge_sameSetup ..
  have hstate : (e.chargeFor chatter m tokens now).2.state = e.state := state_charge ..
  generalize (e.chargeFor chatter m tokens now).2 = charged at hsetup hstate
  unfold invoke
  rw [hsetup.behaviour, hsetup.outboxOpen, hstate]
  exact ⟨rfl, rfl, rfl, rfl⟩

/-- **A line does nothing, or has one command run.** -/
theorem silent_or_ran (e : Engine C σ) (line chatter : String) (m : Message) (now : Int) :
    ((e.execute line chatter m now).1.calls = [] ∧
      (e.execute line chatter m now).2.state = e.state) ∨
    ∃ call, e.Ran m call (e.execute line chatter m now).1 (e.execute line chatter m now).2 := by
  have hcourse := e.course_execute line chatter m now
  generalize e.execute line chatter m now = result at hcourse
  cases hcourse with
  | called => exact .inr ⟨_, ran_invoke ..⟩
  | rateLimited => exact .inl ⟨rfl, state_charge ..⟩
  | _ => exact .inl ⟨rfl, rfl⟩

/-- Limits refuse only whom they bind. -/
theorem bound_of_refused {tokens : List String} (h : (e.chargeFor chatter m tokens now).1 = false) :
    e.enforceLimits = true ∧ e.isOwner chatter = false := by
  rcases bound_or_not e chatter with hbound | hfree
  · exact hbound
  · rw [chargeFor, charge_of_not_bound hfree] at h
    cases h

/-- The effects of a line that the limits refused. -/
theorem Effects.of_refused (hreachable : e.policy.usage.Reachable) {tokens : List String}
    {command : C} (hpasses : e.Passes line chatter m tokens command)
    (hcharge : (e.chargeFor chatter m tokens now).1 = false) :
    e.Effects groups line chatter m now { outcome := .rateLimited }
      (e.chargeFor chatter m tokens now).2 where
  calls_ne_nil_iff := by simp
  called h := absurd rfl h
  calls_ne_nil tokens' hcomes hroom := by
    obtain ⟨command', _, hpasses', -⟩ := hcomes
    obtain ⟨rfl, -⟩ := hpasses.toNames.unique hpasses'.toNames
    cases hcharge.symm.trans hroom
  silent _ := ⟨rfl, state_charge ..⟩
  usage_eq h := by
    obtain ⟨henforced, howner⟩ := bound_of_refused hcharge
    simp [henforced, howner] at h
  recorded h := absurd rfl h
  refused _ := by
    obtain ⟨henforced, howner⟩ := bound_of_refused hcharge
    rcases settles_chargeFor hreachable henforced howner tokens with ⟨-, hnone⟩ | ⟨hused, -⟩
    · exact hnone
    · cases hcharge.symm.trans hused
  setup := charge_sameSetup ..

/-- The effects of a line whose command was called. -/
theorem Effects.of_called (hreachable : e.policy.usage.Reachable)
    (hgroups : ∀ group ∈ e.groups.groupsOf chatter, group ∈ groups) {tokens : List String}
    {command : C} {arguments : List Argument} (hpasses : e.Passes line chatter m tokens command)
    (harguments : e.arguments? m tokens (e.select m tokens).path = some arguments)
    (hcharge : (e.chargeFor chatter m tokens now).1 = true) :
    e.Effects groups line chatter m now
      ((e.chargeFor chatter m tokens now).2.invoke m ⟨command, Argument.byName arguments⟩).1
      ((e.chargeFor chatter m tokens now).2.invoke m ⟨command, Argument.byName arguments⟩).2 := by
  have hout := outcome_invoke (e.chargeFor chatter m tokens now).2 m
    ⟨command, Argument.byName arguments⟩
  have hran := ran_invoke e chatter m tokens now ⟨command, Argument.byName arguments⟩
  have hcalls : ((e.chargeFor chatter m tokens now).2.invoke m
      ⟨command, Argument.byName arguments⟩).1.calls ≠ [] := by
    rw [hran.calls]
    exact List.cons_ne_nil _ _
  refine ⟨iff_of_true hcalls hout, ?_, fun _ _ _ => hcalls, ?_, ?_, ?_, ?_, ?_⟩
  · intro _
    exact ⟨_, ⟨tokens, arguments, hpasses.toNames, capture_of_arguments?_eq_some harguments, rfl⟩,
      hran⟩
  · exact fun hnil => absurd hnil hcalls
  · intro hfree
    have hnot : e.enforceLimits = false ∨ e.isOwner chatter = true := by
      rcases hout with hout | hout
      · simpa [hout] using hfree
      · simpa [hout] using hfree
    rw [chargeFor, charge_of_not_bound hnot]
    rfl
  · intro _ henforced howner
    rcases settles_chargeFor hreachable henforced howner tokens with
      ⟨hused, -⟩ | ⟨-, p, ⟨hp, group, hgroup, hprefix⟩, hlimit, hone⟩
    · cases hcharge.symm.trans hused
    · exact ⟨tokens, hpasses.tokens_eq, group, hgroups group hgroup, p, hp, hprefix, hlimit, hone⟩
  · intro hlimited
    rcases hout with hout | hout
    · cases hout.symm.trans hlimited
    · cases hout.symm.trans hlimited
  · exact (charge_sameSetup ..).trans (invoke_sameSetup ..)

end

/-- **The effects of a line match its outcome**, after any operations and for any line. -/
theorem effects_execute (grammar : Grammar C) (behaviour : Behaviour C σ) (state : σ)
    (ops : List (Int × Operation σ)) (line chatter : String) (m : Message) (now : Int) :
    Effects ((start grammar behaviour state).run ops) (groupsAfter ops chatter) line chatter m now
      (((start grammar behaviour state).run ops).execute line chatter m now).1
      (((start grammar behaviour state).run ops).execute line chatter m now).2 := by
  have hstart : (start grammar behaviour state).policy.usage.Reachable := .empty
  have hreachable := reachable_run hstart ops
  have hgroups : ∀ group ∈ ((start grammar behaviour state).run ops).groups.groupsOf chatter,
      group ∈ groupsAfter ops chatter :=
    fun group => (mem_groupsOf_run grammar behaviour state ops).1
  generalize (start grammar behaviour state).run ops = e at hreachable hgroups
  have hcourse := e.course_execute line chatter m now
  generalize e.execute line chatter m now = result at hcourse
  cases hcourse with
  | unrecognized hnames =>
    refine .of_settled (.inl rfl) ?_
    rintro tokens ⟨command, _, hpasses, -⟩
    exact hnames tokens command hpasses.toNames
  | forbidden hnames howner hpermits =>
    refine .of_settled (.inr (.inl rfl)) ?_
    rintro tokens ⟨command, _, hpasses, -⟩
    obtain ⟨rfl, rfl⟩ := hnames.unique hpasses.toNames
    cases hpermits.symm.trans (hpasses.permits howner)
  | badSyntax hpasses harguments =>
    refine .of_settled (.inr (.inr rfl)) ?_
    rintro tokens ⟨command, _, hpasses', harguments'⟩
    obtain ⟨rfl, -⟩ := hpasses.toNames.unique hpasses'.toNames
    cases harguments.symm.trans harguments'
  | rateLimited hpasses _ hcharge => exact .of_refused hreachable hpasses hcharge
  | called hpasses harguments hcharge => exact .of_called hreachable hgroups hpasses harguments hcharge

end Engine

/-! ## A sample -/

namespace Sample

open Engine

/-- A chatter runs a command that may be used once a second, and again too soon. -/
def hasty : List (Int × Operation Unit) :=
  [(0, .enforceLimits true), (0, .setLimit "everyone.tts" ⟨1, 1000⟩),
    (1, .line "!tts now" "7" message), (5, .line "!tts now" "7" message)]

example : ((start builder.grammar scripted ()).run hasty).policy.usage.accounts.uses
    ["everyone", "tts"] "7" = [1] := by
  decide +kernel

end Sample

end ChatCommands
