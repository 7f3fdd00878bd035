import ChatCommands.Proofs.Engine.Effects

/-!
# Owners

Two stages of the engine ask the policies, and each of them lets owners pass. The groups are looked up for
owners as for all others, but nothing is made of them.

* `Engine.callOf`, `Engine.serve`: the call that a line asks for, and what becomes of a line where there are
  no policies to ask.
* `execute_of_isOwner`: a line of an owner is just served.

**Theorem (`execute_eq_of_isOwner`).** Whatever the policies are, a line of an owner is reported the same
and has the same effect on the state of the commands. No policy turns it down, and no usage is recorded.
-/

namespace ChatCommands.Engine

variable {C σ : Type}

/-! ## Lines without policies -/

/-- The call that a line asks for, or the outcome that it has for asking for none. -/
def callOf (e : Engine C σ) (line : String) (m : Message) : Except Outcome (Call C) :=
  match e.tokensOf? line with
  | none | some [] => .error .unrecognized
  | some tokens =>
    match (e.select m tokens).command with
    | none => .error .unrecognized
    | some command =>
      match e.arguments? m tokens (e.select m tokens).path with
      | none => .error .badSyntax
      | some arguments => .ok ⟨command, Argument.byName arguments⟩

/-- What becomes of a line where there are no policies to ask. -/
def serve (e : Engine C σ) (line : String) (m : Message) : Report C × Engine C σ :=
  match e.callOf line m with
  | .error outcome => ({ outcome }, e)
  | .ok call => e.invoke m call

variable {e e' : Engine C σ} {chatter : String}

theorem dispatch_of_isOwner (howner : e.isOwner chatter = true) (m : Message) (now : Int)
    (tokens : List String) (s : Selection C) (command : C) :
    e.dispatch chatter m now tokens s command =
      match e.arguments? m tokens s.path with
      | none => ({ outcome := .badSyntax }, e)
      | some arguments => e.invoke m ⟨command, Argument.byName arguments⟩ := by
  have hexempt : (!e.isOwner chatter && !e.permits (e.groups.groupsOf chatter) m command s) = false := by
    rw [howner, Bool.not_true, Bool.false_and]
  simp only [dispatch, hexempt, charge_of_not_bound (.inr howner)]
  rfl

/-- **A line of an owner is just served.** -/
theorem execute_of_isOwner (howner : e.isOwner chatter = true) (line : String) (m : Message)
    (now : Int) : e.execute line chatter m now = e.serve line m := by
  unfold execute serve callOf
  cases e.tokensOf? line with
  | none => rfl
  | some tokens =>
    cases tokens with
    | nil => rfl
    | cons token tokens =>
      dsimp only
      cases (e.select m (token :: tokens)).command with
      | none => rfl
      | some command =>
        dsimp only
        rw [dispatch_of_isOwner howner]
        cases e.arguments? m (token :: tokens) (e.select m (token :: tokens)).path <;> rfl

theorem outcome_of_callOf_eq_error {line : String} {m : Message} {outcome : Outcome}
    (h : e.callOf line m = .error outcome) : outcome = .unrecognized ∨ outcome = .badSyntax := by
  unfold callOf at h
  split at h
  · cases h
    exact .inl rfl
  · cases h
    exact .inl rfl
  · split at h
    · cases h
      exact .inl rfl
    · split at h
      · cases h
        exact .inr rfl
      · cases h

/-- The call that the line asks for is made. -/
theorem calls_serve {line : String} {m : Message} {call : Call C} (h : e.callOf line m = .ok call) :
    (e.serve line m).1.calls = [call] := by
  rw [serve, h]
  rfl

/-- A line that is just served is not turned down by a policy. -/
theorem outcome_serve (e : Engine C σ) (line : String) (m : Message) :
    (e.serve line m).1.outcome ≠ .forbidden ∧ (e.serve line m).1.outcome ≠ .rateLimited := by
  unfold serve
  cases hcall : e.callOf line m with
  | error outcome => rcases outcome_of_callOf_eq_error hcall with rfl | rfl <;> exact ⟨nofun, nofun⟩
  | ok call => rcases e.outcome_invoke m call with h | h <;> rw [h] <;> exact ⟨nofun, nofun⟩

/-! ## What does not depend on the policies -/

/-- The engines differ at most in the permission tree, the usage tree and the group table, in the groups,
and in whether limits are enforced. -/
structure SameButPolicies (e e' : Engine C σ) : Prop where
  grammar : e'.grammar = e.grammar
  behaviour : e'.behaviour = e.behaviour
  state : e'.state = e.state
  commandPrefix : e'.commandPrefix = e.commandPrefix
  owners : e'.owners = e.owners
  outboxOpen : e'.outboxOpen = e.outboxOpen

namespace SameButPolicies

variable (h : SameButPolicies e e')
include h

theorem isOwner_eq (chatter : String) : e'.isOwner chatter = e.isOwner chatter := by
  rw [isOwner, h.owners, isOwner]

theorem tokensOf?_eq (line : String) : e'.tokensOf? line = e.tokensOf? line := by
  rw [tokensOf?, h.commandPrefix, tokensOf?]

theorem accepts_eq (m : Message) : e'.accepts m = e.accepts m := by
  funext slot word
  rw [accepts, h.behaviour, h.state, accepts]

theorem select_eq (m : Message) (tokens : List String) : e'.select m tokens = e.select m tokens := by
  rw [select, h.grammar, h.accepts_eq, select]

theorem arguments?_eq (m : Message) (tokens : List String) (path : String) :
    e'.arguments? m tokens path = e.arguments? m tokens path := by
  rw [arguments?, h.grammar, h.accepts_eq, arguments?]

theorem callOf_eq (line : String) (m : Message) : e'.callOf line m = e.callOf line m := by
  unfold callOf
  simp only [h.tokensOf?_eq, h.select_eq, h.arguments?_eq]

/-- **Served lines end alike**: with one report, and with one state of the commands after them. -/
theorem serve (line : String) (m : Message) :
    (e'.serve line m).1 = (e.serve line m).1 ∧
      ∃ state, (e.serve line m).2 = { e with state } ∧ (e'.serve line m).2 = { e' with state } := by
  unfold Engine.serve
  rw [h.callOf_eq]
  cases e.callOf line m with
  | error outcome => exact ⟨rfl, e.state, rfl, by rw [← h.state]⟩
  | ok call =>
    dsimp only [invoke]
    rw [h.behaviour, h.state, h.outboxOpen]
    exact ⟨rfl, _, rfl, rfl⟩

end SameButPolicies

/-- **Owners do not depend on any policy.** A command that the line asks for is called. After the line both
engines are as they were, but for the state of the commands, and that is the same in both. -/
theorem execute_eq_of_isOwner (h : SameButPolicies e e') (howner : e.isOwner chatter = true)
    (line : String) (m : Message) (now now' : Int) :
    (e'.execute line chatter m now').1 = (e.execute line chatter m now).1 ∧
      (e.execute line chatter m now).1.outcome ≠ .forbidden ∧
      (e.execute line chatter m now).1.outcome ≠ .rateLimited ∧
      (∀ call, e.callOf line m = .ok call → (e.execute line chatter m now).1.calls = [call]) ∧
      ∃ state, (e.execute line chatter m now).2 = { e with state } ∧
        (e'.execute line chatter m now').2 = { e' with state } := by
  rw [execute_of_isOwner howner, execute_of_isOwner ((h.isOwner_eq chatter).trans howner)]
  obtain ⟨hreport, hengines⟩ := h.serve line m
  obtain ⟨hpermitted, hunlimited⟩ := e.outcome_serve line m
  exact ⟨hreport, hpermitted, hunlimited, fun _ hcall => calls_serve hcall, hengines⟩

end ChatCommands.Engine

namespace ChatCommands.Sample

open Engine

/-- An engine with an owner, before any policies. -/
def owned : Engine ScriptedCommand Unit :=
  { start builder.grammar scripted () with owners := ["7"] }

/-- The same engine under policies that let no one use the command. -/
def lockedDown : Engine ScriptedCommand Unit :=
  owned.run [(0, .enforceLimits true), (0, .addMember "mods" "7"), (0, .setRule "everyone.tts" .deny),
    (0, .setLimit "everyone.tts" ⟨0, 1000⟩)]

theorem execute_eq_lockedDown :
    SameButPolicies owned lockedDown ∧ owned.isOwner "7" = true ∧
      owned.callOf "!tts now" message = .ok ⟨tts, Argument.byName []⟩ ∧
      (lockedDown.execute "!tts now" "7" message 2).1 = (owned.execute "!tts now" "7" message 1).1 ∧
      (owned.execute "!tts now" "7" message 1).1.calls = [⟨tts, Argument.byName []⟩] := by
  have hsame : SameButPolicies owned lockedDown := ⟨rfl, rfl, rfl, rfl, rfl, rfl⟩
  have howner : owned.isOwner "7" = true := by decide +kernel
  have hcall : owned.callOf "!tts now" message = .ok ⟨tts, Argument.byName []⟩ := by
    decide +kernel
  obtain ⟨hreport, -, -, hcalls, -⟩ := execute_eq_of_isOwner hsame howner "!tts now" message 1 2
  exact ⟨hsame, howner, hcall, hreport, hcalls _ hcall⟩

example : (lockedDown.execute "!tts now" "7" message 2).1.outcome = .success ∧
    (lockedDown.execute "!tts now" "8" message 2).1.outcome = .forbidden := by
  decide +kernel

end ChatCommands.Sample
