import ChatCommands.Proofs.Engine.Authorization
import ChatCommands.Proofs.Engine.Effects

/-!
# Commands that fail

A command may give up with an error, break down, or find that its reply cannot be sent. The engine makes
an outcome of it, and that is all that comes of it.

* `Engine.SameButEndings`: two engines whose commands do the same, but may end differently and send other
  replies.
* `Answer.SameButEndings`: two answers that differ at most in whether a call succeeded.

**Theorem (`run_sameButEndings`).** Whatever is done to two such engines, they answer with the same calls and
the same outcomes, up to success and failure of a call, and after every operation they have the same
policies, groups, settings and state.
-/

namespace ChatCommands

variable {C σ : Type}

/-! ## Commands that do the same -/

namespace Behaviour

/-- The commands differ at most in what they reply and in how they end. -/
structure SameButEndings (b b' : Behaviour C σ) : Prop where
  acceptsCustomPermission : b'.acceptsCustomPermission = b.acceptsCustomPermission
  allowedByDefault : b'.allowedByDefault = b.allowedByDefault
  registries : b'.registries = b.registries
  state (command : C) (arguments : ArgumentMap) (m : Message) (outboxOpen : Bool) (s : σ) :
    (b'.run command arguments m outboxOpen s).state =
      (b.run command arguments m outboxOpen s).state

/-- What commands do to the state does not depend on whether replies can be sent. -/
def Steadfast (b : Behaviour C σ) : Prop :=
  ∀ (command : C) (arguments : ArgumentMap) (m : Message) (outboxOpen outboxOpen' : Bool) (s : σ),
    (b.run command arguments m outboxOpen' s).state = (b.run command arguments m outboxOpen s).state

end Behaviour

/-! ## What is told of a call -/

/-- A command was called, however that ended. -/
def Outcome.Ran (o : Outcome) : Prop := o = .success ∨ o = .executionFailed

/-- The reports have the same calls, and the same outcome but for how a call ended. -/
structure Report.SameButEndings (r r' : Report C) : Prop where
  calls : r'.calls = r.calls
  outcome : r'.outcome = r.outcome ∨ (r.outcome.Ran ∧ r'.outcome.Ran)

theorem Report.SameButEndings.refl (r : Report C) : r.SameButEndings r := ⟨rfl, .inl rfl⟩

/-- The answers differ at most in what they report on how calls ended. -/
inductive Answer.SameButEndings : Answer C → Answer C → Prop
  | done : SameButEndings .done .done
  | flag (changed : Bool) : SameButEndings (.flag changed) (.flag changed)
  | report {r r' : Report C} (h : r.SameButEndings r') : SameButEndings (.report r) (.report r')

theorem Answer.SameButEndings.refl (a : Answer C) : a.SameButEndings a := by
  cases a with
  | done => exact .done
  | flag changed => exact .flag changed
  | report r => exact .report (.refl r)

namespace Engine

/-- The answers to operations, each performed at its instant. -/
def answers (e : Engine C σ) : List (Int × Operation σ) → List (Answer C)
  | [] => []
  | (now, op) :: ops => (e.perform now op).1 :: (e.perform now op).2.answers ops

/-! ## Engines that differ in how calls end -/

/-- The engines differ at most in how their commands end. The outbox may be closed for one of them only
if the commands do not mind. -/
structure SameButEndings (e e' : Engine C σ) : Prop where
  behaviour : e.behaviour.SameButEndings e'.behaviour
  outbox : e'.outboxOpen = e.outboxOpen ∨ e.behaviour.Steadfast
  grammar : e'.grammar = e.grammar
  state : e'.state = e.state
  commandPrefix : e'.commandPrefix = e.commandPrefix
  owners : e'.owners = e.owners
  enforceLimits : e'.enforceLimits = e.enforceLimits
  groups : e'.groups = e.groups
  policy : e'.policy = e.policy

/-- The engine with another behaviour and another outbox. -/
def acting (e : Engine C σ) (behaviour : Behaviour C σ) (outboxOpen : Bool) : Engine C σ :=
  { e with behaviour, outboxOpen }

/-- Operations other than lines do not ask what commands do or how the outbox is. -/
theorem perform_acting (e : Engine C σ) (behaviour : Behaviour C σ) (outboxOpen : Bool) (now : Int)
    {op : Operation σ} (hline : ∀ text chatter m, op ≠ .line text chatter m)
    (hmessage : ∀ m, op ≠ .message m) (hclose : op ≠ .closeOutbox) :
    (e.acting behaviour outboxOpen).perform now op =
      ((e.perform now op).1, (e.perform now op).2.acting behaviour outboxOpen) := by
  cases op with
  | line text chatter m => exact absurd rfl (hline text chatter m)
  | message m => exact absurd rfl (hmessage m)
  | closeOutbox => exact absurd rfl hclose
  | removeRules path =>
    simp only [perform, acting]
    cases e.policy.permissions.remove? path <;> rfl
  | setLimit path limit =>
    simp only [perform, acting]
    cases e.policy.usage.set? path limit <;> rfl
  | removeLimits path =>
    simp only [perform, acting]
    cases e.policy.usage.remove? path <;> rfl
  | updateLimit entry =>
    simp only [perform, acting]
    cases e.policy.applyUpdate? entry <;> rfl
  | _ => rfl

namespace SameButEndings

variable {e e' : Engine C σ}

theorem eq_acting (h : SameButEndings e e') : e' = e.acting e'.behaviour e'.outboxOpen := by
  obtain ⟨-, -, hgrammar, hstate, hprefix, howners, henforce, hgroups, hpolicy⟩ := h
  cases e'
  subst hgrammar hstate hprefix howners henforce hgroups hpolicy
  rfl

section
variable (h : SameButEndings e e')
include h

theorem accepts_eq (m : Message) : e'.accepts m = e.accepts m := by
  funext slot word
  rw [Engine.accepts, h.behaviour.registries, h.state, Engine.accepts]

theorem select_eq (m : Message) (tokens : List String) : e'.select m tokens = e.select m tokens := by
  rw [Engine.select, h.grammar, h.accepts_eq, Engine.select]

theorem permits_eq (groups : StringSet) (m : Message) (command : C) (s : Selection C) :
    e'.permits groups m command s = e.permits groups m command s := by
  unfold Engine.permits Engine.verdict
  rw [h.policy, h.behaviour.acceptsCustomPermission, h.behaviour.allowedByDefault]

theorem arguments?_eq (m : Message) (tokens : List String) (path : String) :
    e'.arguments? m tokens path = e.arguments? m tokens path := by
  rw [Engine.arguments?, h.grammar, h.accepts_eq, Engine.arguments?]

/-- **A charge** has nothing to do with what commands do. -/
theorem charge (chatter : String) (groups : StringSet) (path : String) (now : Int) :
    (e'.charge chatter groups path now).1 = (e.charge chatter groups path now).1 ∧
      SameButEndings (e.charge chatter groups path now).2 (e'.charge chatter groups path now).2 := by
  have howner : e'.isOwner chatter = e.isOwner chatter := by
    rw [isOwner, h.owners, isOwner]
  rcases bound_or_not e chatter with ⟨henforced, hbound⟩ | hfree
  · have henforced' : e'.enforceLimits = true := by rwa [h.enforceLimits]
    have hbound' : e'.isOwner chatter = false := by rwa [howner]
    rw [charge_of_bound henforced hbound, charge_of_bound henforced' hbound', h.policy]
    refine ⟨rfl, { h with policy := ?_ }⟩
    simp only [withUsage, h.policy]
  · have hfree' : e'.enforceLimits = false ∨ e'.isOwner chatter = true := by
      rwa [h.enforceLimits, howner]
    rw [charge_of_not_bound hfree, charge_of_not_bound hfree']
    exact ⟨rfl, h⟩

/-- **A call** does the same to the state, though it may end differently. -/
theorem invoke (m : Message) (call : Call C) :
    (e.invoke m call).1.SameButEndings (e'.invoke m call).1 ∧
      SameButEndings (e.invoke m call).2 (e'.invoke m call).2 := by
  refine ⟨⟨rfl, .inr ⟨outcome_invoke e m call, outcome_invoke e' m call⟩⟩, { h with state := ?_ }⟩
  have hrun : (e'.behaviour.run call.command call.arguments m e'.outboxOpen e.state).state =
      (e.behaviour.run call.command call.arguments m e.outboxOpen e.state).state := by
    rw [h.behaviour.state]
    rcases h.outbox with hsame | hsteadfast
    · rw [hsame]
    · exact hsteadfast _ _ _ _ _ _
  simp only [Engine.invoke, h.state, hrun]

theorem dispatch (chatter : String) (m : Message) (now : Int) (tokens : List String)
    (s : Selection C) (command : C) :
    (e.dispatch chatter m now tokens s command).1.SameButEndings
        (e'.dispatch chatter m now tokens s command).1 ∧
      SameButEndings (e.dispatch chatter m now tokens s command).2
        (e'.dispatch chatter m now tokens s command).2 := by
  have howner : e'.isOwner chatter = e.isOwner chatter := by
    rw [isOwner, h.owners, isOwner]
  simp only [Engine.dispatch]
  rw [h.groups, howner, h.permits_eq, h.arguments?_eq]
  split_ifs
  · exact ⟨.refl _, h⟩
  · cases e.arguments? m tokens s.path with
    | none => exact ⟨.refl _, h⟩
    | some arguments =>
      obtain ⟨hused, hcharged⟩ := h.charge chatter (e.groups.groupsOf chatter) s.path now
      generalize e.charge chatter (e.groups.groupsOf chatter) s.path now = result at hused hcharged
      generalize e'.charge chatter (e.groups.groupsOf chatter) s.path now = result' at hused hcharged
      obtain ⟨used, charged⟩ := result
      obtain ⟨used', charged'⟩ := result'
      obtain rfl : used' = used := hused
      cases used' with
      | true => exact hcharged.invoke m ⟨command, Argument.byName arguments⟩
      | false => exact ⟨.refl _, hcharged⟩

/-- **A line** comes to the same call, if to any. -/
theorem execute (line chatter : String) (m : Message) (now : Int) :
    (e.execute line chatter m now).1.SameButEndings (e'.execute line chatter m now).1 ∧
      SameButEndings (e.execute line chatter m now).2 (e'.execute line chatter m now).2 := by
  have htokens : e'.tokensOf? line = e.tokensOf? line := by
    rw [tokensOf?, h.commandPrefix, tokensOf?]
  unfold Engine.execute
  rw [htokens]
  split
  · exact ⟨.refl _, h⟩
  · exact ⟨.refl _, h⟩
  · next tokens _ _ =>
    dsimp only
    rw [h.select_eq]
    cases (e.select m tokens).command with
    | none => exact ⟨.refl _, h⟩
    | some command => exact h.dispatch chatter m now tokens _ command

end

/-! ### Operations -/

section
variable (h : SameButEndings e e')
include h

theorem perform_of_not_line (now : Int) {op : Operation σ}
    (hline : ∀ text chatter m, op ≠ .line text chatter m) (hmessage : ∀ m, op ≠ .message m)
    (hclose : op ≠ .closeOutbox) :
    Answer.SameButEndings (e.perform now op).1 (e'.perform now op).1 ∧
      SameButEndings (e.perform now op).2 (e'.perform now op).2 := by
  -- Nothing becomes of the commands and the outbox of the first engine either.
  have hkept : (e.perform now op).2 = (e.perform now op).2.acting e.behaviour e.outboxOpen :=
    congrArg Prod.snd (e.perform_acting e.behaviour e.outboxOpen now hline hmessage hclose)
  rw [h.eq_acting, perform_acting e _ _ now hline hmessage hclose]
  refine ⟨.refl _, ?_, ?_, rfl, rfl, rfl, rfl, rfl, rfl, rfl⟩
  · rw [hkept]
    exact h.behaviour
  · rw [hkept]
    exact h.outbox

/-- **An operation** has the same answer, but for how a call ended. -/
theorem perform (now : Int) (op : Operation σ) :
    Answer.SameButEndings (e.perform now op).1 (e'.perform now op).1 ∧
      SameButEndings (e.perform now op).2 (e'.perform now op).2 := by
  cases op with
  | line text chatter m => exact (h.execute text chatter m now).imp_left .report
  | message m => exact (h.execute m.content m.userId m now).imp_left .report
  | closeOutbox => exact ⟨.done, { h with outbox := .inl rfl }⟩
  | _ => exact h.perform_of_not_line now nofun nofun nofun

end

end SameButEndings

/-- **How commands end is contained.** Nothing else differs between the engines, neither in what they
answer nor in what they are after each of the operations. -/
theorem run_sameButEndings {e e' : Engine C σ} (h : e.SameButEndings e')
    (ops : List (Int × Operation σ)) :
    List.Forall₂ Answer.SameButEndings (e.answers ops) (e'.answers ops) ∧
      ∀ before, before <+: ops → (e.run before).SameButEndings (e'.run before) := by
  induction ops generalizing e e' with
  | nil =>
    refine ⟨.nil, fun before hbefore => ?_⟩
    rw [List.prefix_nil.1 hbefore]
    exact h
  | cons op ops ih =>
    obtain ⟨now, op⟩ := op
    obtain ⟨hanswer, hafter⟩ := h.perform now op
    obtain ⟨hanswers, hruns⟩ := ih hafter
    refine ⟨.cons hanswer hanswers, fun before hbefore => ?_⟩
    rcases List.prefix_cons_iff.1 hbefore with rfl | ⟨rest, rfl, hrest⟩
    · exact h
    · exact hruns rest hrest

end Engine

/-! ## A sample -/

namespace Sample

open Engine

/-- Commands that break down, whatever they are asked to do. -/
def brittle : Behaviour ScriptedCommand Unit :=
  { scripted with run := fun _ _ _ _ state => { state, ending := .fault } }

/-- Some lines, between changes of the policies. -/
def eventful : List (Int × Operation Unit) :=
  [(0, .enforceLimits true), (0, .setLimit "everyone.tts" ⟨1, 1000⟩),
    (1, .line "!tts now" "7" message), (2, .line "!tts now" "7" message),
    (3, .setRule "everyone.tts" .deny), (4, .line "!tts now" "7" message),
    (5, .setOwners ["7"]), (6, .closeOutbox), (7, .line "!tts now" "7" message)]

theorem run_sameButEndings_brittle :
    (start builder.grammar scripted ()).SameButEndings (start builder.grammar brittle ()) ∧
      List.Forall₂ Answer.SameButEndings ((start builder.grammar scripted ()).answers eventful)
        ((start builder.grammar brittle ()).answers eventful) ∧
      ∀ before, before <+: eventful → ((start builder.grammar scripted ()).run before).SameButEndings
        ((start builder.grammar brittle ()).run before) := by
  have hbehaviour : scripted.SameButEndings brittle := ⟨rfl, rfl, rfl, fun _ _ _ _ _ => rfl⟩
  have hstart : (start builder.grammar scripted ()).SameButEndings
      (start builder.grammar brittle ()) :=
    ⟨hbehaviour, .inl rfl, rfl, rfl, rfl, rfl, rfl, rfl, rfl⟩
  exact ⟨hstart, run_sameButEndings hstart eventful⟩

/-- What becomes of the lines. -/
def outcomes (e : Engine ScriptedCommand Unit) (ops : List (Int × Operation Unit)) : List Outcome :=
  (e.answers ops).filterMap fun
    | .report r => some r.outcome
    | _ => none

example :
    outcomes (start builder.grammar scripted ()) eventful =
        [.success, .rateLimited, .forbidden, .success] ∧
      outcomes (start builder.grammar brittle ()) eventful =
        [.executionFailed, .rateLimited, .forbidden, .executionFailed] := by
  decide +kernel

end Sample

end ChatCommands
