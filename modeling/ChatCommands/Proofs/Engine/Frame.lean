import ChatCommands.Engine.Operation
import ChatCommands.Proofs.Engine.Course

/-!
# What lines leave alone

A line may change the state of the commands and the usage histories. All else about an engine stays:
its grammar and behaviour, its settings, the groups, the permission rules and the group table
(`execute_sameSetup`). Any other operation changes one part of an engine (`performed`). The grammar and
the behaviour outlive every operation (`fixed_run`).
-/

namespace ChatCommands

namespace Engine

variable {C σ : Type}

/-- The engines differ at most in the state of the commands and in the usage tree. -/
structure SameSetup (e e' : Engine C σ) : Prop where
  grammar : e'.grammar = e.grammar
  behaviour : e'.behaviour = e.behaviour
  commandPrefix : e'.commandPrefix = e.commandPrefix
  owners : e'.owners = e.owners
  enforceLimits : e'.enforceLimits = e.enforceLimits
  groups : e'.groups = e.groups
  permissions : e'.policy.permissions = e.policy.permissions
  groupNames : e'.policy.groupNames = e.policy.groupNames
  outboxOpen : e'.outboxOpen = e.outboxOpen

theorem SameSetup.refl (e : Engine C σ) : SameSetup e e :=
  ⟨rfl, rfl, rfl, rfl, rfl, rfl, rfl, rfl, rfl⟩

theorem SameSetup.symm {e e' : Engine C σ} (h : SameSetup e e') : SameSetup e' e where
  grammar := h.grammar.symm
  behaviour := h.behaviour.symm
  commandPrefix := h.commandPrefix.symm
  owners := h.owners.symm
  enforceLimits := h.enforceLimits.symm
  groups := h.groups.symm
  permissions := h.permissions.symm
  groupNames := h.groupNames.symm
  outboxOpen := h.outboxOpen.symm

theorem SameSetup.trans {e₁ e₂ e₃ : Engine C σ} (h : SameSetup e₁ e₂) (h' : SameSetup e₂ e₃) :
    SameSetup e₁ e₃ where
  grammar := h'.grammar.trans h.grammar
  behaviour := h'.behaviour.trans h.behaviour
  commandPrefix := h'.commandPrefix.trans h.commandPrefix
  owners := h'.owners.trans h.owners
  enforceLimits := h'.enforceLimits.trans h.enforceLimits
  groups := h'.groups.trans h.groups
  permissions := h'.permissions.trans h.permissions
  groupNames := h'.groupNames.trans h.groupNames
  outboxOpen := h'.outboxOpen.trans h.outboxOpen

theorem charge_sameSetup (e : Engine C σ) (chatter : String) (groups : StringSet) (path : String)
    (now : Int) : SameSetup e (e.charge chatter groups path now).2 := by
  unfold charge
  split
  · exact ⟨rfl, rfl, rfl, rfl, rfl, rfl, rfl, rfl, rfl⟩
  · exact .refl e

theorem invoke_sameSetup (e : Engine C σ) (m : Message) (call : Call C) :
    SameSetup e (e.invoke m call).2 :=
  ⟨rfl, rfl, rfl, rfl, rfl, rfl, rfl, rfl, rfl⟩

/-- **A line changes neither the rules nor the groups nor the settings.** -/
theorem execute_sameSetup (e : Engine C σ) (line chatter : String) (m : Message) (now : Int) :
    SameSetup e (e.execute line chatter m now).2 := by
  have hcourse := e.course_execute line chatter m now
  generalize e.execute line chatter m now = result at hcourse
  cases hcourse with
  | rateLimited => exact charge_sameSetup ..
  | called => exact (charge_sameSetup ..).trans (invoke_sameSetup ..)
  | _ => exact .refl e

/-! ## Operations -/

/-- What an operation makes of an engine. Operations on groups or policies leave all else alone. -/
inductive Performed (e : Engine C σ) : Operation σ → Engine C σ → Prop
  | line (text chatter : String) (m : Message) (now : Int) :
    Performed e (.line text chatter m) (e.execute text chatter m now).2
  | message (m : Message) (now : Int) : Performed e (.message m) (e.process m now).2
  | closeOutbox : Performed e .closeOutbox { e with outboxOpen := false }
  | setPrefix (commandPrefix : String) :
    Performed e (.setPrefix commandPrefix) { e with commandPrefix }
  | setOwners (owners : List String) : Performed e (.setOwners owners) { e with owners }
  | enforceLimits (on : Bool) : Performed e (.enforceLimits on) { e with enforceLimits := on }
  | changeState (change : σ → σ) :
    Performed e (.changeState change) { e with state := change e.state }
  | groups {op : Operation σ} (groups : Groups) : Performed e op { e with groups }
  | policy {op : Operation σ} (policy : PolicyStore) : Performed e op { e with policy }

theorem performed (e : Engine C σ) (now : Int) (op : Operation σ) :
    Performed e op (e.perform now op).2 := by
  cases op with
  | line text chatter m => exact .line text chatter m now
  | message m => exact .message m now
  | closeOutbox => exact .closeOutbox
  | setPrefix commandPrefix => exact .setPrefix commandPrefix
  | setOwners owners => exact .setOwners owners
  | enforceLimits on => exact .enforceLimits on
  | changeState change => exact .changeState change
  | addMember group chatter => exact .groups _
  | removeMember group chatter => exact .groups _
  | setPriority group priority => exact .groups _
  | removeRules path => simp only [perform]; split <;> exact .policy _
  | setLimit path limit => simp only [perform]; split <;> exact .policy _
  | removeLimits path => simp only [perform]; split <;> exact .policy _
  | updateLimit entry => simp only [perform]; split <;> exact .policy _
  | _ => exact .policy _

/-! ## The grammar and the commands are never changed -/

/-- The grammar of an engine and what its commands do. -/
def fixed (e : Engine C σ) : Grammar C × Behaviour C σ := (e.grammar, e.behaviour)

theorem SameSetup.fixed_eq {e e' : Engine C σ} (h : SameSetup e e') : e'.fixed = e.fixed :=
  Prod.ext h.grammar h.behaviour

theorem fixed_perform (e : Engine C σ) (now : Int) (op : Operation σ) :
    (e.perform now op).2.fixed = e.fixed := by
  have hperformed := e.performed now op
  generalize (e.perform now op).2 = e' at hperformed ⊢
  cases hperformed with
  | line text chatter m now => exact (execute_sameSetup e text chatter m now).fixed_eq
  | message m now => exact (execute_sameSetup e m.content m.userId m now).fixed_eq
  | _ => rfl

theorem fixed_run (e : Engine C σ) (ops : List (Int × Operation σ)) :
    (e.run ops).fixed = e.fixed := by
  induction ops generalizing e with
  | nil => rfl
  | cons op ops ih =>
    obtain ⟨now, op⟩ := op
    rw [run, ih, fixed_perform]

/-- No operation changes the grammar. -/
theorem grammar_run (e : Engine C σ) (ops : List (Int × Operation σ)) :
    (e.run ops).grammar = e.grammar :=
  congrArg Prod.fst (e.fixed_run ops)

/-- No operation changes what the commands do. -/
theorem behaviour_run (e : Engine C σ) (ops : List (Int × Operation σ)) :
    (e.run ops).behaviour = e.behaviour :=
  congrArg Prod.snd (e.fixed_run ops)

end Engine

end ChatCommands
