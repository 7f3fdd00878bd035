import ChatCommands.Proofs.Engine.Frame
import ChatCommands.Proofs.Permission.Rules

/-!
# Rules and groups after a history

The states that an engine reaches are told by what was done to it, without a look into its trees and
tables. After any operations from the start,

* the permission rules are those that the operations on rules left (`rules_run`);
* a chatter belongs to `everyone` and to the groups that some operation added the chatter to and no
  later one took the chatter out of (`mem_groupsOf_run`).
-/

namespace ChatCommands

variable {C σ : Type}

/-! ## Rules -/

/-- What an operation does to the explicit rules. -/
def Operation.onRules (rules : RuleMap) : Operation σ → RuleMap
  | .setRule path v => rules.set (Dotted.segments path) v
  | .removeRules path => rules.remove (Dotted.segments path)
  | .clearRules => .empty
  | .rebuildRules rs => .ofList rs
  | .event e => onEvent rules e
  | .listen capacity events => (PolicyFeed.retained capacity events).foldl onEvent rules
  | _ => rules
where
  /-- A snapshot brings rules of its own, an update has none. -/
  onEvent (rules : RuleMap) : PolicyEvent → RuleMap
    | .fullSnapshot s => .ofList s.rules
    | .singlePolicyUpdate _ => rules

/-- The explicit rules that a history of operations leaves. -/
def rulesAfter (ops : List (Int × Operation σ)) : RuleMap :=
  ops.foldl (fun rules op => op.2.onRules rules) .empty

theorem PolicyStore.applyUpdate?_permissions {store store' : PolicyStore} {entry : UsageEntry}
    (h : store.applyUpdate? entry = some store') : store'.permissions = store.permissions := by
  simp only [applyUpdate?, bind, Option.bind_eq_some_iff, pure, Option.some.injEq] at h
  obtain ⟨_, _, _, _, rfl⟩ := h
  rfl

theorem PolicyStore.rules_apply (store : PolicyStore) (event : PolicyEvent) :
    (store.apply event).permissions.rules =
      Operation.onRules.onEvent store.permissions.rules event := by
  cases event with
  | fullSnapshot s => exact PermissionTree.rules_ofRules s.rules
  | singlePolicyUpdate entry =>
    cases h : store.applyUpdate? entry with
    | none => simp [apply, h, Operation.onRules.onEvent]
    | some store' =>
      simp [apply, h, Operation.onRules.onEvent, PolicyStore.applyUpdate?_permissions h]

theorem PolicyStore.rules_foldl_apply (events : List PolicyEvent) (store : PolicyStore) :
    (events.foldl apply store).permissions.rules =
      events.foldl Operation.onRules.onEvent store.permissions.rules := by
  induction events generalizing store with
  | nil => rfl
  | cons event events ih => rw [List.foldl_cons, ih, rules_apply, List.foldl_cons]

namespace Engine

theorem rules_perform (e : Engine C σ) (now : Int) (op : Operation σ) :
    (e.perform now op).2.policy.permissions.rules =
      op.onRules e.policy.permissions.rules := by
  cases op with
  | line text chatter m =>
    exact congrArg PermissionTree.rules (execute_sameSetup e text chatter m now).permissions
  | message m =>
    exact congrArg PermissionTree.rules (execute_sameSetup e m.content m.userId m now).permissions
  | setRule path v => exact PermissionTree.rules_set ..
  | removeRules path =>
    rw [Operation.onRules, ← PermissionTree.rules_remove?, perform]
    cases e.policy.permissions.remove? path <;> rfl
  | clearRules => exact PermissionTree.rules_empty
  | rebuildRules rs => exact PermissionTree.rules_ofRules rs
  | event event => exact PolicyStore.rules_apply ..
  | listen capacity events => exact PolicyStore.rules_foldl_apply ..
  | setLimit path limit => simp only [perform]; split <;> rfl
  | removeLimits path => simp only [perform]; split <;> rfl
  | updateLimit entry =>
    simp only [perform]
    split
    · rename_i h
      exact congrArg PermissionTree.rules (PolicyStore.applyUpdate?_permissions h)
    · rfl
  | _ => rfl

/-! ## Groups -/

end Engine

/-- Some operation took the chatter out of the group. -/
def Removed (ops : List (Int × Operation σ)) (group chatter : String) : Prop :=
  ∃ now name, (now, .removeMember name chatter) ∈ ops ∧ Text.lower name = group

/-- Some operation added the chatter to the group and none after it took the chatter out. Groups go
by their names in lowercase. -/
def Joined (ops : List (Int × Operation σ)) (group chatter : String) : Prop :=
  ∃ before now name after, ops = before ++ (now, .addMember name chatter) :: after ∧
    Text.lower name = group ∧ ¬ Removed after group chatter

/-- The groups of a chatter after a history of operations. -/
def groupsAfter (ops : List (Int × Operation σ)) (chatter : String) : Set String :=
  {group | group = everyone ∨ Joined ops group chatter}

theorem removed_cons {op : Int × Operation σ} {ops : List (Int × Operation σ)}
    {group chatter : String} :
    Removed (op :: ops) group chatter ↔
      (∃ name, op.2 = .removeMember name chatter ∧ Text.lower name = group) ∨
        Removed ops group chatter := by
  constructor
  · rintro ⟨now, name, hmem, hname⟩
    rcases List.mem_cons.1 hmem with rfl | hmem
    · exact .inl ⟨name, rfl, hname⟩
    · exact .inr ⟨now, name, hmem, hname⟩
  · rintro (⟨name, hop, hname⟩ | ⟨now, name, hmem, hname⟩)
    · exact ⟨op.1, name, List.mem_cons.2 (.inl (by rw [← hop])), hname⟩
    · exact ⟨now, name, List.mem_cons_of_mem _ hmem, hname⟩

theorem joined_cons {op : Int × Operation σ} {ops : List (Int × Operation σ)}
    {group chatter : String} :
    Joined (op :: ops) group chatter ↔
      ((∃ name, op.2 = .addMember name chatter ∧ Text.lower name = group) ∧
        ¬ Removed ops group chatter) ∨ Joined ops group chatter := by
  constructor
  · rintro ⟨before, now, name, after, heq, hname, hrem⟩
    cases before with
    | nil =>
      obtain ⟨rfl, rfl⟩ := List.cons.inj heq
      exact .inl ⟨⟨name, rfl, hname⟩, hrem⟩
    | cons b before =>
      obtain ⟨rfl, rfl⟩ := List.cons.inj heq
      exact .inr ⟨before, now, name, after, rfl, hname, hrem⟩
  · rintro (⟨⟨name, hop, hname⟩, hrem⟩ | ⟨before, now, name, after, rfl, hname, hrem⟩)
    · exact ⟨[], op.1, name, ops, by rw [← hop]; rfl, hname, hrem⟩
    · exact ⟨op :: before, now, name, after, rfl, hname, hrem⟩

namespace Groups

theorem mem_addMember {g : Groups} {name chatter group c : String} :
    (group, c) ∈ (g.addMember name chatter).members ↔
      (group, c) ∈ g.members ∨ (group = Text.lower name ∧ c = chatter) := by
  unfold addMember
  split
  · rename_i h
    have hmem : (Text.lower name, chatter) ∈ g.members := by simpa [hasMember] using h
    constructor
    · exact .inl
    · rintro (h | ⟨rfl, rfl⟩)
      · exact h
      · exact hmem
  · simp

theorem mem_removeMember {g : Groups} {name chatter group c : String} :
    (group, c) ∈ (g.removeMember name chatter).members ↔
      (group, c) ∈ g.members ∧ ¬ (group = Text.lower name ∧ c = chatter) := by
  simp only [removeMember, List.mem_filter, ne_eq, Prod.mk.injEq, decide_eq_true_eq]

end Groups

namespace Engine

/-- Only the two operations on members change who is in a group. -/
theorem mem_members_perform (e : Engine C σ) (now : Int) (op : Operation σ)
    {group chatter : String} :
    (group, chatter) ∈ (e.perform now op).2.groups.members ↔
      (((group, chatter) ∈ e.groups.members ∧
        ¬ ∃ name, op = .removeMember name chatter ∧ Text.lower name = group) ∨
        ∃ name, op = .addMember name chatter ∧ Text.lower name = group) := by
  cases op with
  | line text c m =>
    have h := congrArg Groups.members (execute_sameSetup e text c m now).groups
    simpa [perform] using iff_of_eq (congrArg ((group, chatter) ∈ ·) h)
  | message m =>
    have h := congrArg Groups.members (execute_sameSetup e m.content m.userId m now).groups
    simpa [perform, process] using iff_of_eq (congrArg ((group, chatter) ∈ ·) h)
  | addMember name c =>
    simp only [perform, Groups.mem_addMember, reduceCtorEq, false_and, exists_false,
      not_false_eq_true, and_true, Operation.addMember.injEq]
    constructor
    · rintro (h | ⟨rfl, rfl⟩)
      · exact .inl h
      · exact .inr ⟨name, ⟨rfl, rfl⟩, rfl⟩
    · rintro (h | ⟨_, ⟨rfl, rfl⟩, rfl⟩)
      · exact .inl h
      · exact .inr ⟨rfl, rfl⟩
  | removeMember name c =>
    simp only [perform, Groups.mem_removeMember, reduceCtorEq, false_and, exists_false, or_false,
      Operation.removeMember.injEq, not_exists]
    refine and_congr_right fun _ => ⟨?_, ?_⟩
    · rintro h _ ⟨⟨rfl, rfl⟩, rfl⟩
      exact h ⟨rfl, rfl⟩
    · rintro h ⟨rfl, rfl⟩
      exact h name ⟨⟨rfl, rfl⟩, rfl⟩
  | setPriority name priority => simp [perform, Groups.setPriority]
  | removeRules path => simp only [perform]; split <;> simp [withPermissions]
  | setLimit path limit => simp only [perform]; split <;> simp [withUsage]
  | removeLimits path => simp only [perform]; split <;> simp [withUsage]
  | updateLimit entry => simp only [perform]; split <;> simp
  | _ => simp [perform, withPermissions, withUsage]

theorem mem_members_run (ops : List (Int × Operation σ)) (e : Engine C σ)
    {group chatter : String} :
    (group, chatter) ∈ (e.run ops).groups.members ↔
      ((group, chatter) ∈ e.groups.members ∧ ¬ Removed ops group chatter) ∨
        Joined ops group chatter := by
  induction ops generalizing e with
  | nil => simp [run, Removed, Joined]
  | cons op ops ih =>
    obtain ⟨now, op⟩ := op
    rw [run, ih, mem_members_perform, removed_cons, joined_cons, or_and_right, and_assoc, ← not_or,
      or_assoc]

theorem rules_run_from (ops : List (Int × Operation σ)) (e : Engine C σ) :
    (e.run ops).policy.permissions.rules =
      ops.foldl (fun rules op => op.2.onRules rules) e.policy.permissions.rules := by
  induction ops generalizing e with
  | nil => rfl
  | cons op ops ih =>
    obtain ⟨now, op⟩ := op
    rw [run, ih, rules_perform, List.foldl_cons]

/-! ## From the start -/

/-- An engine before anything was done to it. -/
def start (grammar : Grammar C) (behaviour : Behaviour C σ) (state : σ) : Engine C σ :=
  { grammar, behaviour, state }

variable (grammar : Grammar C) (behaviour : Behaviour C σ) (state : σ)
  (ops : List (Int × Operation σ))

/-- **The rules are those that the history left.** -/
theorem rules_run :
    ((start grammar behaviour state).run ops).policy.permissions.rules = rulesAfter ops := by
  rw [rules_run_from]
  show ops.foldl _ PermissionTree.empty.rules = _
  rw [PermissionTree.rules_empty]
  rfl

/-- **The groups are those that the history left.** -/
theorem mem_groupsOf_run {group chatter : String} :
    group ∈ ((start grammar behaviour state).run ops).groups.groupsOf chatter ↔
      group ∈ groupsAfter ops chatter := by
  rw [Groups.mem_groupsOf, mem_members_run]
  simp only [start, List.not_mem_nil, false_and, false_or]
  exact Iff.rfl

end Engine

end ChatCommands
