import Mathlib.Data.Set.Function
import ChatCommands.Policy.Store
import ChatCommands.Proofs.Permission.Rules
import ChatCommands.Proofs.Text.Segments
import ChatCommands.Proofs.Usage.Configuration

/-!
# The region of some groups

What is asked on behalf of some groups stays in a region of the trees: the nodes on the way to the names
of the groups and those below them. Two stores that agree there (`PolicyStore.AgreeOn`) cannot be told
apart by members of the groups, whatever else stands in them.

* `mem_region_below`: all that is read for one of the groups lies in the region.
* `not_mem_region`: what is addressed by a name apart from those of all groups does not.

**Theorems (`check_eq_of_agreeOn`, `agreeOn_tryUseGroups`).** Stores that agree give the same verdicts and
grant the same uses, and they agree after a use.
-/

namespace ChatCommands

/-! ## Regions -/

namespace Dotted

/-- Neither of two paths leads on to the other. -/
def Apart (a b : String) : Prop :=
  ¬ segments a <+: segments b ∧ ¬ segments b <+: segments a

instance (a b : String) : Decidable (Apart a b) :=
  inferInstanceAs (Decidable (¬ segments a <+: segments b ∧ ¬ segments b <+: segments a))

theorem apart_of_ne {a b : String} (ha : IsSegment a) (hb : IsSegment b) (hne : a ≠ b) :
    Apart a b := by
  rw [Apart, ha.segments_eq, hb.segments_eq]
  simp [hne, Ne.symm hne]

end Dotted

open Dotted

/-- The nodes on the way to the names of the groups, and those below them. -/
def region (groups : StringSet) : Set (List String) :=
  {p | ∃ group ∈ groups, p <+: segments group ∨ segments group <+: p}

section
variable {groups : StringSet} {group : String} {p : List String}

theorem mem_region_below (hgroup : group ∈ groups) {suffix : String}
    (hp : p <+: segments (below group suffix)) : p ∈ region groups := by
  rw [segments_below] at hp
  exact ⟨group, hgroup, List.prefix_or_prefix_of_prefix hp (List.prefix_append _ _)⟩

theorem not_mem_region {name : String} (h : ∀ group ∈ groups, Apart name group) (path : String) :
    segments (below name path) ∉ region groups := by
  rintro ⟨group, hgroup, hp⟩
  obtain ⟨hname, hgroup'⟩ := h group hgroup
  rw [segments_below] at hp
  rcases hp with hp | hp
  · exact hname ((List.prefix_append _ _).trans hp)
  · rcases List.prefix_or_prefix_of_prefix hp (List.prefix_append _ _) with hle | hle
    · exact hgroup' hle
    · exact hname hle

end

/-! ## Rules -/

theorem RuleMap.nearest_congr {rules rules' : RuleMap} {p : List String}
    (h : ∀ q, q <+: p → rules q = rules' q) : rules.nearest p = rules'.nearest p := by
  have hmap : p.inits.reverse.map rules = p.inits.reverse.map rules' := by
    apply List.map_congr_left
    intro q hq
    rw [List.mem_reverse, List.mem_inits] at hq
    exact h q hq
  rw [nearest, nearest, hmap]

namespace PermissionTree

variable {t t' : PermissionTree} {groups : StringSet}

/-- Trees whose rules agree on the region give members of the groups the same verdicts. -/
theorem check_eq_of_agreeOn (h : Set.EqOn t.rules t'.rules (region groups)) {group : String}
    (hgroup : group ∈ groups) (suffix : String) :
    t.check (below group suffix) = t'.check (below group suffix) := by
  rw [check_eq_nearest, check_eq_nearest]
  apply RuleMap.nearest_congr
  intro q hq
  exact h (mem_region_below hgroup hq)

theorem checkGroups_eq_of_agreeOn (h : Set.EqOn t.rules t'.rules (region groups)) (suffix : String) :
    t.checkGroups groups suffix = t'.checkGroups groups suffix := by
  unfold checkGroups
  congr 1
  apply List.map_congr_left
  intro group hgroup
  exact check_eq_of_agreeOn h hgroup suffix

theorem checkGroupsAny_eq_of_agreeOn (h : Set.EqOn t.rules t'.rules (region groups))
    (suffixes : List String) : t.checkGroupsAny groups suffixes = t'.checkGroupsAny groups suffixes := by
  unfold checkGroupsAny
  congr 1
  apply List.map_congr_left
  intro suffix _
  exact checkGroups_eq_of_agreeOn h suffix

end PermissionTree

/-! ## Limits and histories -/

namespace Accounts

/-- The accounts have the same limits and histories in the region `R`. -/
structure AgreeOn (R : Set (List String)) (as bs : Accounts) : Prop where
  limit : Set.EqOn as.limit bs.limit R
  ledger : Set.EqOn as.ledger bs.ledger R

variable {R : Set (List String)} {as bs : Accounts}

theorem AgreeOn.refl (as : Accounts) : as.AgreeOn R as :=
  ⟨Set.eqOn_refl _ _, Set.eqOn_refl _ _⟩

theorem AgreeOn.charge (take : UsageLimit → UsageLedger → Bool × UsageLedger)
    (h : as.AgreeOn R bs) {p : List String} (hp : p ∈ R) :
    (as.charge take p).1 = (bs.charge take p).1 ∧
      (as.charge take p).2.AgreeOn R (bs.charge take p).2 := by
  have hlimit := h.limit hp
  cases has : as.limit p with
  | none =>
    rw [charge_of_limit_eq_none has, charge_of_limit_eq_none (hlimit.symm.trans has)]
    exact ⟨rfl, h⟩
  | some limit =>
    have hbs : bs.limit p = some limit := hlimit.symm.trans has
    have hledger := h.ledger hp
    refine ⟨?_, fun q hq => ?_, fun q hq => ?_⟩
    · rw [fst_charge has, fst_charge hbs, hledger]
    · rw [limit_charge, limit_charge]
      exact h.limit hq
    · by_cases hqp : q = p
      · subst hqp
        rw [ledger_charge_self has, ledger_charge_self hbs, hledger]
      · rw [ledger_charge_of_ne has hqp, ledger_charge_of_ne hbs hqp]
        exact h.ledger hq

theorem AgreeOn.chargeFirst (take : UsageLimit → UsageLedger → Bool × UsageLedger)
    (h : as.AgreeOn R bs) {ps : List (List String)} (hps : ∀ p ∈ ps, p ∈ R) :
    (as.chargeFirst take ps).1 = (bs.chargeFirst take ps).1 ∧
      (as.chargeFirst take ps).2.AgreeOn R (bs.chargeFirst take ps).2 := by
  induction ps generalizing as bs with
  | nil => exact ⟨rfl, h⟩
  | cons p ps ih =>
    obtain ⟨hused, hrest⟩ := h.charge take (hps p List.mem_cons_self)
    rw [Accounts.chargeFirst, Accounts.chargeFirst]
    generalize as.charge take p = result at hused hrest
    generalize bs.charge take p = result' at hused hrest
    obtain ⟨used, as'⟩ := result
    obtain ⟨used', bs'⟩ := result'
    obtain rfl : used = used' := hused
    cases used with
    | true => exact ⟨rfl, hrest⟩
    | false => exact ih hrest fun q hq => hps q (List.mem_cons_of_mem _ hq)

end Accounts

namespace UsageTree

variable {t t' : UsageTree} {groups : StringSet}

theorem agreeOn_tryUse (h : t.accounts.AgreeOn (region groups) t'.accounts) {group : String}
    (hgroup : group ∈ groups) (key suffix : String) (now : Int) :
    (t.tryUse key (below group suffix) now).1 = (t'.tryUse key (below group suffix) now).1 ∧
      (t.tryUse key (below group suffix) now).2.accounts.AgreeOn (region groups)
        (t'.tryUse key (below group suffix) now).2.accounts := by
  rw [tryUse_eq, tryUse_eq, fst_tryUseBy, fst_tryUseBy, accounts_tryUseBy, accounts_tryUseBy]
  apply h.chargeFirst
  intro p hp
  rw [List.mem_reverse, List.mem_inits] at hp
  exact mem_region_below hgroup hp

/-- **Uses of members** end alike, and leave trees that agree on the region still. -/
theorem agreeOn_tryUseGroups (h : t.accounts.AgreeOn (region groups) t'.accounts)
    (key suffix : String) (now : Int) :
    (t.tryUseGroups key groups suffix now).1 = (t'.tryUseGroups key groups suffix now).1 ∧
      (t.tryUseGroups key groups suffix now).2.accounts.AgreeOn (region groups)
        (t'.tryUseGroups key groups suffix now).2.accounts := by
  have hall : ∀ names : List String, (∀ name ∈ names, name ∈ groups) → ∀ t t' : UsageTree,
      t.accounts.AgreeOn (region groups) t'.accounts →
      (t.tryUseInOrder key suffix now names).1 = (t'.tryUseInOrder key suffix now names).1 ∧
        (t.tryUseInOrder key suffix now names).2.accounts.AgreeOn (region groups)
          (t'.tryUseInOrder key suffix now names).2.accounts := by
    intro names
    induction names with
    | nil => exact fun _ t t' h => ⟨rfl, h⟩
    | cons name names ih =>
      intro hnames t t' h
      obtain ⟨hused, hrest⟩ := agreeOn_tryUse h (hnames name List.mem_cons_self) key suffix now
      rw [tryUseInOrder, tryUseInOrder]
      generalize t.tryUse key (below name suffix) now = result at hused hrest
      generalize t'.tryUse key (below name suffix) now = result' at hused hrest
      obtain ⟨used, t₁⟩ := result
      obtain ⟨used', t₁'⟩ := result'
      obtain rfl : used = used' := hused
      cases used with
      | true => exact ⟨rfl, hrest⟩
      | false => exact ih (fun name' hname' => hnames name' (List.mem_cons_of_mem _ hname')) _ _ hrest
  exact hall groups.members (fun _ hname => hname) t t' h

variable {R : Set (List String)}

theorem agreeOn_set (h : t.accounts.AgreeOn R t'.accounts) (path : String) (l : UsageLimit) :
    (t.set path l).accounts.AgreeOn R (t'.set path l).accounts where
  limit q hq := by
    rw [limit_set, limit_set]
    show (if _ then _ else _) = if _ then _ else _
    rw [h.limit hq]
  ledger q hq := by
    rw [ledger_set, ledger_set]
    exact h.ledger hq

/-- A limit outside the region may be left out. -/
theorem agreeOn_set_left (h : t.accounts.AgreeOn R t'.accounts) {path : String}
    (hpath : segments path ∉ R) (l : UsageLimit) :
    (t.set path l).accounts.AgreeOn R t'.accounts where
  limit q hq := by
    rw [limit_set]
    show (if _ then _ else _) = _
    rw [if_neg, h.limit hq]
    rintro ⟨-, rfl⟩
    exact hpath hq
  ledger q hq := by
    rw [ledger_set]
    exact h.ledger hq

end UsageTree

/-! ## Stores -/

/-- The stores know the same group names, and agree in the region `R`. -/
structure PolicyStore.AgreeOn (R : Set (List String)) (store store' : PolicyStore) : Prop where
  groupNames : store'.groupNames = store.groupNames
  rules : Set.EqOn store.permissions.rules store'.permissions.rules R
  accounts : store.usage.accounts.AgreeOn R store'.usage.accounts

theorem PolicyStore.AgreeOn.refl (R : Set (List String)) (store : PolicyStore) :
    store.AgreeOn R store :=
  ⟨rfl, Set.eqOn_refl _ _, .refl _⟩

/-! ## Leaving out the entries of other groups -/

namespace GroupTable

/-- The table knows the group, and it is none of these. -/
def isForeign (table : GroupTable) (groups : StringSet) (groupId : String) : Bool :=
  (Assoc.get? groupId table).any fun name => decide (name ∉ groups)

/-- The names of all other groups are apart from those of these. -/
def Separates (table : GroupTable) (groups : StringSet) : Prop :=
  ∀ row ∈ table, row.2 ∉ groups → ∀ group ∈ groups, Apart row.2 group

instance (table : GroupTable) (groups : StringSet) : Decidable (table.Separates groups) :=
  inferInstanceAs (Decidable (∀ row ∈ table, row.2 ∉ groups → ∀ group ∈ groups.members,
    Apart row.2 group))

theorem separates_of_isSegment {table : GroupTable} {groups : StringSet}
    (htable : ∀ row ∈ table, IsSegment row.2) (hgroups : ∀ group ∈ groups, IsSegment group) :
    table.Separates groups := by
  intro row hrow hforeign group hgroup
  refine apart_of_ne (htable row hrow) (hgroups group hgroup) fun heq => hforeign ?_
  rw [heq]
  exact hgroup

/-- **Entries of other groups lie outside the region.** -/
theorem not_mem_region_of_isForeign {table : GroupTable} {groups : StringSet}
    (h : table.Separates groups) {groupId path place : String}
    (hforeign : table.isForeign groups groupId = true)
    (hplace : table.place? groupId path = some place) : segments place ∉ region groups := by
  rw [place?, Option.map_eq_some_iff] at hplace
  obtain ⟨name, hname, rfl⟩ := hplace
  rw [isForeign, hname, Option.any_some, decide_eq_true_eq] at hforeign
  exact not_mem_region (h _ (Assoc.mem_of_get?_eq_some hname) hforeign) _

end GroupTable

/-- Folding over the entries of a list that place themselves, and over those kept of them, leads to
related results if the entries left out do not matter. -/
theorem rel_foldl_filter {ε α τ : Type} (Rel : τ → τ → Prop) {step : τ → α → τ} {place : ε → Option α}
    {keep : ε → Bool} (hboth : ∀ a t t', Rel t t' → Rel (step t a) (step t' a))
    (hleft : ∀ e a, keep e = false → place e = some a → ∀ t t', Rel t t' → Rel (step t a) t')
    (es : List ε) {t t' : τ} (h : Rel t t') :
    Rel ((es.filterMap place).foldl step t) (((es.filter keep).filterMap place).foldl step t') := by
  induction es generalizing t t' with
  | nil => exact h
  | cons e es ih =>
    cases hplace : place e with
    | none =>
      cases hkeep : keep e with
      | true => simpa [hplace, hkeep] using ih h
      | false => simpa [hplace, hkeep] using ih h
    | some a =>
      cases hkeep : keep e with
      | true => simpa [hplace, hkeep] using ih (hboth a t t' h)
      | false => simpa [hplace, hkeep] using ih (hleft e a hkeep hplace t t' h)

namespace PolicySnapshot

/-- The snapshot without the entries of all other groups. -/
def own (s : PolicySnapshot) (groups : StringSet) : PolicySnapshot :=
  { s with
    permissions := s.permissions.filter fun e => !s.groupTable.isForeign groups e.groupId
    policies := s.policies.filter fun e => !s.groupTable.isForeign groups e.groupId }

/-- **A snapshot without the entries of other groups** describes a store that agrees with the one of
the whole snapshot. -/
theorem agreeOn_own {s : PolicySnapshot} {groups : StringSet} (h : s.groupTable.Separates groups) :
    s.toStore.AgreeOn (region groups) (s.own groups).toStore where
  groupNames := rfl
  rules := by
    show Set.EqOn (PermissionTree.ofRules s.rules).rules
      (PermissionTree.ofRules (s.own groups).rules).rules (region groups)
    rw [PermissionTree.rules_ofRules, PermissionTree.rules_ofRules]
    refine rel_foldl_filter (fun rules rules' : RuleMap => Set.EqOn rules rules' (region groups))
      (fun a rules rules' heq q hq => ?_) (fun e a hforeign hplace rules rules' heq q hq => ?_)
      s.permissions (Set.eqOn_refl _ _)
    · show (if _ then _ else _) = if _ then _ else _
      rw [heq hq]
    · obtain ⟨place, hplace', rfl⟩ := Option.map_eq_some_iff.1 hplace
      have hout := GroupTable.not_mem_region_of_isForeign h (by simpa using hforeign) hplace'
      show (if _ then _ else _) = _
      rw [if_neg, heq hq]
      rintro rfl
      exact hout hq
  accounts := by
    refine rel_foldl_filter
      (fun t t' : UsageTree => t.accounts.AgreeOn (region groups) t'.accounts)
      (fun a t t' hagree => ?_) (fun e a hforeign hplace t t' hagree => ?_) s.policies (.refl _)
    · exact UsageTree.agreeOn_set hagree a.1 a.2
    · obtain ⟨place, hplace', rfl⟩ := Option.map_eq_some_iff.1 hplace
      have hout := GroupTable.not_mem_region_of_isForeign h (by simpa using hforeign) hplace'
      exact UsageTree.agreeOn_set_left hagree hout e.limit

end PolicySnapshot

namespace PolicyStore

/-- An update sets its limit where its group is known. -/
theorem apply_update_of_place?_eq_some {store : PolicyStore} {entry : UsageEntry} {place : String}
    (h : store.groupNames.place? entry.groupId entry.path = some place) :
    store.apply (.singlePolicyUpdate entry) =
      { store with usage := store.usage.set place entry.limit } := by
  simp only [apply, applyUpdate?, h, UsageTree.set, Option.bind_eq_bind, Option.bind_some]
  cases store.usage.set? place entry.limit <;> rfl

theorem apply_update_of_place?_eq_none {store : PolicyStore} {entry : UsageEntry}
    (h : store.groupNames.place? entry.groupId entry.path = none) :
    store.apply (.singlePolicyUpdate entry) = store := by
  simp [apply, applyUpdate?, h]

theorem groupNames_apply_update (store : PolicyStore) (entry : UsageEntry) :
    (store.apply (.singlePolicyUpdate entry)).groupNames = store.groupNames := by
  cases h : store.groupNames.place? entry.groupId entry.path with
  | none => rw [apply_update_of_place?_eq_none h]
  | some place => rw [apply_update_of_place?_eq_some h]

variable {groups : StringSet} {store store' : PolicyStore}

theorem agreeOn_update (h : store.AgreeOn (region groups) store') (entry : UsageEntry) :
    (store.apply (.singlePolicyUpdate entry)).AgreeOn (region groups)
      (store'.apply (.singlePolicyUpdate entry)) := by
  have hnames := h.groupNames
  cases hplace : store.groupNames.place? entry.groupId entry.path with
  | none =>
    rw [apply_update_of_place?_eq_none hplace,
      apply_update_of_place?_eq_none (by rw [hnames, hplace])]
    exact h
  | some place =>
    rw [apply_update_of_place?_eq_some hplace,
      apply_update_of_place?_eq_some (by rw [hnames, hplace])]
    exact ⟨hnames, h.rules, UsageTree.agreeOn_set h.accounts place entry.limit⟩

/-- **An update for another group** may be left out. -/
theorem agreeOn_update_left (h : store.AgreeOn (region groups) store')
    (hseparates : store.groupNames.Separates groups) {entry : UsageEntry}
    (hforeign : store.groupNames.isForeign groups entry.groupId = true) :
    (store.apply (.singlePolicyUpdate entry)).AgreeOn (region groups) store' := by
  cases hplace : store.groupNames.place? entry.groupId entry.path with
  | none =>
    rw [apply_update_of_place?_eq_none hplace]
    exact h
  | some place =>
    have hout := GroupTable.not_mem_region_of_isForeign hseparates hforeign hplace
    rw [apply_update_of_place?_eq_some hplace]
    exact ⟨h.groupNames, h.rules, UsageTree.agreeOn_set_left h.accounts hout entry.limit⟩

end PolicyStore

end ChatCommands
