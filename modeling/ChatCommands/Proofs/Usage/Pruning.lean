import ChatCommands.Proofs.Usage.Configuration
import ChatCommands.Proofs.Usage.Forgetting

/-!
# Pruning cannot be noticed

A ledger drops the buffers of idle chatters at moments that depend on how many other chatters there
are. This file compares a usage tree with one whose ledgers never do so.

* `UsageLedger.Mirrors`: what a ledger holds is what is left of a ledger that is not pruned, without
  uses that have left the window.
* `Accounts.Mirrors`: the same of whole trees. Nodes without a limit have no history.

**Theorem (`answers_eq_answersUnpruned`).** Both trees give the same answers to all operations, changes
of the configuration included, unless an operation raises the window of a node that has a limit
already. A wider window would reach back to what was dropped.
-/

namespace ChatCommands

/-! ## Ledgers -/

namespace UsageLedger

/-- How a ledger takes a use that is never pruned. -/
def offerUnpruned (key : String) (now : Int) (limit : UsageLimit) (l : UsageLedger) :
    Bool × UsageLedger :=
  l.tryUseUnpruned limit key now

/-- `l` holds what is left of `l'`, without uses that have left the window. -/
structure Mirrors (l l' : UsageLedger) (now window : Int) : Prop where
  records : l.Records (fun key => (l'.buffer key).uses) now window
  valid (key : String) : (l'.buffer key).Valid

theorem mirrors_empty (now window : Int) : Mirrors {} {} now window where
  records := records_empty now window
  valid _ := UsageBuffer.valid_empty

theorem Mirrors.later {l l' : UsageLedger} {now now' window window' : Int}
    (h : l.Mirrors l' now window) (hnow : now ≤ now') (hwindow : window' ≤ window) :
    l.Mirrors l' now' window' where
  records := h.records.later hnow hwindow
  valid := h.valid

/-- **Both ledgers take the same uses**, and mirror each other afterwards. -/
theorem Mirrors.offer {l l' : UsageLedger} {limit : UsageLimit} {now : Int}
    (h : l.Mirrors l' now limit.window) (key : String) :
    (l.offer key now limit).1 = (l'.offerUnpruned key now limit).1 ∧
      (l.offer key now limit).2.Mirrors (l'.offerUnpruned key now limit).2 now limit.window := by
  have hpruned := h.records.prune
  obtain ⟨hanswer, hforgets⟩ := (hpruned.forgets key).grant
  obtain ⟨hanswer', hvalid', huses'⟩ :=
    UsageBuffer.tryUse_resize (h.valid key) (h.records.sorted key) limit now
  have hbuffer := l'.buffer_tryUseUnpruned limit key
  refine ⟨?_, ?_, fun key' => ?_⟩
  · show (l.tryUse limit key now).1 = (l'.tryUseUnpruned limit key now).1
    rw [tryUse_eq, hpruned.tryUseUnpruned_fst, ← hanswer, ← hanswer']
    rfl
  · -- The history of the chatter goes on as the limit has it, the others stay.
    have hhistory : (fun key' => ((l'.tryUseUnpruned limit key now).2.buffer key').uses) =
        Function.update (fun key => (l'.buffer key).uses) key
          (limit.grant now (l'.buffer key).uses).2 := by
      funext key'
      rw [hbuffer]
      by_cases hkey : key = key'
      · subst hkey
        rw [if_pos rfl, Function.update_self, huses']
      · rw [if_neg hkey, Function.update_of_ne (Ne.symm hkey)]
    show (l.tryUse limit key now).2.Records
      (fun key' => ((l'.tryUseUnpruned limit key now).2.buffer key').uses) now limit.window
    rw [hhistory, tryUse_eq]
    exact hpruned.tryUseUnpruned key (grant_sublist limit now _) hforgets
  · show ((l'.tryUseUnpruned limit key now).2.buffer key').Valid
    rw [hbuffer]
    split_ifs
    · exact hvalid'
    · exact h.valid key'

end UsageLedger

/-! ## Accounts -/

namespace Accounts

/-- The accounts `as` and `bs` have the same nodes and limits. Their ledgers mirror each other where
there is a limit, and are empty elsewhere. -/
structure Mirrors (as bs : Accounts) (now : Int) : Prop where
  nodes (p : List String) : (as p).map Account.limit = (bs p).map Account.limit
  unlimited {p : List String} (h : as.limit p = none) : as.ledger p = {} ∧ bs.ledger p = {}
  limited {p : List String} {limit : UsageLimit} (h : as.limit p = some limit) :
    (as.ledger p).Mirrors (bs.ledger p) now limit.window

variable {as bs : Accounts} {now : Int}

theorem Mirrors.limit_eq (h : as.Mirrors bs now) : bs.limit = as.limit := by
  have hlimit : ∀ (cs : Accounts) p, cs.limit p = ((cs p).map Account.limit).bind id := by
    intro cs p
    unfold limit
    cases cs p <;> rfl
  funext p
  rw [hlimit, hlimit, h.nodes]

theorem mirrors_empty (now : Int) : Mirrors empty empty now where
  nodes _ := rfl
  unlimited _ := ⟨ledger_empty _, ledger_empty _⟩
  limited h := by
    rw [limit_empty] at h
    cases h

theorem Mirrors.later (h : as.Mirrors bs now) {now' : Int} (hnow : now ≤ now') :
    as.Mirrors bs now' where
  nodes := h.nodes
  unlimited := h.unlimited
  limited hlimit := (h.limited hlimit).later hnow (Int.le_refl _)

/-! ### Uses -/

theorem Mirrors.charge (h : as.Mirrors bs now) (key : String) (p : List String) :
    (as.charge (UsageLedger.offer key now) p).1 =
        (bs.charge (UsageLedger.offerUnpruned key now) p).1 ∧
      (as.charge (UsageLedger.offer key now) p).2.Mirrors
        (bs.charge (UsageLedger.offerUnpruned key now) p).2 now := by
  have hbs := congrFun h.limit_eq p
  cases hlimit : as.limit p with
  | none =>
    rw [charge_of_limit_eq_none hlimit, charge_of_limit_eq_none (hbs.trans hlimit)]
    exact ⟨rfl, h⟩
  | some limit =>
    obtain ⟨hanswer, hledger⟩ := (h.limited hlimit).offer key
    rw [hlimit] at hbs
    refine ⟨?_, fun q => ?_, fun {q} hq => ?_, fun {q} {limit'} hq => ?_⟩
    · rw [fst_charge hlimit, fst_charge hbs, hanswer]
    · rw [Accounts.charge, hlimit, Accounts.charge, hbs]
      by_cases hqp : q = p
      · subst hqp
        simp
      · simpa [hqp] using h.nodes q
    · rw [limit_charge] at hq
      have hqp : q ≠ p := by
        rintro rfl
        rw [hlimit] at hq
        cases hq
      rw [ledger_charge_of_ne hlimit hqp, ledger_charge_of_ne hbs hqp]
      exact h.unlimited hq
    · rw [limit_charge] at hq
      by_cases hqp : q = p
      · subst hqp
        obtain rfl := Option.some.inj (hlimit.symm.trans hq)
        rw [ledger_charge_self hlimit, ledger_charge_self hbs]
        exact hledger
      · rw [ledger_charge_of_ne hlimit hqp, ledger_charge_of_ne hbs hqp]
        exact h.limited hq

theorem Mirrors.chargeFirst (h : as.Mirrors bs now) (key : String) (ps : List (List String)) :
    (as.chargeFirst (UsageLedger.offer key now) ps).1 =
        (bs.chargeFirst (UsageLedger.offerUnpruned key now) ps).1 ∧
      (as.chargeFirst (UsageLedger.offer key now) ps).2.Mirrors
        (bs.chargeFirst (UsageLedger.offerUnpruned key now) ps).2 now := by
  induction ps generalizing as bs with
  | nil => exact ⟨rfl, h⟩
  | cons p ps ih =>
    have hcharge := h.charge key p
    rw [Accounts.chargeFirst, Accounts.chargeFirst]
    cases hstep : as.charge (UsageLedger.offer key now) p with
    | mk used as' =>
      cases hstep' : bs.charge (UsageLedger.offerUnpruned key now) p with
      | mk used' bs' =>
        rw [hstep, hstep'] at hcharge
        obtain ⟨rfl, hcharge⟩ := hcharge
        cases used with
        | true => exact ⟨rfl, hcharge⟩
        | false => exact ih hcharge

/-! ### Changes of the limits -/

theorem Mirrors.set (h : as.Mirrors bs now) {p : List String} {l : UsageLimit}
    (hnarrow : ∀ old ∈ as.limit p, l.window ≤ old.window) :
    (as.set p l).Mirrors (bs.set p l) now where
  nodes q := by
    unfold Accounts.set
    split_ifs with hqp hprefix
    · rfl
    · have := h.nodes q
      cases ha : as q <;> cases hb : bs q <;> simp_all
    · exact h.nodes q
  unlimited {q} hq := by
    rw [limit_set] at hq
    split_ifs at hq
    rw [ledger_set, ledger_set]
    exact h.unlimited hq
  limited {q} {limit} hq := by
    rw [limit_set] at hq
    rw [ledger_set, ledger_set]
    split_ifs at hq with hqp
    · obtain rfl := Option.some.inj hq
      subst hqp
      cases hold : as.limit q with
      | none =>
        obtain ⟨ha, hb⟩ := h.unlimited hold
        rw [ha, hb]
        exact UsageLedger.mirrors_empty now l.window
      | some old => exact (h.limited hold).later (Int.le_refl _) (hnarrow old hold)
    · exact h.limited hq

theorem Mirrors.remove (h : as.Mirrors bs now) (p : List String) :
    (as.remove p).Mirrors (bs.remove p) now where
  nodes q := by
    unfold Accounts.remove
    split_ifs
    · rfl
    · exact h.nodes q
  unlimited {q} hq := by
    rw [limit_remove] at hq
    rw [ledger_remove, ledger_remove]
    split_ifs at hq ⊢
    · exact ⟨rfl, rfl⟩
    · exact h.unlimited hq
  limited {q} {limit} hq := by
    rw [limit_remove] at hq
    rw [ledger_remove, ledger_remove]
    split_ifs at hq ⊢
    exact h.limited hq

theorem Mirrors.change (h : as.Mirrors bs now) {c : LimitChange}
    (hnarrow : LimitMap.Narrows as.limit c) :
    (as.change c).1 = (bs.change c).1 ∧ (as.change c).2.Mirrors (bs.change c).2 now := by
  cases c with
  | set path limit =>
    unfold Accounts.change
    by_cases hroot : Dotted.segments path = []
    · simpa [hroot] using h
    · simpa [hroot] using h.set hnarrow
  | remove path =>
    have hsome : (as (Dotted.segments path)).isSome = (bs (Dotted.segments path)).isSome := by
      rw [← Option.isSome_map, h.nodes, Option.isSome_map]
    rw [change_remove, change_remove, hsome]
    exact ⟨rfl, h.remove _⟩

end Accounts

/-! ## Runs -/

/-- What can be done to a usage tree. -/
inductive UsageOperation where
  | change (c : LimitChange)
  | clear
  | use (key path : String) (now : Int)
  | useGroups (key : String) (groups : StringSet) (suffix : String) (now : Int)

namespace UsageOperation

/-- The instant of a use. -/
def instant? : UsageOperation → Option Int
  | use _ _ now => some now
  | useGroups _ _ _ now => some now
  | _ => none

/-- The limits after an operation. -/
def onLimits (limits : LimitMap) : UsageOperation → LimitMap
  | change c => limits.change c
  | clear => .empty
  | _ => limits

/-- The operation does not raise the window of a node that has a limit already. -/
def Narrows (limits : LimitMap) : UsageOperation → Prop
  | change c => limits.Narrows c
  | _ => True

instance (limits : LimitMap) : (op : UsageOperation) → Decidable (op.Narrows limits)
  | change c => inferInstanceAs (Decidable (limits.Narrows c))
  | clear | use _ _ _ | useGroups _ _ _ _ => inferInstanceAs (Decidable True)

end UsageOperation

/-- None of the operations, one after the other, raises the window of a node that has a limit
already. -/
def NeverWidens (limits : LimitMap) : List UsageOperation → Prop
  | [] => True
  | op :: ops => op.Narrows limits ∧ NeverWidens (op.onLimits limits) ops

instance NeverWidens.decidable : (limits : LimitMap) → (ops : List UsageOperation) →
    Decidable (NeverWidens limits ops)
  | _, [] => inferInstanceAs (Decidable True)
  | limits, op :: ops =>
    have := decidable (op.onLimits limits) ops
    inferInstanceAs (Decidable (op.Narrows limits ∧ NeverWidens (op.onLimits limits) ops))

namespace UsageTree

/-- Performs an operation and gives its answer. Clearing the tree always succeeds. -/
def perform (t : UsageTree) : UsageOperation → Bool × UsageTree
  | .change c => t.change c
  | .clear => (true, empty)
  | .use key path now => t.tryUse key path now
  | .useGroups key groups suffix now => t.tryUseGroups key groups suffix now

/-- Offers a use of `suffix` to the groups, in order, up to the first that takes it. -/
def tryUseInOrderBy (take : UsageLimit → UsageLedger → Bool × UsageLedger) (t : UsageTree)
    (suffix : String) : List String → Bool × UsageTree
  | [] => (false, t)
  | group :: groups =>
    let (used, t) := t.tryUseBy take (Dotted.below group suffix)
    if used then (true, t) else t.tryUseInOrderBy take suffix groups

/-- Performs an operation on a tree whose ledgers are never pruned. -/
def performUnpruned (t : UsageTree) : UsageOperation → Bool × UsageTree
  | .change c => t.change c
  | .clear => (true, empty)
  | .use key path now => t.tryUseBy (UsageLedger.offerUnpruned key now) path
  | .useGroups key groups suffix now =>
    t.tryUseInOrderBy (UsageLedger.offerUnpruned key now) suffix groups.members

/-- The answers to operations, one after the other. -/
def answers (t : UsageTree) : List UsageOperation → List Bool
  | [] => []
  | op :: ops => (t.perform op).1 :: (t.perform op).2.answers ops

/-- The answers of a tree whose ledgers are never pruned. -/
def answersUnpruned (t : UsageTree) : List UsageOperation → List Bool
  | [] => []
  | op :: ops => (t.performUnpruned op).1 :: (t.performUnpruned op).2.answersUnpruned ops

section
variable {t t' : UsageTree} {now : Int}

theorem mirrors_tryUse (h : t.accounts.Mirrors t'.accounts now) (key path : String) :
    (t.tryUse key path now).1 = (t'.tryUseBy (UsageLedger.offerUnpruned key now) path).1 ∧
      (t.tryUse key path now).2.accounts.Mirrors
        (t'.tryUseBy (UsageLedger.offerUnpruned key now) path).2.accounts now := by
  rw [tryUse_eq, fst_tryUseBy, fst_tryUseBy, accounts_tryUseBy, accounts_tryUseBy]
  exact h.chargeFirst key (Dotted.segments path).inits.reverse

theorem mirrors_tryUseInOrder (h : t.accounts.Mirrors t'.accounts now) (key suffix : String)
    (groups : List String) :
    (t.tryUseInOrder key suffix now groups).1 =
        (t'.tryUseInOrderBy (UsageLedger.offerUnpruned key now) suffix groups).1 ∧
      (t.tryUseInOrder key suffix now groups).2.accounts.Mirrors
        (t'.tryUseInOrderBy (UsageLedger.offerUnpruned key now) suffix groups).2.accounts now := by
  induction groups generalizing t t' with
  | nil => exact ⟨rfl, h⟩
  | cons group groups ih =>
    have hfirst := mirrors_tryUse h key (Dotted.below group suffix)
    rw [tryUseInOrder, tryUseInOrderBy]
    cases hstep : t.tryUse key (Dotted.below group suffix) now with
    | mk used t₁ =>
      cases hstep' : t'.tryUseBy (UsageLedger.offerUnpruned key now)
          (Dotted.below group suffix) with
      | mk used' t₁' =>
        rw [hstep, hstep'] at hfirst
        obtain ⟨rfl, hmirrors⟩ := hfirst
        cases used with
        | true => exact ⟨rfl, hmirrors⟩
        | false => exact ih hmirrors

/-- **One operation**: both trees give the same answer and mirror each other afterwards. -/
theorem mirrors_perform (h : t.accounts.Mirrors t'.accounts now) {op : UsageOperation}
    (hinstant : ∀ now' ∈ op.instant?, now ≤ now') (hnarrow : op.Narrows t.accounts.limit) :
    (t.perform op).1 = (t'.performUnpruned op).1 ∧
      (t.perform op).2.accounts.Mirrors (t'.performUnpruned op).2.accounts
        (op.instant?.getD now) := by
  cases op with
  | change c =>
    rw [perform, performUnpruned, fst_change, fst_change, accounts_change_snd, accounts_change_snd]
    exact h.change hnarrow
  | clear =>
    refine ⟨rfl, ?_⟩
    show empty.accounts.Mirrors empty.accounts now
    rw [accounts_empty]
    exact Accounts.mirrors_empty now
  | use key path now' => exact mirrors_tryUse (h.later (hinstant now' rfl)) key path
  | useGroups key groups suffix now' =>
    exact mirrors_tryUseInOrder (h.later (hinstant now' rfl)) key suffix groups.members

end

/-- Operations leave the limits that they should. -/
theorem limit_perform (t : UsageTree) (op : UsageOperation) :
    (t.perform op).2.accounts.limit = op.onLimits t.accounts.limit := by
  cases op with
  | change c =>
    show (t.change c).2.accounts.limit = _
    rw [accounts_change_snd, Accounts.limit_change]
    rfl
  | clear => exact limit_empty
  | use key path now => exact limit_tryUse ..
  | useGroups key groups suffix now =>
    show (t.tryUseInOrder key suffix now groups.members).2.accounts.limit = t.accounts.limit
    generalize groups.members = names
    induction names generalizing t with
    | nil => rfl
    | cons group names ih =>
      have hlimit := t.limit_tryUse key (Dotted.below group suffix) now
      rw [tryUseInOrder]
      cases hstep : t.tryUse key (Dotted.below group suffix) now with
      | mk used t₁ =>
        rw [hstep] at hlimit
        cases used with
        | true => exact hlimit
        | false => exact (ih t₁).trans hlimit

/-- Trees that mirror each other answer alike. -/
theorem answers_eq_of_mirrors {ops : List UsageOperation} {t t' : UsageTree} {now : Int}
    (h : t.accounts.Mirrors t'.accounts now)
    (hsorted : (now :: ops.filterMap UsageOperation.instant?).Pairwise (· ≤ ·))
    (hnarrow : NeverWidens t.accounts.limit ops) : t.answers ops = t'.answersUnpruned ops := by
  induction ops generalizing t t' now with
  | nil => rfl
  | cons op ops ih =>
    obtain ⟨hlater, hrest⟩ := List.pairwise_cons.1 hsorted
    have hinstant : ∀ now' ∈ op.instant?, now ≤ now' := fun now' hnow' =>
      hlater now' (List.mem_filterMap.2 ⟨op, List.mem_cons_self, hnow'⟩)
    -- The clock stands at the last use, at `now` if this operation is none.
    have hclock : (op.instant?.getD now :: ops.filterMap UsageOperation.instant?).Pairwise
        (· ≤ ·) := by
      cases hop : op.instant? with
      | none => rwa [List.filterMap_cons_none hop] at hsorted
      | some now' => rwa [List.filterMap_cons_some hop] at hrest
    obtain ⟨hanswer, hmirrors⟩ := mirrors_perform h hinstant hnarrow.1
    have hnarrow' : NeverWidens (t.perform op).2.accounts.limit ops := by
      rw [limit_perform]
      exact hnarrow.2
    rw [answers, answersUnpruned, hanswer, ih hmirrors hclock hnarrow']

/-- **Pruning cannot be noticed**, whatever is done to a tree, in order of time, without raising the
window of a node that has a limit. -/
theorem answers_eq_answersUnpruned {ops : List UsageOperation}
    (hsorted : (ops.filterMap UsageOperation.instant?).Pairwise (· ≤ ·))
    (hnarrow : NeverWidens .empty ops) : empty.answers ops = empty.answersUnpruned ops := by
  have hstart : ∀ now, empty.accounts.Mirrors empty.accounts now := by
    intro now
    rw [accounts_empty]
    exact Accounts.mirrors_empty now
  rw [← limit_empty] at hnarrow
  -- The clock starts at the first use.
  cases hinstants : ops.filterMap UsageOperation.instant? with
  | nil =>
    refine answers_eq_of_mirrors (hstart 0) ?_ hnarrow
    rw [hinstants]
    exact List.pairwise_singleton _ _
  | cons first rest =>
    refine answers_eq_of_mirrors (hstart first) ?_ hnarrow
    rw [hinstants] at hsorted ⊢
    refine List.pairwise_cons.2 ⟨fun s hs => ?_, hsorted⟩
    rcases List.mem_cons.1 hs with rfl | hs
    · exact Int.le_refl _
    · exact (List.pairwise_cons.1 hsorted).1 s hs

end UsageTree

/-! ## A run in which a ledger is pruned -/

namespace Sample

open UsageTree

/-- More chatters than a ledger holds before it is pruned. Each has room for one use, and the first
ones are idle when the last ones come. -/
def crowd : List UsageOperation :=
  .change (.set "everyone.tts" ⟨1, 10⟩) ::
    (List.range 70).map fun i => .use (String.ofList (List.replicate i 'k')) "everyone.tts" i

/-- The crowd, and its first chatter once more under a narrower window. -/
def returning : List UsageOperation :=
  crowd ++ [.change (.set "everyone.tts" ⟨2, 5⟩), .use "" "everyone.tts" 70,
    .change (.remove "everyone"), .change (.set "everyone.tts" ⟨1, 60⟩),
    .use "" "everyone.tts" 71, .use "" "everyone.tts" 72]

/-- The chatters cannot tell that the ledger was pruned. -/
theorem answers_returning :
    (returning.filterMap UsageOperation.instant?).Pairwise (· ≤ ·) ∧
      NeverWidens .empty returning ∧ UsageTree.empty.answers returning =
        UsageTree.empty.answersUnpruned returning := by
  have hsorted : (returning.filterMap UsageOperation.instant?).Pairwise (· ≤ ·) := by
    decide +kernel
  have hnarrow : NeverWidens .empty returning := by decide +kernel
  exact ⟨hsorted, hnarrow, answers_eq_answersUnpruned hsorted hnarrow⟩

end Sample

end ChatCommands
