import ChatCommands.Proofs.Usage.Configuration
import ChatCommands.Proofs.Usage.Queue
import ChatCommands.Proofs.Usage.Forgetting

/-!
# What a use leaves on record

Charging a use goes through groups and, for each of them, through the limits along a path. On the way
buffers are fitted to their counts and ledgers are pruned, so old uses may go from the record anywhere.
A new use comes on record at one place or at none.

* `Accounts.RecordsNone`: nothing new is on record.
* `Accounts.RecordsOne`: one use is, at one node for one chatter.

**Theorem (`records_tryUseGroups`).** A use that is refused records nothing. One that is granted is
recorded once, for the chatter it was charged to, at a node with a limit on the way to the path below
one of the groups.

Pruning works on ledgers where no chatter has two buffers, and no use is charged to the root because
it has no limit. Both hold of all trees that come about (`UsageTree.Reachable`).
-/

namespace ChatCommands

/-! ## Buffers -/

/-- The uses `us'` are the last ones of `us` and, if `used`, one at `now` after them. -/
def Continues (used : Bool) (now : Int) (us us' : List Int) : Prop :=
  ∃ kept, kept <:+ us ∧ us' = if used then kept ++ [now] else kept

theorem continues_false {now : Int} {us us' : List Int} :
    Continues false now us us' ↔ us' <:+ us := by
  constructor
  · rintro ⟨kept, hkept, rfl⟩
    exact hkept
  · intro h
    exact ⟨us', h, rfl⟩

namespace UsageBuffer

theorem cursor_resize_eq_zero {b : UsageBuffer} {count : Nat}
    (h : (b.resize count).slots.length < count) : (b.resize count).cursor = 0 := by
  unfold resize at h ⊢
  dsimp only at h ⊢
  split_ifs at h ⊢ with hsize
  · rcases hsize with hsize | ⟨-, hcursor⟩
    · omega
    · exact hcursor
  · rfl

theorem continues_tryUse {b : UsageBuffer} (limit : UsageLimit)
    (hcursor : b.slots.length < limit.count → b.cursor = 0) (now : Int) :
    Continues (b.tryUse limit now).1 now b.uses (b.tryUse limit now).2.uses := by
  have hrefused : Continues false now b.uses b.uses := continues_false.2 (List.suffix_refl _)
  unfold tryUse
  by_cases hzero : limit.count = 0
  · rw [if_pos hzero]
    exact hrefused
  rw [if_neg hzero]
  by_cases hgrow : b.slots.length < limit.count
  · rw [if_pos hgrow]
    refine ⟨b.uses, List.suffix_refl _, ?_⟩
    rw [uses_of_cursor_eq_zero (hcursor hgrow)]
    exact uses_of_cursor_eq_zero (hcursor hgrow)
  rw [if_neg hgrow]
  by_cases hslot : b.cursor < b.slots.length
  · obtain ⟨newer, oldest, older, hslots, hnewer, huses⟩ := exists_slots_eq hslot
    have holdest : b.slots[b.cursor]? = some oldest := by
      rw [hslots, hnewer]
      simp
    rw [holdest]
    dsimp only
    split_ifs with hlive
    · exact hrefused
    · -- The oldest use gives way to the new one.
      refine ⟨older ++ newer, ?_, ?_⟩
      · rw [huses, List.cons_append]
        exact List.suffix_cons _ _
      · rw [hslots, hnewer]
        exact uses_overwrite newer older oldest now
  · rw [List.getElem?_eq_none (Nat.le_of_not_lt hslot)]
    exact hrefused

/-- **A buffer forgets from its old end and records at most the one use.** -/
theorem continues_tryUse_resize (b : UsageBuffer) (limit : UsageLimit) (now : Int) :
    Continues ((b.resize limit.count).tryUse limit now).1 now b.uses
      ((b.resize limit.count).tryUse limit now).2.uses := by
  obtain ⟨kept, hkept, huses⟩ :=
    continues_tryUse (b := b.resize limit.count) limit cursor_resize_eq_zero now
  refine ⟨kept, hkept.trans ?_, huses⟩
  rw [uses_resize]
  exact lastUses_suffix _ _

end UsageBuffer

/-! ## Ledgers -/

namespace UsageLedger

/-- No chatter has two buffers. -/
def Distinct (l : UsageLedger) : Prop := (Assoc.keys l.buffers).Nodup

theorem distinct_prune {l : UsageLedger} (h : l.Distinct) (now window : Int) :
    (l.prune now window).Distinct := by
  unfold prune
  split_ifs
  · exact h
  · exact Assoc.nodup_keys_filter h _

theorem distinct_tryUse {l : UsageLedger} (h : l.Distinct) (limit : UsageLimit) (key : String)
    (now : Int) : (l.tryUse limit key now).2.Distinct :=
  Assoc.nodup_keys_put (distinct_prune h now limit.window)

theorem uses_prune_suffix {l : UsageLedger} (h : l.Distinct) (now window : Int) (key : String) :
    ((l.prune now window).buffer key).uses <:+ (l.buffer key).uses := by
  rcases buffer_prune h now window key with heq | ⟨heq, -⟩
  · rw [heq]
  · rw [heq]
    exact List.nil_suffix

theorem continues_tryUse {l : UsageLedger} (h : l.Distinct) (limit : UsageLimit) (key : String)
    (now : Int) :
    Continues (l.tryUse limit key now).1 now (l.buffer key).uses
      ((l.tryUse limit key now).2.buffer key).uses := by
  rw [tryUse_eq, buffer_tryUseUnpruned, if_pos rfl]
  obtain ⟨kept, hkept, huses⟩ := UsageBuffer.continues_tryUse_resize
    ((l.prune now limit.window).buffer key) limit now
  exact ⟨kept, hkept.trans (uses_prune_suffix h now limit.window key), huses⟩

/-- The other chatters may lose uses that were pruned. -/
theorem uses_tryUse_suffix_of_ne {l : UsageLedger} (h : l.Distinct) (limit : UsageLimit)
    {key key' : String} (hkey : key' ≠ key) (now : Int) :
    ((l.tryUse limit key now).2.buffer key').uses <:+ (l.buffer key').uses := by
  rw [tryUse_eq, buffer_tryUseUnpruned, if_neg (Ne.symm hkey)]
  exact uses_prune_suffix h now limit.window key'

end UsageLedger

/-! ## Accounts -/

namespace Accounts

/-- The uses on record for a chatter at a node, oldest first. -/
def uses (as : Accounts) (p : List String) (key : String) : List Int :=
  ((as.ledger p).buffer key).uses

/-- From `as` to `as'` no use came on record, and the limits are the same. -/
structure RecordsNone (as as' : Accounts) : Prop where
  limit_eq : as'.limit = as.limit
  suffix : ∀ p key, as'.uses p key <:+ as.uses p key

/-- From `as` to `as'` one use at `now` came on record, for `key` at `p`, and none anywhere else. The
limits are the same. -/
structure RecordsOne (p : List String) (key : String) (now : Int) (as as' : Accounts) : Prop where
  limit_eq : as'.limit = as.limit
  recorded : ∃ kept, kept <:+ as.uses p key ∧ as'.uses p key = kept ++ [now]
  suffix : ∀ q key', (q, key') ≠ (p, key) → as'.uses q key' <:+ as.uses q key'

theorem RecordsNone.refl (as : Accounts) : RecordsNone as as :=
  ⟨rfl, fun _ _ => List.suffix_refl _⟩

theorem RecordsNone.trans {as bs cs : Accounts} (h : RecordsNone as bs) (h' : RecordsNone bs cs) :
    RecordsNone as cs where
  limit_eq := h'.limit_eq.trans h.limit_eq
  suffix p key := (h'.suffix p key).trans (h.suffix p key)

theorem RecordsNone.trans_recordsOne {as bs cs : Accounts} {p : List String} {key : String}
    {now : Int} (h : RecordsNone as bs) (h' : RecordsOne p key now bs cs) :
    RecordsOne p key now as cs where
  limit_eq := h'.limit_eq.trans h.limit_eq
  recorded := by
    obtain ⟨kept, hkept, huses⟩ := h'.recorded
    exact ⟨kept, hkept.trans (h.suffix p key), huses⟩
  suffix q key' hne := (h'.suffix q key' hne).trans (h.suffix q key')

/-- How a use by `key` that is offered to nodes with `P` ends: refused, or recorded at one of them. -/
def Settles (P : List String → Prop) (key : String) (now : Int) (as : Accounts)
    (result : Bool × Accounts) : Prop :=
  (result.1 = false ∧ RecordsNone as result.2) ∨
    (result.1 = true ∧ ∃ p, P p ∧ (as.limit p).isSome ∧ RecordsOne p key now as result.2)

theorem Settles.mono {P Q : List String → Prop} {key : String} {now : Int} {as : Accounts}
    {result : Bool × Accounts} (h : Settles P key now as result) (hPQ : ∀ p, P p → Q p) :
    Settles Q key now as result := by
  rcases h with h | ⟨hused, p, hp, hlimit, hrecords⟩
  · exact .inl h
  · exact .inr ⟨hused, p, hPQ p hp, hlimit, hrecords⟩

/-- A use that was refused can be offered again. -/
theorem RecordsNone.settles {P : List String → Prop} {key : String} {now : Int}
    {as bs : Accounts} {result : Bool × Accounts} (h : RecordsNone as bs)
    (h' : Settles P key now bs result) : Settles P key now as result := by
  rcases h' with ⟨hused, hnone⟩ | ⟨hused, p, hp, hlimit, hone⟩
  · exact .inl ⟨hused, h.trans hnone⟩
  · rw [h.limit_eq] at hlimit
    exact .inr ⟨hused, p, hp, hlimit, h.trans_recordsOne hone⟩

/-- All ledgers are distinct. -/
def Distinct (as : Accounts) : Prop := ∀ p, (as.ledger p).Distinct

section
variable {as : Accounts} (h : as.Distinct) (key : String) (now : Int)
include h

theorem distinct_charge (p : List String) :
    (as.charge (UsageLedger.offer key now) p).2.Distinct := by
  cases hlimit : as.limit p with
  | none =>
    rw [charge_of_limit_eq_none hlimit]
    exact h
  | some limit =>
    intro q
    by_cases hq : q = p
    · subst hq
      rw [ledger_charge_self hlimit]
      exact UsageLedger.distinct_tryUse (h q) limit key now
    · rw [ledger_charge_of_ne hlimit hq]
      exact h q

theorem settles_charge (p : List String) :
    Settles (· = p) key now as (as.charge (UsageLedger.offer key now) p) := by
  cases hlimit : as.limit p with
  | none =>
    rw [charge_of_limit_eq_none hlimit]
    exact .inl ⟨rfl, .refl as⟩
  | some limit =>
    have hused : (as.charge (UsageLedger.offer key now) p).1 =
        (UsageLedger.offer key now limit (as.ledger p)).1 := fst_charge hlimit
    have hlimits : (as.charge (UsageLedger.offer key now) p).2.limit = as.limit :=
      limit_charge as p
    have hself : Continues (as.charge (UsageLedger.offer key now) p).1 now (as.uses p key)
        ((as.charge (UsageLedger.offer key now) p).2.uses p key) := by
      rw [hused]
      unfold uses
      rw [ledger_charge_self hlimit]
      exact UsageLedger.continues_tryUse (h p) limit key now
    have hother : ∀ q key', (q, key') ≠ (p, key) →
        (as.charge (UsageLedger.offer key now) p).2.uses q key' <:+ as.uses q key' := by
      intro q key' hne
      unfold uses
      by_cases hq : q = p
      · subst hq
        have hkey : key' ≠ key := fun heq => hne (by rw [heq])
        rw [ledger_charge_self hlimit]
        exact UsageLedger.uses_tryUse_suffix_of_ne (h q) limit hkey now
      · rw [ledger_charge_of_ne hlimit hq]
    generalize as.charge (UsageLedger.offer key now) p = result at hlimits hself hother
    obtain ⟨used, as'⟩ := result
    cases used with
    | true => exact .inr ⟨rfl, p, rfl, by rw [hlimit]; rfl, hlimits, hself, hother⟩
    | false =>
      refine .inl ⟨rfl, hlimits, fun q key' => ?_⟩
      by_cases heq : (q, key') = (p, key)
      · obtain ⟨rfl, rfl⟩ := Prod.mk.inj heq
        exact continues_false.1 hself
      · exact hother q key' heq

/-- **Offering a use to one node after another records it where it is taken.** -/
theorem settles_chargeFirst (ps : List (List String)) :
    Settles (· ∈ ps) key now as (as.chargeFirst (UsageLedger.offer key now) ps) ∧
      (as.chargeFirst (UsageLedger.offer key now) ps).2.Distinct := by
  induction ps generalizing as with
  | nil => exact ⟨.inl ⟨rfl, .refl as⟩, h⟩
  | cons p ps ih =>
    have hcharge := settles_charge h key now p
    have hdistinct := distinct_charge h key now p
    rw [chargeFirst]
    generalize as.charge (UsageLedger.offer key now) p = result at hcharge hdistinct
    obtain ⟨used, as'⟩ := result
    cases used with
    | true =>
      refine ⟨hcharge.mono fun q hq => ?_, hdistinct⟩
      rw [hq]
      exact List.mem_cons_self
    | false =>
      obtain ⟨hrest, hdistinct'⟩ := ih hdistinct
      refine ⟨?_, hdistinct'⟩
      rcases hcharge with ⟨-, hnone⟩ | ⟨hused, -⟩
      · exact hnone.settles (hrest.mono fun q hq => List.mem_cons_of_mem _ hq)
      · cases hused

end

end Accounts

/-! ## Trees -/

namespace UsageTree

/-- The trees that come about by changes of the limits and by uses. -/
inductive Reachable : UsageTree → Prop
  | empty : Reachable .empty
  | change {t : UsageTree} (h : Reachable t) (c : LimitChange) : Reachable (t.change c).2
  | use {t : UsageTree} (h : Reachable t) (key path : String) (now : Int) :
    Reachable (t.tryUse key path now).2

/-- `P` holds of the tree without limits, and what is done to a tree at `now` keeps it. -/
structure KeptAt (now : Int) (P : UsageTree → Prop) : Prop where
  empty : P .empty
  change {t : UsageTree} (h : P t) (c : LimitChange) : P (t.change c).2
  use {t : UsageTree} (h : P t) (key path : String) : P (t.tryUse key path now).2

theorem keptAt_reachable (now : Int) : KeptAt now Reachable :=
  ⟨.empty, .change, fun h key path => h.use key path now⟩

namespace KeptAt

variable {now : Int} {P : UsageTree → Prop} (hP : KeptAt now P) {t : UsageTree} (h : P t)
include hP

section
include h

theorem set? {path : String} {limit : UsageLimit} {t' : UsageTree}
    (heq : t.set? path limit = some t') : P t' := by
  have hchange := hP.change h (.set path limit)
  rwa [UsageTree.change, heq] at hchange

theorem remove? {path : String} {t' : UsageTree} (heq : t.remove? path = some t') : P t' := by
  have hchange := hP.change h (.remove path)
  rwa [UsageTree.change, heq] at hchange

theorem set (path : String) (limit : UsageLimit) : P (t.set path limit) := by
  unfold UsageTree.set
  cases heq : t.set? path limit with
  | none => exact h
  | some t' => exact hP.set? h heq

theorem useInOrder (key suffix : String) (groups : List String) :
    P (t.tryUseInOrder key suffix now groups).2 := by
  induction groups generalizing t with
  | nil => exact h
  | cons group groups ih =>
    have huse := hP.use h key (Dotted.below group suffix)
    rw [tryUseInOrder]
    generalize t.tryUse key (Dotted.below group suffix) now = result at huse
    obtain ⟨used, t'⟩ := result
    cases used with
    | true => exact huse
    | false => exact ih huse

end

theorem ofLimits (limits : List (String × UsageLimit)) : P (UsageTree.ofLimits limits) := by
  have hfold : ∀ t : UsageTree, P t → P (limits.foldl (fun t l => t.set l.1 l.2) t) := by
    induction limits with
    | nil => exact fun _ h => h
    | cons l limits ih => exact fun t h => ih _ (hP.set h l.1 l.2)
  exact hfold .empty hP.empty

end KeptAt

theorem settles_tryUse {t : UsageTree} (h : t.accounts.Distinct) (key path : String) (now : Int) :
    Accounts.Settles (· <+: Dotted.segments path) key now t.accounts
        ((t.tryUse key path now).1, (t.tryUse key path now).2.accounts) ∧
      (t.tryUse key path now).2.accounts.Distinct := by
  have hcharge :=
    Accounts.settles_chargeFirst h key now (Dotted.segments path).inits.reverse
  rw [tryUse_eq, accounts_tryUseBy, fst_tryUseBy]
  refine ⟨hcharge.1.mono fun p hp => ?_, hcharge.2⟩
  rwa [List.mem_reverse, List.mem_inits] at hp

/-- The groups are asked in order, up to the first that has room. -/
theorem settles_tryUseInOrder {t : UsageTree} (h : t.accounts.Distinct) (key suffix : String)
    (now : Int) (groups : List String) :
    Accounts.Settles
      (fun p => ∃ group ∈ groups, p <+: Dotted.segments (Dotted.below group suffix)) key now
      t.accounts
      ((t.tryUseInOrder key suffix now groups).1,
        (t.tryUseInOrder key suffix now groups).2.accounts) := by
  induction groups generalizing t with
  | nil => exact .inl ⟨rfl, .refl _⟩
  | cons group groups ih =>
    obtain ⟨hfirst, hdistinct⟩ := settles_tryUse h key (Dotted.below group suffix) now
    rw [tryUseInOrder]
    generalize t.tryUse key (Dotted.below group suffix) now = result at hfirst hdistinct
    obtain ⟨used, t'⟩ := result
    cases used with
    | true => exact hfirst.mono fun p hp => ⟨group, List.mem_cons_self, hp⟩
    | false =>
      rcases hfirst with ⟨-, hnone⟩ | ⟨hused, -⟩
      · refine hnone.settles ((ih hdistinct).mono ?_)
        rintro p ⟨group', hgroup', hp⟩
        exact ⟨group', List.mem_cons_of_mem _ hgroup', hp⟩
      · cases hused

namespace Reachable

variable {t : UsageTree}

theorem distinct (h : t.Reachable) : t.accounts.Distinct := by
  induction h with
  | empty =>
    intro p
    rw [accounts_empty, Accounts.ledger_empty]
    exact List.nodup_nil
  | @change t _ c ih =>
    intro p
    rw [accounts_change_snd]
    rcases t.accounts.ledger_change c p with heq | ⟨heq, -⟩
    · rw [heq]
      exact ih p
    · rw [heq]
      exact List.nodup_nil
  | use _ key path now ih => exact (settles_tryUse ih key path now).2

theorem limit_nil (h : t.Reachable) : t.accounts.limit [] = none := by
  induction h with
  | empty => rw [limit_empty]; rfl
  | @change t _ c ih =>
    rw [accounts_change_snd, Accounts.limit_change]
    exact LimitMap.change_nil ih c
  | use _ key path now ih => rw [limit_tryUse, ih]

end Reachable

/-- **A use is recorded once or not at all.** -/
theorem Reachable.settles_tryUseGroups {t : UsageTree} (h : t.Reachable) (key : String)
    (groups : StringSet) (suffix : String) (now : Int) :
    Accounts.Settles
      (fun p => p ≠ [] ∧ ∃ group ∈ groups, p <+: Dotted.segments (Dotted.below group suffix)) key
      now t.accounts
      ((t.tryUseGroups key groups suffix now).1,
        (t.tryUseGroups key groups suffix now).2.accounts) := by
  rcases settles_tryUseInOrder h.distinct key suffix now groups.members with
    hnone | ⟨hused, p, ⟨group, hgroup, hp⟩, hlimit, hone⟩
  · exact .inl hnone
  · refine .inr ⟨hused, p, ⟨?_, group, hgroup, hp⟩, hlimit, hone⟩
    rintro rfl
    rw [h.limit_nil] at hlimit
    cases hlimit

end UsageTree

end ChatCommands
