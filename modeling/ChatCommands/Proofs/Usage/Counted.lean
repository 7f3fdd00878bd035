import Mathlib.Data.Set.Basic
import ChatCommands.Proofs.Usage.Sparse
import ChatCommands.Proofs.Usage.Table

/-!
# What a limit counts

The next use of a node is decided by the uses in the window among the last `count` on record. Whatever
else a ledger holds cannot be noticed as long as the limits stay as they are: uses that were pruned or
cut off did not count, and a buffer without uses is as good as none.

* `UsageLimit.counted`: the uses that count.
* `UsageLedger.Ordered`: the uses on record are in order of time and none is later than `now`.
* `Accounts.Alike`: two trees have the same limits and count the same uses of some chatters.

**Theorem (`Alike.chargeFirst`).** Trees that count alike for a chatter give the chatter the same
answer, and count alike afterwards.

**Theorem (`Ordered.alike_chargeFirst`).** A use is counted for its own chatter at most, and for nobody
if it is refused.
-/

namespace ChatCommands

/-! ## Lists of uses -/

/-- The uses that are still in the window. -/
def inWindow (now window : Int) (us : List Int) : List Int :=
  us.filter fun s => decide (now - s < window)

section
variable {now window : Int} {us : List Int}

theorem length_inWindow (now window : Int) (us : List Int) :
    (inWindow now window us).length = liveUses now window us :=
  List.countP_eq_length_filter.symm

theorem inWindow_append (us us' : List Int) :
    inWindow now window (us ++ us') = inWindow now window us ++ inWindow now window us' :=
  List.filter_append _ _

theorem inWindow_eq_nil (h : ∀ s ∈ us, window ≤ now - s) : inWindow now window us = [] := by
  rw [inWindow, List.filter_eq_nil_iff]
  intro s hs
  have := h s hs
  simp only [decide_eq_true_eq]
  omega

/-- What has left the window does not come back. -/
theorem inWindow_later {now' : Int} (h : now ≤ now') (us : List Int) :
    inWindow now' window (inWindow now window us) = inWindow now' window us := by
  rw [inWindow, inWindow, inWindow, List.filter_filter]
  apply List.filter_congr
  intro s _
  rw [← Bool.decide_and, decide_eq_decide]
  omega

theorem Forgets.inWindow_eq {history kept : List Int} (h : Forgets now window history kept) :
    inWindow now window history = inWindow now window kept := by
  obtain ⟨gone, rfl, hgone⟩ := h
  rw [inWindow_append, inWindow_eq_nil hgone, List.nil_append]

end

namespace UsageLimit

/-- The uses that the limit counts at `now`. -/
def counted (limit : UsageLimit) (now : Int) (us : List Int) : List Int :=
  inWindow now limit.window (lastUses limit.count us)

variable {limit : UsageLimit} {now : Int} {us : List Int}

theorem counted_later {now' : Int} (h : now ≤ now') (us : List Int) :
    limit.counted now' us = inWindow now' limit.window (limit.counted now us) :=
  (inWindow_later h _).symm

/-- **What is counted decides.** -/
theorem fst_grant (limit : UsageLimit) (now : Int) (us : List Int) :
    (limit.grant now us).1 = decide ((limit.counted now us).length < limit.count) := by
  unfold grant counted
  rw [length_inWindow]
  dsimp only
  split_ifs with hroom
  · exact (decide_eq_true hroom).symm
  · exact (decide_eq_false hroom).symm

/-- **There is one use more to count if it was granted**, and no other if not. -/
theorem counted_grant (hsorted : us.Pairwise (· ≤ ·)) :
    limit.counted now (limit.grant now us).2 =
      if (limit.counted now us).length < limit.count then
        limit.counted now us ++ inWindow now limit.window [now]
      else limit.counted now us := by
  have hlength := length_lastUses_le limit.count us
  have hgrant : limit.grant now (lastUses limit.count us) = limit.grant now us := by
    rw [grant, grant, lastUses_eq_self hlength]
  have hkept := hsorted.sublist (lastUses_suffix limit.count us).sublist
  have hself : Forgets now limit.window (lastUses limit.count us) (lastUses limit.count us) :=
    .refl _
  have hforgets := (hself.grant_of_length_le hlength hkept).2.inWindow_eq
  rw [hgrant] at hforgets
  rw [counted, lastUses_eq_self (length_grant_le limit now us), ← hforgets, counted,
    length_inWindow]
  split_ifs
  · exact inWindow_append _ _
  · rfl

end UsageLimit

/-- What was forgotten did not count. -/
theorem Forgets.counted_eq {limit : UsageLimit} {now : Int} {history kept : List Int}
    (h : Forgets now limit.window history kept) :
    limit.counted now history = limit.counted now kept :=
  (h.lastUses limit.count).inWindow_eq

/-! ## Ledgers -/

namespace UsageLedger

/-- The uses on record are in order of time, and none is later than `now`. -/
structure Ordered (l : UsageLedger) (now : Int) : Prop extends l.Sound where
  sorted (key : String) : (l.buffer key).uses.Pairwise (· ≤ ·)
  past (key : String) : ∀ s ∈ (l.buffer key).uses, s ≤ now

/-- The uses of `key` that a limit counts. -/
def counted (l : UsageLedger) (limit : UsageLimit) (now : Int) (key : String) : List Int :=
  limit.counted now (l.buffer key).uses

theorem ordered_empty (now : Int) : Ordered {} now where
  toSound := sound_empty
  sorted _ := List.Pairwise.nil
  past _ := fun _ h => nomatch h

variable {l : UsageLedger} {now : Int} {limit : UsageLimit}

theorem Ordered.later (h : l.Ordered now) {now' : Int} (hnow : now ≤ now') : l.Ordered now' where
  toSound := h.toSound
  sorted := h.sorted
  past key s hs := Int.le_trans (h.past key s hs) hnow

theorem Records.ordered {history : String → List Int} {window : Int}
    (h : l.Records history now window) : l.Ordered now where
  distinct := h.nodup
  valid := h.valid
  sorted := h.sorted_uses
  past key s hs := h.past key s ((h.forgets key).suffix.subset hs)

/-- A ledger holds its own uses. -/
theorem Ordered.records (h : l.Ordered now) (window : Int) :
    l.Records (fun key => (l.buffer key).uses) now window where
  nodup := h.distinct
  valid := h.valid
  sorted := h.sorted
  past := h.past
  forgets _ := .refl _

/-- **After a use** the ledger holds what is left of its uses, with the limit's answer on those of the
chatter. -/
theorem Ordered.records_offer (h : l.Ordered now) (limit : UsageLimit) (key : String) :
    (l.offer key now limit).2.Records
      (Function.update (fun key => (l.buffer key).uses) key
        (limit.grant now (l.buffer key).uses).2) now limit.window := by
  have hpruned := (h.records limit.window).prune
  exact hpruned.tryUseUnpruned key (grant_sublist limit now _) (hpruned.forgets key).grant.2

theorem Ordered.offer (h : l.Ordered now) (key : String) : (l.offer key now limit).2.Ordered now :=
  (h.records_offer limit key).ordered

theorem Ordered.fst_offer (h : l.Ordered now) (key : String) :
    (l.offer key now limit).1 = decide ((l.counted limit now key).length < limit.count) := by
  have hpruned := (h.records limit.window).prune
  rw [UsageLedger.offer, tryUse_eq, hpruned.tryUseUnpruned_fst, ← (hpruned.forgets key).grant.1,
    UsageLimit.fst_grant]
  rfl

theorem Ordered.counted_offer_self (h : l.Ordered now) (key : String) :
    (l.offer key now limit).2.counted limit now key =
      if (l.counted limit now key).length < limit.count then
        l.counted limit now key ++ inWindow now limit.window [now]
      else l.counted limit now key := by
  have hforgets := (h.records_offer limit key).forgets key
  rw [Function.update_self] at hforgets
  rw [counted, ← hforgets.counted_eq, UsageLimit.counted_grant (h.sorted key)]
  rfl

theorem Ordered.counted_offer_of_ne (h : l.Ordered now) {key key' : String} (hkey : key' ≠ key) :
    (l.offer key now limit).2.counted limit now key' = l.counted limit now key' := by
  have hforgets := (h.records_offer limit key).forgets key'
  rw [Function.update_of_ne hkey] at hforgets
  exact hforgets.counted_eq.symm

/-- **A use that is refused leaves no trace** in what is counted, whoever it is counted for. -/
theorem Ordered.counted_offer_of_refused (h : l.Ordered now) {key : String}
    (hrefused : (l.offer key now limit).1 = false) (key' : String) :
    (l.offer key now limit).2.counted limit now key' = l.counted limit now key' := by
  by_cases hkey : key' = key
  · subst hkey
    rw [h.fst_offer, decide_eq_false_iff_not] at hrefused
    rw [h.counted_offer_self, if_neg hrefused]
  · exact h.counted_offer_of_ne hkey

end UsageLedger

/-! ## Accounts -/

namespace Accounts

/-- The ledgers at all nodes are ordered. -/
def Ordered (as : Accounts) (now : Int) : Prop := ∀ p, (as.ledger p).Ordered now

/-- The limits of `as` and `bs` are the same and count the same uses of the chatters in `K`. -/
structure Alike (K : Set String) (now : Int) (as bs : Accounts) : Prop where
  limit_eq : bs.limit = as.limit
  counted_eq {p : List String} {limit : UsageLimit} (h : as.limit p = some limit) {key : String}
    (hkey : key ∈ K) : (bs.ledger p).counted limit now key = (as.ledger p).counted limit now key

variable {as bs cs : Accounts} {K : Set String} {now : Int}

theorem ordered_empty (now : Int) : empty.Ordered now := by
  intro p
  rw [ledger_empty]
  exact UsageLedger.ordered_empty now

theorem Ordered.later (h : as.Ordered now) {now' : Int} (hnow : now ≤ now') : as.Ordered now' :=
  fun p => (h p).later hnow

theorem Ordered.charge (h : as.Ordered now) (key : String) (p : List String) :
    (as.charge (UsageLedger.offer key now) p).2.Ordered now :=
  ledger_charge_of (Q := fun l => l.Ordered now) (fun _ _ hl => hl.offer key) h p

theorem Ordered.chargeFirst (h : as.Ordered now) (key : String) (ps : List (List String)) :
    (as.chargeFirst (UsageLedger.offer key now) ps).2.Ordered now :=
  ledger_chargeFirst_of (Q := fun l => l.Ordered now) (fun _ _ hl => hl.offer key) h ps

theorem Ordered.change (h : as.Ordered now) (c : LimitChange) : (as.change c).2.Ordered now := by
  intro p
  rcases as.ledger_change c p with heq | ⟨heq, -⟩
  · rw [heq]
    exact h p
  · rw [heq]
    exact UsageLedger.ordered_empty now

namespace Alike

theorem refl (as : Accounts) : Alike K now as as :=
  ⟨rfl, fun _ _ _ => rfl⟩

theorem symm (h : Alike K now as bs) : Alike K now bs as where
  limit_eq := h.limit_eq.symm
  counted_eq hlimit _ hkey := (h.counted_eq (h.limit_eq ▸ hlimit) hkey).symm

theorem trans (h : Alike K now as bs) (h' : Alike K now bs cs) : Alike K now as cs where
  limit_eq := h'.limit_eq.trans h.limit_eq
  counted_eq {p limit} hlimit key hkey := by
    have hlimit' : bs.limit p = some limit := by rw [h.limit_eq, hlimit]
    rw [h'.counted_eq hlimit' hkey, h.counted_eq hlimit hkey]

theorem later (h : Alike K now as bs) {now' : Int} (hnow : now ≤ now') : Alike K now' as bs where
  limit_eq := h.limit_eq
  counted_eq hlimit key hkey := by
    rw [UsageLedger.counted, UsageLedger.counted, UsageLimit.counted_later hnow,
      UsageLimit.counted_later hnow]
    exact congrArg _ (h.counted_eq hlimit hkey)

section
variable (h : Alike K now as bs) (has : as.Ordered now) (hbs : bs.Ordered now) {key : String}
  (hkey : key ∈ K)
include h has hbs hkey

theorem charge (p : List String) :
    (as.charge (UsageLedger.offer key now) p).1 = (bs.charge (UsageLedger.offer key now) p).1 ∧
      Alike K now (as.charge (UsageLedger.offer key now) p).2
        (bs.charge (UsageLedger.offer key now) p).2 := by
  have hlimit_eq := congrFun h.limit_eq p
  cases hlimit : as.limit p with
  | none =>
    rw [charge_of_limit_eq_none hlimit, charge_of_limit_eq_none (hlimit_eq.trans hlimit)]
    exact ⟨rfl, h⟩
  | some limit =>
    have hlimit' := hlimit_eq.trans hlimit
    have hcounted := h.counted_eq hlimit hkey
    refine ⟨?_, ?_, fun {q} {limit'} hq key' hkey' => ?_⟩
    · rw [fst_charge hlimit, fst_charge hlimit', (has p).fst_offer, (hbs p).fst_offer, hcounted]
    · rw [limit_charge, limit_charge, h.limit_eq]
    · rw [limit_charge] at hq
      by_cases hqp : q = p
      · subst hqp
        obtain rfl := Option.some.inj (hlimit.symm.trans hq)
        rw [ledger_charge_self hlimit, ledger_charge_self hlimit']
        by_cases heq : key' = key
        · subst heq
          rw [(has q).counted_offer_self, (hbs q).counted_offer_self, hcounted]
        · rw [(has q).counted_offer_of_ne heq, (hbs q).counted_offer_of_ne heq]
          exact h.counted_eq hlimit hkey'
      · rw [ledger_charge_of_ne hlimit hqp, ledger_charge_of_ne hlimit' hqp]
        exact h.counted_eq hq hkey'

/-- **Trees that count alike for a chatter answer alike**, and go on counting alike. -/
theorem chargeFirst (ps : List (List String)) :
    (as.chargeFirst (UsageLedger.offer key now) ps).1 =
        (bs.chargeFirst (UsageLedger.offer key now) ps).1 ∧
      Alike K now (as.chargeFirst (UsageLedger.offer key now) ps).2
        (bs.chargeFirst (UsageLedger.offer key now) ps).2 := by
  induction ps generalizing as bs with
  | nil => exact ⟨rfl, h⟩
  | cons p ps ih =>
    obtain ⟨hanswer, halike⟩ := h.charge has hbs hkey p
    have has' := has.charge key p
    have hbs' := hbs.charge key p
    rw [Accounts.chargeFirst, Accounts.chargeFirst]
    generalize as.charge (UsageLedger.offer key now) p = result at hanswer halike has'
    generalize bs.charge (UsageLedger.offer key now) p = result' at hanswer halike hbs'
    obtain ⟨used, as'⟩ := result
    obtain ⟨used', bs'⟩ := result'
    obtain rfl : used = used' := hanswer
    cases used with
    | true => exact ⟨rfl, halike⟩
    | false => exact ih halike has' hbs'

end

end Alike

section
variable (h : as.Ordered now) (key : String)
include h

theorem Ordered.alike_charge (p : List String)
    (hkey : key ∈ K → (as.charge (UsageLedger.offer key now) p).1 = false) :
    Alike K now as (as.charge (UsageLedger.offer key now) p).2 where
  limit_eq := limit_charge as p
  counted_eq {q limit'} hq key' hkey' := by
    cases hlimit : as.limit p with
    | none => rw [charge_of_limit_eq_none hlimit]
    | some limit =>
      by_cases hqp : q = p
      · subst hqp
        obtain rfl := Option.some.inj (hlimit.symm.trans hq)
        rw [ledger_charge_self hlimit]
        by_cases heq : key' = key
        · subst heq
          rw [fst_charge hlimit] at hkey
          exact (h q).counted_offer_of_refused (hkey hkey') key'
        · exact (h q).counted_offer_of_ne heq
      · rw [ledger_charge_of_ne hlimit hqp]

/-- **A use is counted for its own chatter at most**, and for nobody if it is refused. -/
theorem Ordered.alike_chargeFirst (ps : List (List String))
    (hkey : key ∈ K → (as.chargeFirst (UsageLedger.offer key now) ps).1 = false) :
    Alike K now as (as.chargeFirst (UsageLedger.offer key now) ps).2 := by
  induction ps generalizing as with
  | nil => exact .refl as
  | cons p ps ih =>
    have hcharge := h.alike_charge (K := K) key p
    have has' := h.charge key p
    rw [Accounts.chargeFirst] at hkey ⊢
    generalize as.charge (UsageLedger.offer key now) p = result at hkey hcharge has'
    obtain ⟨used, as'⟩ := result
    cases used with
    | true => exact hcharge hkey
    | false => exact (hcharge fun _ => rfl).trans (ih has' hkey)

end

end Accounts

/-! ## Trees -/

namespace UsageTree

theorem chargeFirst_path (t : UsageTree) (key path : String) (now : Int) :
    ((t.tryUse key path now).1, (t.tryUse key path now).2.accounts) =
      t.accounts.chargeFirst (UsageLedger.offer key now) (Dotted.segments path).inits.reverse := by
  rw [tryUse_eq, fst_tryUseBy, accounts_tryUseBy]

/-- The groups are one long way, along which the use is offered to one node after the other. -/
theorem chargeFirst_groups (t : UsageTree) (key suffix : String) (now : Int)
    (groups : List String) :
    ((t.tryUseInOrder key suffix now groups).1, (t.tryUseInOrder key suffix now groups).2.accounts) =
      t.accounts.chargeFirst (UsageLedger.offer key now)
        (groups.flatMap fun group =>
          (Dotted.segments (Dotted.below group suffix)).inits.reverse) := by
  induction groups generalizing t with
  | nil => rfl
  | cons group groups ih =>
    rw [tryUseInOrder, List.flatMap_cons, Accounts.chargeFirst_append, ← chargeFirst_path]
    generalize t.tryUse key (Dotted.below group suffix) now = result
    obtain ⟨used, t'⟩ := result
    cases used with
    | true => rfl
    | false => exact ih t'

section
variable {t t' : UsageTree} {K : Set String} {now : Int} {key : String}

theorem alike_tryUseGroups (h : Accounts.Alike K now t.accounts t'.accounts)
    (ht : t.accounts.Ordered now) (ht' : t'.accounts.Ordered now) (hkey : key ∈ K)
    (groups : StringSet) (suffix : String) :
    (t.tryUseGroups key groups suffix now).1 = (t'.tryUseGroups key groups suffix now).1 ∧
      Accounts.Alike K now (t.tryUseGroups key groups suffix now).2.accounts
        (t'.tryUseGroups key groups suffix now).2.accounts := by
  have halike := h.chargeFirst ht ht' hkey (groups.members.flatMap fun group =>
    (Dotted.segments (Dotted.below group suffix)).inits.reverse)
  rwa [← chargeFirst_groups, ← chargeFirst_groups] at halike

theorem alike_tryUseGroups_left (ht : t.accounts.Ordered now) (hkey : key ∉ K)
    (groups : StringSet) (suffix : String) :
    Accounts.Alike K now t.accounts (t.tryUseGroups key groups suffix now).2.accounts := by
  have halike := ht.alike_chargeFirst (K := K) key (groups.members.flatMap fun group =>
    (Dotted.segments (Dotted.below group suffix)).inits.reverse) fun hmem => absurd hmem hkey
  rwa [← chargeFirst_groups] at halike

end

/-- **Every use is offered to a list of nodes**, the same for all trees. -/
theorem exists_chargeFirst {op : UsageOperation} {now : Int} (h : op.instant? = some now) :
    ∃ key ps, ∀ t : UsageTree, ((t.perform op).1, (t.perform op).2.accounts) =
      t.accounts.chargeFirst (UsageLedger.offer key now) ps := by
  cases op with
  | change c => cases h
  | clear => cases h
  | use key path now' =>
    obtain rfl := Option.some.inj h
    exact ⟨key, _, fun t => t.chargeFirst_path key path now'⟩
  | useGroups key groups suffix now' =>
    obtain rfl := Option.some.inj h
    exact ⟨key, _, fun t => t.chargeFirst_groups key suffix now' groups.members⟩

theorem keptAt_ordered (now : Int) : KeptAt now fun t => t.accounts.Ordered now where
  empty := by
    rw [accounts_empty]
    exact Accounts.ordered_empty now
  change {t} h c := by
    rw [accounts_change_snd]
    exact h.change c
  use {t} h key path := by
    have hordered := h.chargeFirst key (Dotted.segments path).inits.reverse
    rwa [← chargeFirst_path] at hordered

theorem ordered_tryUseGroups {t : UsageTree} {now : Int} (h : t.accounts.Ordered now)
    (key : String) (groups : StringSet) (suffix : String) :
    (t.tryUseGroups key groups suffix now).2.accounts.Ordered now :=
  (keptAt_ordered now).useInOrder h key suffix groups.members

theorem KeptAt.perform {now : Int} {P : UsageTree → Prop} (hP : KeptAt now P) {t : UsageTree}
    (h : P t) {op : UsageOperation} (hop : ∀ now' ∈ op.instant?, now' = now) :
    P (t.perform op).2 := by
  cases op with
  | change c => exact hP.change h c
  | clear => exact hP.empty
  | use key path now' =>
    obtain rfl := hop now' rfl
    exact hP.use h key path
  | useGroups key groups suffix now' =>
    obtain rfl := hop now' rfl
    exact hP.useInOrder h key suffix groups.members

theorem ordered_perform {t : UsageTree} {now : Int} (h : t.accounts.Ordered now)
    (op : UsageOperation) (hinstant : ∀ now' ∈ op.instant?, now ≤ now') :
    (t.perform op).2.accounts.Ordered (op.instant?.getD now) := by
  have hnow : now ≤ op.instant?.getD now := by
    cases hop : op.instant? with
    | none => exact Int.le_refl _
    | some now' => exact hinstant now' hop
  refine (keptAt_ordered _).perform (h.later hnow) fun now' hnow' => ?_
  rw [Option.mem_def.1 hnow']
  rfl

/-- **What was done in order of time is on record in order of time.** -/
theorem ordered_after {ops : List UsageOperation} {now : Int}
    (h : (ops.filterMap UsageOperation.instant? ++ [now]).Pairwise (· ≤ ·)) :
    (after ops).accounts.Ordered now := by
  induction ops using List.reverseRecOn generalizing now with
  | nil => exact (keptAt_ordered now).empty
  | append_singleton ops op ih =>
    have hafter : after (ops ++ [op]) = ((after ops).perform op).2 := List.foldl_concat ..
    rw [hafter]
    rw [List.filterMap_append] at h
    cases hop : op.instant? with
    | none =>
      rw [List.filterMap_cons_none hop, List.filterMap_nil, List.append_nil] at h
      have hordered := ordered_perform (ih h) op (by simp [hop])
      rwa [hop] at hordered
    | some now' =>
      rw [List.filterMap_cons_some hop, List.filterMap_nil] at h
      obtain ⟨hprevious, -, hlast⟩ := List.pairwise_append.1 h
      have hordered := ordered_perform (ih hprevious) op (by simp [hop])
      rw [hop] at hordered
      exact Accounts.Ordered.later hordered (hlast now' (by simp) now (by simp))

end UsageTree

end ChatCommands
