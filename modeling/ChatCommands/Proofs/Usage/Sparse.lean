import Mathlib.Data.List.Pairwise
import Mathlib.Order.Basic
import ChatCommands.Proofs.Usage.Recording

/-!
# Windows stay sparse

However a usage tree came about, from some moment on its uses are spread out: a node is charged with at
most `count` uses of a chatter in any span of its window. What was on record before does not matter. It
may be out of order, so the buffers cannot be taken for histories here. What carries the argument is
that the uses since that moment which have not left the window are still on record, at the new end of
their buffer (`UsageBuffer.Tracks`).

* `UsageLedger.Sound`: no chatter has two buffers and all cursors are on slots, as in all ledgers that
  come about (`UsageTree.Reachable.sound`).
* `Accounts.Tracks`: the invariant for all nodes, with a log of the charges for one chatter.

**Theorem (`tracks_tryUseGroups`).** A use of anyone keeps the invariant. If it is a use of the chatter
and it was granted, it is in the log of some node on the way to the path below one of the groups.
-/

namespace ChatCommands

/-! ## Counting uses in an interval -/

/-- The number of uses in the half-open interval of length `W` that starts at `a`. -/
def usesIn (a W : Int) (us : List Int) : Nat :=
  us.countP fun s => decide (a ≤ s ∧ s < a + W)

section
variable {a W : Int} {us us' : List Int}

theorem usesIn_append (us us' : List Int) :
    usesIn a W (us ++ us') = usesIn a W us + usesIn a W us' :=
  List.countP_append

theorem usesIn_le_length (a W : Int) (us : List Int) : usesIn a W us ≤ us.length :=
  List.countP_le_length

theorem usesIn_le_of_sublist (h : us.Sublist us') : usesIn a W us ≤ usesIn a W us' :=
  h.countP_le

theorem usesIn_mono {W' : Int} (h : W ≤ W') : usesIn a W us ≤ usesIn a W' us := by
  apply List.countP_mono_left
  intro s _ hs
  simp only [decide_eq_true_eq] at hs ⊢
  omega

theorem usesIn_singleton_of_not {s : Int} (h : ¬ (a ≤ s ∧ s < a + W)) : usesIn a W [s] = 0 := by
  simp [usesIn, h]

/-- An interval that holds `now` holds no use that has left a window of its length. -/
theorem usesIn_eq_zero {now : Int} (hnow : now < a + W) (h : ∀ s ∈ us, W ≤ now - s) :
    usesIn a W us = 0 := by
  rw [usesIn, List.countP_eq_zero]
  intro s hs
  have := h s hs
  simp only [decide_eq_true_eq]
  omega

end

/-! ## Buffers -/

theorem suffix_lastUses {count : Nat} {kept us : List Int} (h : kept <:+ us)
    (hlen : kept.length ≤ count) : kept <:+ lastUses count us := by
  apply List.suffix_of_suffix_length_le h (lastUses_suffix count us)
  have := h.length_le
  rw [lastUses, List.length_drop]
  omega

namespace UsageBuffer

variable {b : UsageBuffer} {limit : UsageLimit} {now : Int}

theorem valid_resize (h : b.Valid) (count : Nat) : (b.resize count).Valid :=
  (fits_resize h count).valid

theorem valid_tryUse (h : b.Valid) (hcursor : b.slots.length < limit.count → b.cursor = 0) :
    (b.tryUse limit now).2.Valid := by
  unfold tryUse
  split_ifs with hzero hgrow
  · exact h
  · exact .inl (hcursor hgrow)
  · split
    · exact h
    · next holdest =>
      have hslot := (List.getElem?_eq_some_iff.1 holdest).1
      split_ifs
      · exact h
      · right
        show (b.cursor + 1) % b.slots.length < (b.slots.set b.cursor now).length
        rw [List.length_set]
        exact Nat.mod_lt _ (Nat.zero_lt_of_lt hslot)

/-- A buffer that refuses a use stays as it is. -/
theorem tryUse_of_refused (h : (b.tryUse limit now).1 = false) : (b.tryUse limit now).2 = b := by
  unfold tryUse at h ⊢
  split_ifs at h ⊢ with hzero hgrow
  · rfl
  · split at h
    · rfl
    · split_ifs at h ⊢
      rfl

/-- A buffer that takes a use gives up its oldest one at most, which has left the window. -/
theorem tryUse_of_granted (hlen : b.slots.length ≤ limit.count)
    (hcursor : b.slots.length < limit.count → b.cursor = 0) (h : (b.tryUse limit now).1 = true) :
    ∃ gone rest, b.uses = gone ++ rest ∧ (∀ s ∈ gone, limit.window ≤ now - s) ∧
      (b.tryUse limit now).2.uses = rest ++ [now] ∧ rest.length < limit.count := by
  unfold tryUse at h ⊢
  split_ifs at h ⊢ with hzero hgrow
  · have huses := uses_of_cursor_eq_zero (hcursor hgrow)
    refine ⟨[], b.slots, huses, fun s hs => absurd hs List.not_mem_nil, ?_, hgrow⟩
    exact uses_of_cursor_eq_zero (hcursor hgrow)
  · split at h
    · cases h
    · next oldest' holdest' =>
      have hslot := (List.getElem?_eq_some_iff.1 holdest').1
      obtain ⟨newer, oldest, older, hslots, hnewer, huses⟩ := exists_slots_eq hslot
      obtain rfl : oldest = oldest' := by
        rw [hslots, hnewer] at holdest'
        simpa using holdest'
      split_ifs at h ⊢ with hlive
      refine ⟨[oldest], older ++ newer, huses, fun s hs => ?_, ?_, ?_⟩
      · rw [List.mem_singleton.1 hs]
        omega
      · rw [hslots, hnewer]
        exact uses_overwrite newer older oldest now
      · rw [hslots] at hlen
        simp only [List.length_append, List.length_cons] at hlen ⊢
        omega

/-- The uses `us` of a chatter since some moment are in order and sparse, and those that have not left
the window are on record, at the end of what the buffer holds. -/
structure Tracks (b : UsageBuffer) (us : List Int) (limit : UsageLimit) (now : Int) : Prop where
  sorted : us.Pairwise (· ≤ ·)
  past : ∀ s ∈ us, s ≤ now
  recent : ∃ kept, Forgets now limit.window us kept ∧ kept <:+ b.uses ∧ kept.length ≤ limit.count
  sparse : ∀ a, usesIn a limit.window us ≤ limit.count

/-- At the moment itself, whatever the buffer holds is from before. -/
theorem tracks_nil (b : UsageBuffer) (limit : UsageLimit) (now : Int) : b.Tracks [] limit now where
  sorted := List.Pairwise.nil
  past _ hs := nomatch hs
  recent := ⟨[], .refl [], List.nil_suffix, Nat.zero_le _⟩
  sparse _ := Nat.zero_le _

variable {us : List Int}

theorem Tracks.later (h : b.Tracks us limit now) {now' : Int} (hnow : now ≤ now') :
    b.Tracks us limit now' where
  sorted := h.sorted
  past s hs := Int.le_trans (h.past s hs) hnow
  recent := by
    obtain ⟨kept, hforgets, hkept⟩ := h.recent
    exact ⟨kept, hforgets.later hnow (Int.le_refl _), hkept⟩
  sparse := h.sparse

/-- **An idle buffer can be dropped.** Its newest use has left the window, and what it tracks is not
newer. -/
theorem Tracks.drop (h : b.Tracks us limit now) (hvalid : b.Valid)
    (hidle : b.isIdle now limit.window = true) : Tracks {} us limit now where
  sorted := h.sorted
  past := h.past
  recent := by
    obtain ⟨kept, hforgets, hkept, -⟩ := h.recent
    refine ⟨[], ?_, List.nil_suffix, Nat.zero_le _⟩
    have hforgets' : Forgets now limit.window us (kept ++ []) := by rwa [List.append_nil]
    refine hforgets'.drop ?_
    rw [isIdle, newest?_eq hvalid] at hidle
    intro s hs
    have hne : kept ≠ [] := List.ne_nil_of_mem hs
    have hlast : b.uses.getLast? = some (kept.getLast hne) := by
      obtain ⟨older, heq⟩ := hkept
      rw [← heq, List.getLast?_append_of_ne_nil _ hne, List.getLast?_eq_getLast_of_ne_nil hne]
    rw [hlast] at hidle
    have hsorted : kept.Pairwise (· ≤ ·) := h.sorted.sublist hforgets.suffix.sublist
    have hle : s ≤ kept.getLast hne := hsorted.rel_getLast hs
    simp only [decide_eq_true_eq] at hidle
    omega
  sparse := h.sparse

theorem Tracks.refused (h : b.Tracks us limit now)
    (hused : ((b.resize limit.count).tryUse limit now).1 = false) :
    ((b.resize limit.count).tryUse limit now).2.Tracks us limit now where
  sorted := h.sorted
  past := h.past
  recent := by
    obtain ⟨kept, hforgets, hkept, hlen⟩ := h.recent
    refine ⟨kept, hforgets, ?_, hlen⟩
    rw [tryUse_of_refused hused, uses_resize]
    exact suffix_lastUses hkept hlen
  sparse := h.sparse

/-- Uses that have left the window may be taken off what is left of the uses. -/
theorem exists_forgets_suffix {kept gone rest : List Int} {W : Int} (h : Forgets now W us kept)
    (hkept : kept <:+ gone ++ rest) (hgone : ∀ s ∈ gone, W ≤ now - s) :
    ∃ kept', Forgets now W us kept' ∧ kept' <:+ rest := by
  rcases List.suffix_or_suffix_of_suffix hkept (List.suffix_append gone rest) with hle | hle
  · exact ⟨kept, h, hle⟩
  · obtain ⟨expired, rfl⟩ := hle
    have hexpired : expired <:+ gone := by
      obtain ⟨before, hbefore⟩ := hkept
      rw [← List.append_assoc] at hbefore
      exact ⟨before, List.append_cancel_right hbefore⟩
    exact ⟨rest, Forgets.drop (fun s hs => hgone s (hexpired.subset hs)) h, List.suffix_rfl⟩

/-- Uses are as sparse with a new one as without, if those that are left with it are not too many. -/
theorem usesIn_append_le {kept : List Int} {W : Int} {count : Nat}
    (h : Forgets now W (us ++ [now]) kept) (hcount : kept.length ≤ count) {a : Int}
    (hsparse : usesIn a W us ≤ count) : usesIn a W (us ++ [now]) ≤ count := by
  by_cases hreach : a ≤ now ∧ now < a + W
  · obtain ⟨expired, heq, hexpired⟩ := h
    rw [heq, usesIn_append, usesIn_eq_zero hreach.2 hexpired, Nat.zero_add]
    exact (usesIn_le_length _ _ _).trans hcount
  · rw [usesIn_append, usesIn_singleton_of_not hreach]
    exact hsparse

/-- **A granted use leaves the uses sparse.** An interval that reaches `now` is covered by the uses on
record, of which there are at most `count` with the new one. -/
theorem Tracks.granted (h : b.Tracks us limit now)
    (hused : ((b.resize limit.count).tryUse limit now).1 = true) :
    ((b.resize limit.count).tryUse limit now).2.Tracks (us ++ [now]) limit now := by
  have hresize : (b.resize limit.count).slots.length ≤ limit.count := by
    rw [← length_uses, uses_resize]
    exact length_lastUses_le _ _
  obtain ⟨gone, rest, huses, hgone, huses', hrest⟩ :=
    tryUse_of_granted hresize cursor_resize_eq_zero hused
  rw [uses_resize] at huses
  obtain ⟨kept, hforgets, hkept, hlen⟩ := h.recent
  have hsuffix := suffix_lastUses hkept hlen
  rw [huses] at hsuffix
  obtain ⟨kept', hforgets', hkept'⟩ := exists_forgets_suffix hforgets hsuffix hgone
  have hnew := hforgets'.append [now]
  have hcount : (kept' ++ [now]).length ≤ limit.count := by
    have := hkept'.length_le
    rw [List.length_append, List.length_singleton]
    omega
  refine ⟨?_, fun s hs => ?_, ⟨kept' ++ [now], hnew, ?_, hcount⟩, fun a => ?_⟩
  · rw [List.pairwise_append]
    refine ⟨h.sorted, List.pairwise_singleton _ _, fun s hs t ht => ?_⟩
    rw [List.mem_singleton.1 ht]
    exact h.past s hs
  · rcases List.mem_append.1 hs with hs | hs
    · exact h.past s hs
    · exact Int.le_of_eq (List.mem_singleton.1 hs)
  · rw [huses']
    obtain ⟨before, rfl⟩ := hkept'
    exact ⟨before, by rw [List.append_assoc]⟩
  · exact usesIn_append_le hnew hcount (h.sparse a)

end UsageBuffer

/-! ## Ledgers -/

namespace UsageLedger

/-- No chatter has two buffers, and every cursor is on a slot. -/
structure Sound (l : UsageLedger) : Prop where
  distinct : l.Distinct
  valid (key : String) : (l.buffer key).Valid

theorem sound_empty : Sound {} where
  distinct := List.nodup_nil
  valid _ := UsageBuffer.valid_empty

variable {l : UsageLedger}

theorem Sound.prune (h : l.Sound) (now window : Int) : (l.prune now window).Sound where
  distinct := distinct_prune h.distinct now window
  valid key := by
    rcases buffer_prune h.distinct now window key with heq | ⟨heq, -⟩
    · rw [heq]
      exact h.valid key
    · rw [heq]
      exact UsageBuffer.valid_empty

theorem Sound.offer (h : l.Sound) (user : String) (now : Int) (limit : UsageLimit) :
    (l.offer user now limit).2.Sound where
  distinct := distinct_tryUse h.distinct limit user now
  valid key := by
    have hpruned := h.prune now limit.window
    rw [UsageLedger.offer, tryUse_eq, buffer_tryUseUnpruned]
    split_ifs
    · apply UsageBuffer.valid_tryUse
      · exact UsageBuffer.valid_resize (hpruned.valid user) limit.count
      · exact UsageBuffer.cursor_resize_eq_zero
    · exact hpruned.valid key

variable {key : String} {us : List Int} {limit : UsageLimit} {now : Int}

theorem tracks_prune (hl : l.Sound) (h : (l.buffer key).Tracks us limit now) :
    ((l.prune now limit.window).buffer key).Tracks us limit now := by
  rcases buffer_prune hl.distinct now limit.window key with heq | ⟨heq, hidle⟩
  · rw [heq]
    exact h
  · rw [heq]
    exact h.drop (hl.valid key) hidle

/-- A use of the chatter is added to the ones that are tracked, if it is granted. -/
theorem tracks_offer (hl : l.Sound) (h : (l.buffer key).Tracks us limit now) :
    ((l.offer key now limit).2.buffer key).Tracks
      (if (l.offer key now limit).1 then us ++ [now] else us) limit now := by
  have hpruned := tracks_prune hl h
  rw [UsageLedger.offer, tryUse_eq, buffer_tryUseUnpruned, if_pos rfl]
  split_ifs with hused
  · exact hpruned.granted hused
  · exact hpruned.refused (Bool.eq_false_iff.2 hused)

/-- A use of another chatter may prune the buffer. -/
theorem tracks_offer_of_ne (hl : l.Sound) (h : (l.buffer key).Tracks us limit now) {user : String}
    (huser : user ≠ key) : ((l.offer user now limit).2.buffer key).Tracks us limit now := by
  rw [UsageLedger.offer, tryUse_eq, buffer_tryUseUnpruned, if_neg huser]
  exact tracks_prune hl h

end UsageLedger

/-! ## Accounts -/

namespace Accounts

/-- At every node with a limit, the uses of `key` that the log has for it are tracked. -/
structure Tracks (as : Accounts) (key : String) (log : List String → List Int) (now : Int) :
    Prop where
  sound (p : List String) : (as.ledger p).Sound
  buffers {p : List String} {limit : UsageLimit} (h : as.limit p = some limit) :
    ((as.ledger p).buffer key).Tracks (log p) limit now

/-- The log goes on to `log'`. If there is something to log (`granted`), it is a use at `now` at a node
with `P`. -/
structure Logs (P : List String → Prop) (granted : Prop) (now : Int)
    (log log' : List String → List Int) : Prop where
  sublist (p : List String) : (log p).Sublist (log' p)
  logged (h : granted) : ∃ p, P p ∧ (log p ++ [now]).Sublist (log' p)

section
variable {P : List String → Prop} {granted : Prop} {now : Int} {log log' log'' : List String → List Int}

theorem Logs.refl (log : List String → List Int) (h : ¬ granted) : Logs P granted now log log where
  sublist _ := List.Sublist.refl _
  logged hgranted := absurd hgranted h

theorem Logs.mono {Q : List String → Prop} {granted' : Prop} (h : Logs P granted now log log')
    (hPQ : ∀ p, P p → Q p) (hgranted : granted' → granted) : Logs Q granted' now log log' where
  sublist := h.sublist
  logged hgranted' := by
    obtain ⟨p, hp, hlog⟩ := h.logged (hgranted hgranted')
    exact ⟨p, hPQ p hp, hlog⟩

/-- What was logged later may have been preceded by something else. -/
theorem Logs.trans {granted' : Prop} (h : Logs P granted' now log log')
    (h' : Logs P granted now log' log'') : Logs P granted now log log'' where
  sublist p := (h.sublist p).trans (h'.sublist p)
  logged hgranted := by
    obtain ⟨p, hp, hlog⟩ := h'.logged hgranted
    exact ⟨p, hp, ((h.sublist p).append_right [now]).trans hlog⟩

end

variable {as : Accounts} {key : String} {log : List String → List Int} {now : Int}

theorem Tracks.later (h : as.Tracks key log now) {now' : Int} (hnow : now ≤ now') :
    as.Tracks key log now' where
  sound := h.sound
  buffers hlimit := (h.buffers hlimit).later hnow

/-- What is tracked at `p` after an offer there replaces what was, and the other nodes are as before. -/
theorem Tracks.update (h : as.Tracks key log now) {p : List String} {limit : UsageLimit}
    (hlimit : as.limit p = some limit) (user : String) {us : List Int}
    (hus : ((UsageLedger.offer user now limit (as.ledger p)).2.buffer key).Tracks us limit now) :
    (as.charge (UsageLedger.offer user now) p).2.Tracks key (Function.update log p us) now where
  sound q := by
    by_cases hq : q = p
    · subst hq
      rw [ledger_charge_self hlimit]
      exact (h.sound q).offer user now limit
    · rw [ledger_charge_of_ne hlimit hq]
      exact h.sound q
  buffers {q} {limit'} hq := by
    rw [limit_charge] at hq
    by_cases hqp : q = p
    · subst hqp
      obtain rfl := Option.some.inj (hlimit.symm.trans hq)
      rw [ledger_charge_self hlimit, Function.update_self]
      exact hus
    · rw [ledger_charge_of_ne hlimit hqp, Function.update_of_ne hqp]
      exact h.buffers hq

/-- **A charge at one node.** -/
theorem Tracks.charge (h : as.Tracks key log now) (user : String) (p : List String) :
    ∃ log', (as.charge (UsageLedger.offer user now) p).2.Tracks key log' now ∧
      Logs (fun q => q = p ∧ (as.limit q).isSome)
        (user = key ∧ (as.charge (UsageLedger.offer user now) p).1 = true) now log log' := by
  cases hlimit : as.limit p with
  | none =>
    rw [charge_of_limit_eq_none hlimit]
    refine ⟨log, h, .refl log ?_⟩
    rintro ⟨-, hused⟩
    cases hused
  | some limit =>
    rw [fst_charge hlimit]
    by_cases huser : user = key
    · subst huser
      have hself := UsageLedger.tracks_offer (h.sound p) (h.buffers hlimit)
      refine ⟨_, h.update hlimit user hself, ?_, ?_⟩
      · intro q
        by_cases hq : q = p
        · subst hq
          rw [Function.update_self]
          split_ifs
          · exact List.sublist_append_left _ _
          · exact List.Sublist.refl _
        · rw [Function.update_of_ne hq]
      · rintro ⟨-, hused⟩
        refine ⟨p, ⟨rfl, by rw [hlimit]; rfl⟩, ?_⟩
        rw [Function.update_self, if_pos hused]
    · have hother := h.update hlimit user
        (UsageLedger.tracks_offer_of_ne (h.sound p) (h.buffers hlimit) huser)
      rw [Function.update_eq_self] at hother
      exact ⟨log, hother, .refl log fun hgranted => huser hgranted.1⟩

/-- **A charge at the first of several nodes that has room.** -/
theorem Tracks.chargeFirst (h : as.Tracks key log now) (user : String) (ps : List (List String)) :
    ∃ log', (as.chargeFirst (UsageLedger.offer user now) ps).2.Tracks key log' now ∧
      Logs (fun q => q ∈ ps ∧ (as.limit q).isSome)
        (user = key ∧ (as.chargeFirst (UsageLedger.offer user now) ps).1 = true) now log log' := by
  induction ps generalizing as log with
  | nil =>
    refine ⟨log, h, .refl log ?_⟩
    rintro ⟨-, hused⟩
    cases hused
  | cons p ps ih =>
    obtain ⟨log₁, hcharge, hlogs⟩ := h.charge user p
    have hlimit : (as.charge (UsageLedger.offer user now) p).2.limit = as.limit := limit_charge as p
    have hfirst : ∀ q, q = p ∧ (as.limit q).isSome → q ∈ p :: ps ∧ (as.limit q).isSome := by
      rintro q ⟨rfl, hq⟩
      exact ⟨List.mem_cons_self, hq⟩
    rw [Accounts.chargeFirst]
    generalize as.charge (UsageLedger.offer user now) p = result at hcharge hlogs hlimit
    obtain ⟨used, as'⟩ := result
    cases used with
    | true => exact ⟨log₁, hcharge, hlogs.mono hfirst id⟩
    | false =>
      obtain ⟨log₂, hrest, hlogs'⟩ := ih hcharge
      refine ⟨log₂, hrest, (hlogs.mono hfirst id).trans (hlogs'.mono ?_ id)⟩
      rintro q ⟨hq, hset⟩
      rw [hlimit] at hset
      exact ⟨List.mem_cons_of_mem _ hq, hset⟩

section
variable {take : UsageLimit → UsageLedger → Bool × UsageLedger} {Q : UsageLedger → Prop}
  (htake : ∀ limit l, Q l → Q (take limit l).2)
include htake

/-- What an offer keeps of a ledger, it keeps of all ledgers. -/
theorem ledger_charge_of (h : ∀ p, Q (as.ledger p)) (p : List String) :
    ∀ q, Q ((as.charge take p).2.ledger q) := by
  intro q
  cases hlimit : as.limit p with
  | none =>
    rw [charge_of_limit_eq_none hlimit]
    exact h q
  | some limit =>
    by_cases hq : q = p
    · subst hq
      rw [ledger_charge_self hlimit]
      exact htake limit _ (h q)
    · rw [ledger_charge_of_ne hlimit hq]
      exact h q

theorem ledger_chargeFirst_of (h : ∀ p, Q (as.ledger p)) (ps : List (List String)) :
    ∀ p, Q ((as.chargeFirst take ps).2.ledger p) := by
  induction ps generalizing as with
  | nil => exact h
  | cons p ps ih =>
    have hcharge := ledger_charge_of htake h p
    rw [Accounts.chargeFirst]
    generalize as.charge take p = result at hcharge
    obtain ⟨used, as'⟩ := result
    cases used with
    | true => exact hcharge
    | false => exact ih hcharge

end

end Accounts

/-! ## Trees -/

namespace UsageTree

variable {t : UsageTree}

theorem Reachable.sound (h : t.Reachable) (p : List String) : (t.accounts.ledger p).Sound := by
  induction h generalizing p with
  | empty =>
    rw [accounts_empty, Accounts.ledger_empty]
    exact UsageLedger.sound_empty
  | @change t _ c ih =>
    rw [accounts_change_snd]
    rcases t.accounts.ledger_change c p with heq | ⟨heq, -⟩
    · rw [heq]
      exact ih p
    · rw [heq]
      exact UsageLedger.sound_empty
  | use _ key path now ih =>
    rw [tryUse_eq, accounts_tryUseBy]
    exact Accounts.ledger_chargeFirst_of (fun limit l hl => hl.offer key now limit) ih _ p

/-- From any moment on, there is nothing to track yet. -/
theorem Reachable.tracks_nil (h : t.Reachable) (key : String) (now : Int) :
    t.accounts.Tracks key (fun _ => []) now where
  sound := h.sound
  buffers {_ limit} _ := UsageBuffer.tracks_nil _ limit now

variable {key : String} {log : List String → List Int} {now : Int}

theorem tracks_tryUse (h : t.accounts.Tracks key log now) (user path : String) :
    ∃ log', (t.tryUse user path now).2.accounts.Tracks key log' now ∧
      Accounts.Logs (fun p => p <+: Dotted.segments path ∧ (t.accounts.limit p).isSome)
        (user = key ∧ (t.tryUse user path now).1 = true) now log log' := by
  obtain ⟨log', htracks, hlogs⟩ := h.chargeFirst user (Dotted.segments path).inits.reverse
  rw [tryUse_eq, accounts_tryUseBy, fst_tryUseBy]
  refine ⟨log', htracks, hlogs.mono ?_ id⟩
  rintro p ⟨hp, hset⟩
  rw [List.mem_reverse, List.mem_inits] at hp
  exact ⟨hp, hset⟩

theorem tracks_tryUseInOrder (h : t.accounts.Tracks key log now) (user suffix : String)
    (groups : List String) :
    ∃ log', (t.tryUseInOrder user suffix now groups).2.accounts.Tracks key log' now ∧
      Accounts.Logs (fun p => (∃ group ∈ groups, p <+: Dotted.segments (Dotted.below group suffix)) ∧
          (t.accounts.limit p).isSome)
        (user = key ∧ (t.tryUseInOrder user suffix now groups).1 = true) now log log' := by
  induction groups generalizing t log with
  | nil =>
    refine ⟨log, h, .refl log ?_⟩
    rintro ⟨-, hused⟩
    cases hused
  | cons group groups ih =>
    obtain ⟨log₁, hfirst, hlogs⟩ := tracks_tryUse h user (Dotted.below group suffix)
    have hlimit := t.limit_tryUse user (Dotted.below group suffix) now
    have hhead : ∀ p, p <+: Dotted.segments (Dotted.below group suffix) ∧
        (t.accounts.limit p).isSome →
        (∃ group' ∈ group :: groups, p <+: Dotted.segments (Dotted.below group' suffix)) ∧
          (t.accounts.limit p).isSome := by
      rintro p ⟨hp, hset⟩
      exact ⟨⟨group, List.mem_cons_self, hp⟩, hset⟩
    rw [tryUseInOrder]
    generalize t.tryUse user (Dotted.below group suffix) now = result at hfirst hlogs hlimit
    obtain ⟨used, t'⟩ := result
    cases used with
    | true => exact ⟨log₁, hfirst, hlogs.mono hhead id⟩
    | false =>
      obtain ⟨log₂, hrest, hlogs'⟩ := ih hfirst
      refine ⟨log₂, hrest, (hlogs.mono hhead id).trans (hlogs'.mono ?_ id)⟩
      rintro p ⟨⟨group', hgroup', hp⟩, hset⟩
      rw [hlimit] at hset
      exact ⟨⟨group', List.mem_cons_of_mem _ hgroup', hp⟩, hset⟩

/-- **A use for some groups** keeps track of the chatter's uses, whoever it is by. -/
theorem tracks_tryUseGroups (h : t.accounts.Tracks key log now) (user : String) (groups : StringSet)
    (suffix : String) :
    ∃ log', (t.tryUseGroups user groups suffix now).2.accounts.Tracks key log' now ∧
      Accounts.Logs (fun p => (∃ group ∈ groups, p <+: Dotted.segments (Dotted.below group suffix)) ∧
          (t.accounts.limit p).isSome)
        (user = key ∧ (t.tryUseGroups user groups suffix now).1 = true) now log log' :=
  tracks_tryUseInOrder h user suffix groups.members

end UsageTree

end ChatCommands
