import ChatCommands.Proofs.Usage.Sparse

/-!
# Ledgers stay bounded

A ledger is pruned right before a use if it has reached a certain size. The use may then add a buffer,
also one that is refused. So what has to be kept is a bound that a pruned ledger stays strictly below
(`length_prune_lt`), on both sides of the size at which doubling takes over.

* `UsageRequest`, `serveAll`: uses asked for by any chatters, under any limits, at any instants.
* `survivors?`: what the last pruning of a run left.
* `recorded`: the uses of a chatter that were granted in a run. What a buffer holds are the last ones of
  them (`uses_serveAll_suffix`).

**Theorem (`bounded_serveAll`).** After any run there are at most as many buffers as the next pruning is due
at, which is determined by the survivors of the last one. If it is due, it takes out the buffers that are
empty or whose chatter had no use within the window, and no others.

**Theorem (`Reachable.exists_requests`).** The ledgers in the trees that come about are such ledgers.
-/

namespace ChatCommands

theorem Assoc.length_put_le {κ α : Type} [DecidableEq κ] (key : κ) (value : α)
    (entries : List (κ × α)) : (Assoc.put key value entries).length ≤ entries.length + 1 := by
  have hlength : ∀ entries : List (κ × α), (Assoc.keys entries).length = entries.length :=
    fun _ => List.length_map ..
  rw [← hlength, ← hlength, Assoc.keys_put]
  split_ifs
  · exact Nat.le_succ _
  · simp

/-- A use that is asked for under a limit. -/
structure UsageRequest where
  key : String
  limit : UsageLimit
  instant : Int

namespace UsageLedger

/-! ## Runs -/

/-- Grants or refuses a request. -/
def serve (l : UsageLedger) (r : UsageRequest) : Bool × UsageLedger :=
  l.tryUse r.limit r.key r.instant

/-- The ledger after requests, one after the other. -/
def serveAll (l : UsageLedger) : List UsageRequest → UsageLedger
  | [] => l
  | r :: rs => (l.serve r).2.serveAll rs

/-- The ledger has reached the size at which pruning is due. -/
def Due (l : UsageLedger) : Prop := l.pruneAt ≤ l.buffers.length

instance (l : UsageLedger) : Decidable l.Due :=
  inferInstanceAs (Decidable (l.pruneAt ≤ l.buffers.length))

/-- The number of buffers that the last pruning in the course of the requests left, if there was one. -/
def survivors? (l : UsageLedger) : List UsageRequest → Option Nat
  | [] => none
  | r :: rs =>
    (l.serve r).2.survivors? rs <|>
      if l.Due then some (l.prune r.instant r.limit.window).buffers.length else none

/-- The instants of the requests by `key` that were granted, in order. -/
def recorded (key : String) (l : UsageLedger) : List UsageRequest → List Int
  | [] => []
  | r :: rs =>
    (if r.key = key ∧ (l.serve r).1 = true then [r.instant] else []) ++
      recorded key (l.serve r).2 rs

/-- After these requests, a buffer of the chatter is empty, or the last use on record has left the
window. -/
def Expired (rs : List UsageRequest) (key : String) (b : UsageBuffer) (now window : Int) : Prop :=
  b.slots = [] ∨ ∃ newest ∈ (recorded key {} rs).getLast?, window ≤ now - newest

/-- What the ledger `l` is like after the requests. -/
structure Bounded (l : UsageLedger) (rs : List UsageRequest) : Prop where
  /-- The buffers belong to different chatters. -/
  distinct : l.Distinct
  length_le : l.buffers.length ≤ l.pruneAt
  pruneAt_of_none : survivors? {} rs = none → l.pruneAt = 64
  pruneAt_of_some : ∀ n, survivors? {} rs = some n → l.pruneAt = max 64 (2 * n)
  /-- Pruning takes out exactly the buffers that are expired. -/
  mem_prune : l.Due → ∀ now window key b,
    (key, b) ∈ (l.prune now window).buffers ↔ (key, b) ∈ l.buffers ∧ ¬ Expired rs key b now window

/-! ## Size -/

section
variable {l : UsageLedger}

theorem buffers_prune_of_due (h : l.Due) (now window : Int) :
    (l.prune now window).buffers = l.buffers.filter fun entry => !entry.2.isIdle now window := by
  rw [prune, if_neg (Nat.not_lt.2 h)]

theorem pruneAt_prune (l : UsageLedger) (now window : Int) : (l.prune now window).pruneAt =
    if l.Due then max 64 (2 * (l.prune now window).buffers.length) else l.pruneAt := by
  by_cases hdue : l.Due
  · rw [if_pos hdue, buffers_prune_of_due hdue, prune, if_neg (Nat.not_lt.2 hdue)]
    exact Nat.max_comm _ _
  · rw [if_neg hdue, prune, if_pos (Nat.not_le.1 hdue)]

/-- **After a pruning there is room for one buffer more**, whether anything was pruned or not. -/
theorem length_prune_lt (l : UsageLedger) (now window : Int) :
    (l.prune now window).buffers.length < (l.prune now window).pruneAt := by
  by_cases hdue : l.Due
  · rw [pruneAt_prune, if_pos hdue]
    omega
  · rw [prune, if_pos (Nat.not_le.1 hdue)]
    exact Nat.not_le.1 hdue

theorem pruneAt_serve (l : UsageLedger) (r : UsageRequest) :
    (l.serve r).2.pruneAt = (l.prune r.instant r.limit.window).pruneAt := rfl

/-- A request adds one buffer at most. -/
theorem length_serve_le (l : UsageLedger) (r : UsageRequest) :
    (l.serve r).2.buffers.length ≤ (l.serve r).2.pruneAt :=
  (Assoc.length_put_le ..).trans (length_prune_lt l r.instant r.limit.window)

theorem length_serveAll_le (h : l.buffers.length ≤ l.pruneAt) (rs : List UsageRequest) :
    (l.serveAll rs).buffers.length ≤ (l.serveAll rs).pruneAt := by
  induction rs generalizing l with
  | nil => exact h
  | cons r rs ih => exact ih (length_serve_le l r)

/-- **The last pruning determines when the next one is due.** -/
theorem pruneAt_serveAll (l : UsageLedger) (rs : List UsageRequest) : (l.serveAll rs).pruneAt =
    ((l.survivors? rs).map fun n => max 64 (2 * n)).getD l.pruneAt := by
  induction rs generalizing l with
  | nil => rfl
  | cons r rs ih =>
    rw [serveAll, ih, pruneAt_serve, pruneAt_prune, survivors?]
    cases (l.serve r).2.survivors? rs with
    | some n => rfl
    | none => by_cases hdue : l.Due <;> simp [hdue]

end

/-! ## Records -/

section
variable {l : UsageLedger} {key : String} {history : List Int}

/-- What the buffer of a chatter holds are the last ones of the uses granted to the chatter. -/
theorem uses_serve_suffix (hl : l.Distinct) (h : (l.buffer key).uses <:+ history)
    (r : UsageRequest) : ((l.serve r).2.buffer key).uses <:+
      history ++ if r.key = key ∧ (l.serve r).1 = true then [r.instant] else [] := by
  by_cases hkey : r.key = key
  · subst hkey
    obtain ⟨kept, hkept, huses⟩ := continues_tryUse hl r.limit r.key r.instant
    have hsuffix := hkept.trans h
    rw [serve, huses]
    by_cases hused : (l.tryUse r.limit r.key r.instant).1 = true
    · obtain ⟨older, rfl⟩ := hsuffix
      rw [if_pos hused, if_pos ⟨rfl, hused⟩, List.append_assoc]
      exact List.suffix_append _ _
    · rw [if_neg hused, if_neg fun hand => hused hand.2, List.append_nil]
      exact hsuffix
  · rw [if_neg fun hand => hkey hand.1, List.append_nil]
    exact (uses_tryUse_suffix_of_ne hl r.limit (Ne.symm hkey) r.instant).trans h

theorem uses_serveAll_suffix (hl : l.Sound) (h : (l.buffer key).uses <:+ history)
    (rs : List UsageRequest) :
    ((l.serveAll rs).buffer key).uses <:+ history ++ recorded key l rs := by
  induction rs generalizing l history with
  | nil =>
    rw [recorded, List.append_nil]
    exact h
  | cons r rs ih =>
    rw [recorded, ← List.append_assoc]
    exact ih (hl.offer r.key r.instant r.limit) (uses_serve_suffix hl.distinct h r)

theorem Sound.serveAll (hl : l.Sound) (rs : List UsageRequest) : (l.serveAll rs).Sound := by
  induction rs generalizing l with
  | nil => exact hl
  | cons r rs ih => exact ih (hl.offer r.key r.instant r.limit)

/-- A ledger in which no chatter has two buffers holds the buffer of each. -/
theorem buffer_eq_of_mem (hl : l.Distinct) {b : UsageBuffer} (h : (key, b) ∈ l.buffers) :
    l.buffer key = b := by
  rw [buffer, (Assoc.get?_eq_some_iff hl).2 h]
  rfl

end

/-- **A buffer is idle exactly if it is expired.** -/
theorem isIdle_iff_expired {rs : List UsageRequest} {key : String} {b : UsageBuffer}
    (h : (key, b) ∈ (serveAll {} rs).buffers) (now window : Int) :
    b.isIdle now window = true ↔ Expired rs key b now window := by
  have hsound := sound_empty.serveAll rs
  obtain rfl := buffer_eq_of_mem hsound.distinct h
  generalize hb : (serveAll {} rs).buffer key = b
  have hstart : (({} : UsageLedger).buffer key).uses <:+ [] := List.suffix_refl []
  have hsuffix : b.uses <:+ recorded key {} rs := hb ▸ uses_serveAll_suffix sound_empty hstart rs
  rw [UsageBuffer.isIdle, UsageBuffer.newest?_eq (hb ▸ hsound.valid key), Expired]
  by_cases hslots : b.slots = []
  · have huses : b.uses = [] := List.length_eq_zero_iff.1 (by simp [b.length_uses, hslots])
    simp [hslots, huses]
  · have hne : b.uses ≠ [] := by
      intro huses
      have hlength := b.length_uses
      rw [huses] at hlength
      exact hslots (List.length_eq_zero_iff.1 hlength.symm)
    have hlast : (recorded key {} rs).getLast? = b.uses.getLast? := by
      obtain ⟨older, heq⟩ := hsuffix
      rw [← heq, List.getLast?_append_of_ne_nil _ hne]
    rw [hlast, List.getLast?_eq_getLast_of_ne_nil hne]
    simp [hslots]

/-! ## Bounds -/

/-- **Ledgers stay bounded, and pruning spares the buffers that are in use.** -/
theorem bounded_serveAll (rs : List UsageRequest) : (serveAll {} rs).Bounded rs where
  distinct := (sound_empty.serveAll rs).distinct
  length_le := length_serveAll_le (Nat.zero_le _) rs
  pruneAt_of_none h := by
    rw [pruneAt_serveAll, h]
    rfl
  pruneAt_of_some n h := by
    rw [pruneAt_serveAll, h]
    rfl
  mem_prune hdue now window key b := by
    rw [buffers_prune_of_due hdue, List.mem_filter]
    refine and_congr_right fun hmem => ?_
    rw [← isIdle_iff_expired hmem]
    simp

/-- Requests of different chatters, one in each millisecond, with room for one use each. -/
example :
    let crowd window := (List.range 65).map fun i =>
      UsageRequest.mk (String.ofList (List.replicate i 'k')) ⟨1, window⟩ i
    survivors? {} (crowd 100) = some 64 ∧ (serveAll {} (crowd 100)).pruneAt = 128 ∧
      survivors? {} (crowd 10) = some 9 ∧ (serveAll {} (crowd 10)).pruneAt = 64 := by
  decide +kernel

/-! ## Ledgers in trees -/

theorem serveAll_append (l : UsageLedger) (rs rs' : List UsageRequest) :
    l.serveAll (rs ++ rs') = (l.serveAll rs).serveAll rs' := by
  induction rs generalizing l with
  | nil => rfl
  | cons r rs ih => exact ih _

end UsageLedger

/-- **The ledgers of a usage tree have served requests, one after the other**, whatever was done to the
tree. -/
theorem UsageTree.Reachable.exists_requests {t : UsageTree} (h : t.Reachable) (p : List String) :
    ∃ rs, t.accounts.ledger p = UsageLedger.serveAll {} rs := by
  induction h generalizing p with
  | empty =>
    rw [accounts_empty, Accounts.ledger_empty]
    exact ⟨[], rfl⟩
  | @change t _ c ih =>
    rw [accounts_change_snd]
    rcases t.accounts.ledger_change c p with heq | ⟨heq, -⟩
    · rw [heq]
      exact ih p
    · rw [heq]
      exact ⟨[], rfl⟩
  | use _ key path now ih =>
    rw [tryUse_eq, accounts_tryUseBy]
    refine Accounts.ledger_chargeFirst_of (Q := fun l => ∃ rs, l = UsageLedger.serveAll {} rs)
      (fun limit l hl => ?_) ih _ p
    obtain ⟨rs, rfl⟩ := hl
    have hrun := UsageLedger.serveAll_append {} rs [⟨key, limit, now⟩]
    exact ⟨_, hrun.symm⟩

end ChatCommands
