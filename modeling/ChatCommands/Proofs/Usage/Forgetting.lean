import Mathlib.Logic.Function.Basic
import ChatCommands.Proofs.Usage.Queue
import ChatCommands.Usage.Ledger

/-!
# Forgetting expired uses

What a limit decides depends on the uses in its window only. So a history may lose its oldest uses, as
long as these have left the window, and nothing changes.

* `Forgets`: a list of uses without some of the oldest, all of which have left the window.
* `UsageLedger.Records`: a ledger holds, for every chatter, what is left of the chatter's history.

**Theorem (`Records.prune`).** Pruning keeps to this: what it drops has left the window.

**Theorem (`Records.tryUseUnpruned`).** So does a use, whatever history the limit's decision on the
recorded uses is part of.
-/

namespace ChatCommands

/-- `kept` is what is left of `history` after the oldest uses were forgotten, all of which have left
the window at `now`. -/
def Forgets (now window : Int) (history kept : List Int) : Prop :=
  ∃ gone, history = gone ++ kept ∧ ∀ s ∈ gone, window ≤ now - s

namespace Forgets

variable {now window : Int} {history kept : List Int}

theorem refl (us : List Int) : Forgets now window us us :=
  ⟨[], rfl, fun _ h => nomatch h⟩

/-- What has left a window stays out of it, also if the window shrinks. -/
theorem later {now' window' : Int} (h : Forgets now window history kept) (hnow : now ≤ now')
    (hwindow : window' ≤ window) : Forgets now' window' history kept := by
  obtain ⟨gone, rfl, hgone⟩ := h
  refine ⟨gone, rfl, fun s hs => ?_⟩
  have := hgone s hs
  omega

theorem suffix (h : Forgets now window history kept) : kept <:+ history := by
  obtain ⟨gone, rfl, -⟩ := h
  exact List.suffix_append _ _

theorem liveUses_eq (h : Forgets now window history kept) :
    liveUses now window history = liveUses now window kept := by
  obtain ⟨gone, rfl, hgone⟩ := h
  rw [liveUses_append, liveUses_eq_zero hgone, Nat.zero_add]

theorem append (h : Forgets now window history kept) (us : List Int) :
    Forgets now window (history ++ us) (kept ++ us) := by
  obtain ⟨gone, rfl, hgone⟩ := h
  exact ⟨gone, List.append_assoc _ _ _, hgone⟩

/-- More uses may be forgotten once they have left the window. -/
theorem drop {expired rest : List Int} (hexpired : ∀ s ∈ expired, window ≤ now - s)
    (h : Forgets now window history (expired ++ rest)) : Forgets now window history rest := by
  obtain ⟨gone, rfl, hgone⟩ := h
  refine ⟨gone ++ expired, (List.append_assoc _ _ _).symm, fun s hs => ?_⟩
  exact (List.mem_append.1 hs).elim (hgone s) (hexpired s)

/-- Remembering the last uses only does not tell the two lists apart. -/
theorem lastUses (h : Forgets now window history kept) (count : Nat) :
    Forgets now window (lastUses count history) (lastUses count kept) := by
  obtain ⟨gone, rfl, hgone⟩ := h
  by_cases hlen : kept.length ≤ count
  · refine ⟨gone.drop ((gone ++ kept).length - count), ?_, fun s hs => ?_⟩
    · rw [lastUses_eq_self hlen, ChatCommands.lastUses, List.drop_append_of_le_length]
      rw [List.length_append]
      omega
    · exact hgone s (List.mem_of_mem_drop hs)
  · have hdrop : ChatCommands.lastUses count (gone ++ kept) = ChatCommands.lastUses count kept := by
      have hgone_le : gone.length ≤ (gone ++ kept).length - count := by
        rw [List.length_append]
        omega
      rw [ChatCommands.lastUses, ChatCommands.lastUses, List.drop_append,
        List.drop_eq_nil_of_le hgone_le, List.nil_append, List.length_append]
      congr 1
      omega
    rw [hdrop]
    exact .refl _

/-- **A limit decides alike on both lists**, and what it remembers of them differs by as little. -/
theorem grant {limit : UsageLimit} (h : Forgets now limit.window history kept) :
    (limit.grant now history).1 = (limit.grant now kept).1 ∧
      Forgets now limit.window (limit.grant now history).2 (limit.grant now kept).2 := by
  have hlast := h.lastUses limit.count
  unfold UsageLimit.grant
  dsimp only
  rw [hlast.liveUses_eq]
  split_ifs
  · exact ⟨rfl, (hlast.append [now]).lastUses limit.count⟩
  · exact ⟨rfl, hlast⟩

/-- **A limit decides by the whole history**, though it remembers no more than `count` uses. -/
theorem grant_of_length_le {limit : UsageLimit} (h : Forgets now limit.window history kept)
    (hlen : kept.length ≤ limit.count) (hsorted : history.Pairwise (· ≤ ·)) :
    (limit.grant now kept).1 = decide (liveUses now limit.window history < limit.count) ∧
      Forgets now limit.window
        (if liveUses now limit.window history < limit.count then history ++ [now] else history)
        (limit.grant now kept).2 := by
  unfold UsageLimit.grant
  dsimp only
  rw [lastUses_eq_self hlen, h.liveUses_eq]
  split_ifs with hroom
  · refine ⟨(decide_eq_true hroom).symm, ?_⟩
    rcases Nat.lt_or_eq_of_le hlen with hlt | heq
    · rw [lastUses_eq_self (by rw [List.length_append]; exact hlt)]
      exact h.append [now]
    · -- The limit has room although it remembers as many uses as it can, so the oldest is out.
      obtain ⟨oldest, newer, rfl⟩ := List.exists_cons_of_length_pos (by omega : 0 < kept.length)
      have hsorted' := List.pairwise_cons.1 (hsorted.sublist h.suffix.sublist)
      have hexpired : limit.window ≤ now - oldest := by
        rw [← liveUses_cons_lt_iff hsorted'.1]
        rwa [← heq] at hroom
      have hforgets : Forgets now limit.window history newer :=
        drop (fun s hs => List.mem_singleton.1 hs ▸ hexpired) h
      rw [List.cons_append, lastUses_cons_of_length_eq (by rw [List.length_append]; exact heq)]
      exact hforgets.append [now]
  · exact ⟨(decide_eq_false hroom).symm, h⟩

end Forgets

theorem length_grant_le (limit : UsageLimit) (now : Int) (us : List Int) :
    (limit.grant now us).2.length ≤ limit.count := by
  unfold UsageLimit.grant
  dsimp only
  split_ifs <;> exact length_lastUses_le _ _

/-- What a limit remembers are uses from before and the one it granted. -/
theorem grant_sublist (limit : UsageLimit) (now : Int) (us : List Int) :
    List.Sublist (limit.grant now us).2 (us ++ [now]) := by
  have hkept : List.Sublist (lastUses limit.count us) us := (lastUses_suffix _ _).sublist
  unfold UsageLimit.grant
  dsimp only
  split_ifs
  · exact (lastUses_suffix _ _).sublist.trans (hkept.append_right [now])
  · exact hkept.trans (List.sublist_append_left _ _)

/-! ## Ledgers -/

namespace UsageLedger

/-- The ledger after a use that is tried without pruning before. -/
def tryUseUnpruned (l : UsageLedger) (limit : UsageLimit) (key : String) (now : Int) :
    Bool × UsageLedger :=
  let (used, buffer) := ((l.buffer key).resize limit.count).tryUse limit now
  (used, { l with buffers := Assoc.put key buffer l.buffers })

theorem tryUse_eq (l : UsageLedger) (limit : UsageLimit) (key : String) (now : Int) :
    l.tryUse limit key now = (l.prune now limit.window).tryUseUnpruned limit key now := rfl

/-- The ledger holds, for every chatter, what is left of the chatter's history at `now`. -/
structure Records (l : UsageLedger) (history : String → List Int) (now window : Int) : Prop where
  nodup : (Assoc.keys l.buffers).Nodup
  valid (key : String) : (l.buffer key).Valid
  sorted (key : String) : (history key).Pairwise (· ≤ ·)
  past (key : String) : ∀ s ∈ history key, s ≤ now
  forgets (key : String) : Forgets now window (history key) (l.buffer key).uses

variable {l : UsageLedger} {history : String → List Int} {now window : Int}

theorem records_empty (now window : Int) : Records {} (fun _ => []) now window where
  nodup := List.nodup_nil
  valid _ := UsageBuffer.valid_empty
  sorted _ := List.Pairwise.nil
  past _ := fun _ h => nomatch h
  forgets _ := .refl []

theorem Records.later {now' window' : Int} (h : l.Records history now window) (hnow : now ≤ now')
    (hwindow : window' ≤ window) : l.Records history now' window' where
  nodup := h.nodup
  valid := h.valid
  sorted := h.sorted
  past key s hs := Int.le_trans (h.past key s hs) hnow
  forgets key := (h.forgets key).later hnow hwindow

theorem Records.sorted_uses (h : l.Records history now window) (key : String) :
    (l.buffer key).uses.Pairwise (· ≤ ·) :=
  (h.sorted key).sublist (h.forgets key).suffix.sublist

/-- A history goes on in order with a use at `now`, and so does what is left of that. -/
theorem Records.sorted_of_sublist (h : l.Records history now window) {key : String}
    {us : List Int} (hus : us.Sublist (history key ++ [now])) : us.Pairwise (· ≤ ·) := by
  refine List.Pairwise.sublist hus (List.pairwise_append.2
    ⟨h.sorted key, List.pairwise_singleton _ _, fun s hs t ht => ?_⟩)
  rw [List.mem_singleton.1 ht]
  exact h.past key s hs

theorem Records.past_of_sublist (h : l.Records history now window) {key : String}
    {us : List Int} (hus : us.Sublist (history key ++ [now])) : ∀ s ∈ us, s ≤ now := by
  intro s hs
  rcases List.mem_append.1 (hus.subset hs) with hs | hs
  · exact h.past key s hs
  · exact Int.le_of_eq (List.mem_singleton.1 hs)

/-- Pruning leaves the buffer of a chatter alone, or drops it when it is idle. -/
theorem buffer_prune (hnodup : (Assoc.keys l.buffers).Nodup) (now window : Int) (key : String) :
    (l.prune now window).buffer key = l.buffer key ∨
      ((l.prune now window).buffer key = {} ∧ (l.buffer key).isIdle now window = true) := by
  unfold prune
  split_ifs
  · exact .inl rfl
  · have hget := Assoc.get?_filter hnodup (fun entry => !entry.2.isIdle now window) key
    simp only [buffer]
    rw [hget]
    cases hentry : Assoc.get? key l.buffers with
    | none => exact .inl rfl
    | some b =>
      by_cases hidle : b.isIdle now window = true
      · exact .inr (by simp [Option.filter, hidle])
      · exact .inl (by simp [Option.filter, hidle])

/-- **Pruning drops only what has left the window.** -/
theorem Records.prune (h : l.Records history now window) :
    (l.prune now window).Records history now window where
  nodup := by
    unfold UsageLedger.prune
    split_ifs
    · exact h.nodup
    · exact Assoc.nodup_keys_filter h.nodup _
  valid key := by
    rcases buffer_prune h.nodup now window key with heq | ⟨heq, -⟩
    · rw [heq]
      exact h.valid key
    · rw [heq]
      exact UsageBuffer.valid_empty
  sorted := h.sorted
  past := h.past
  forgets key := by
    rcases buffer_prune h.nodup now window key with heq | ⟨heq, hidle⟩
    · rw [heq]
      exact h.forgets key
    · rw [heq, UsageBuffer.uses_empty]
      rw [UsageBuffer.isIdle_iff (h.valid key) (h.sorted_uses key)] at hidle
      refine Forgets.drop hidle ?_
      rw [List.append_nil]
      exact h.forgets key

/-! ## Uses -/

theorem buffer_put (l : UsageLedger) (key key' : String) (b : UsageBuffer) :
    ({ l with buffers := Assoc.put key b l.buffers } : UsageLedger).buffer key' =
      if key = key' then b else l.buffer key' := by
  simp only [buffer, Assoc.get?_put]
  split_ifs <;> rfl

theorem buffer_tryUseUnpruned (l : UsageLedger) (limit : UsageLimit) (key key' : String)
    (now : Int) :
    (l.tryUseUnpruned limit key now).2.buffer key' =
      if key = key' then (((l.buffer key).resize limit.count).tryUse limit now).2
      else l.buffer key' :=
  buffer_put ..

/-- A use is decided by the recorded uses of its chatter. -/
theorem Records.tryUseUnpruned_fst {limit : UsageLimit} (h : l.Records history now limit.window)
    (key : String) :
    (l.tryUseUnpruned limit key now).1 = (limit.grant now (l.buffer key).uses).1 :=
  (UsageBuffer.tryUse_resize (h.valid key) (h.sorted_uses key) limit now).1

theorem Records.uses_tryUseUnpruned {limit : UsageLimit}
    (h : l.Records history now limit.window) (key : String) :
    ((l.tryUseUnpruned limit key now).2.buffer key).uses =
      (limit.grant now (l.buffer key).uses).2 := by
  rw [buffer_tryUseUnpruned, if_pos rfl]
  exact (UsageBuffer.tryUse_resize (h.valid key) (h.sorted_uses key) limit now).2.2

/-- **A use keeps the records**, with any history that the limit's answer on the recorded uses is
part of. -/
theorem Records.tryUseUnpruned {limit : UsageLimit} (h : l.Records history now limit.window)
    (key : String) {us : List Int} (hus : us.Sublist (history key ++ [now]))
    (hforgets : Forgets now limit.window us (limit.grant now (l.buffer key).uses).2) :
    (l.tryUseUnpruned limit key now).2.Records (Function.update history key us) now
      limit.window := by
  have hvalid := (UsageBuffer.tryUse_resize (h.valid key) (h.sorted_uses key) limit now).2.1
  refine ⟨Assoc.nodup_keys_put h.nodup, fun key' => ?_, fun key' => ?_, fun key' => ?_,
    fun key' => ?_⟩
  · rw [buffer_tryUseUnpruned]
    split_ifs
    · exact hvalid
    · exact h.valid key'
  · by_cases hkey : key' = key
    · subst hkey
      rw [Function.update_self]
      exact h.sorted_of_sublist hus
    · rw [Function.update_of_ne hkey]
      exact h.sorted key'
  · by_cases hkey : key' = key
    · subst hkey
      rw [Function.update_self]
      exact h.past_of_sublist hus
    · rw [Function.update_of_ne hkey]
      exact h.past key'
  · by_cases hkey : key' = key
    · subst hkey
      rwa [Function.update_self, h.uses_tryUseUnpruned]
    · rw [Function.update_of_ne hkey, buffer_tryUseUnpruned, if_neg (Ne.symm hkey)]
      exact h.forgets key'

end UsageLedger

end ChatCommands
