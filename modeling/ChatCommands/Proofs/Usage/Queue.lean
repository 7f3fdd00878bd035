import Mathlib.Data.List.Infix
import ChatCommands.Usage.Buffer

/-!
# The ring buffer as a queue

A ring buffer stands for the list of the uses it holds, oldest first. On that list the limit works in
a simple way: it remembers the last `count` uses, and once there are as many it asks whether the oldest
has left the window (`UsageLimit.enqueue`). If the uses are in order of time, that is to ask whether
fewer than `count` of them are still in the window (`UsageLimit.grant`).

**Theorem (`tryUse_resize_eq_enqueue`).** Resizing the buffer and trying a use decides, and leaves
behind, what `UsageLimit.enqueue` does on the list of uses, wherever the cursor stands.

**Theorem (`tryUse_resize`).** That is what `UsageLimit.grant` does, where the uses are in order of time.
-/

namespace ChatCommands

/-! ## Limits on lists of uses -/

/-- The last `count` uses. -/
def lastUses (count : Nat) (us : List Int) : List Int :=
  us.drop (us.length - count)

/-- The number of uses that are still in the window. -/
def liveUses (now window : Int) (us : List Int) : Nat :=
  us.countP fun s => decide (now - s < window)

/-- What a limit decides on a use at `now` after the uses `us`, and the uses that it remembers. -/
def UsageLimit.grant (limit : UsageLimit) (now : Int) (us : List Int) : Bool × List Int :=
  let kept := lastUses limit.count us
  if liveUses now limit.window kept < limit.count then (true, lastUses limit.count (kept ++ [now]))
  else (false, kept)

/-- A use at `now` can be added to the queue `us`, oldest first, that was cut to the count already. -/
def UsageLimit.admits (limit : UsageLimit) (now : Int) (us : List Int) : Bool :=
  decide (0 < limit.count) && (decide (us.length < limit.count) ||
    us.head?.any fun oldest => decide (limit.window ≤ now - oldest))

/-- What a limit decides on a use at `now` by the oldest of the uses that it remembers, and the uses
that it remembers then. -/
def UsageLimit.enqueue (limit : UsageLimit) (now : Int) (us : List Int) : Bool × List Int :=
  let kept := lastUses limit.count us
  if limit.admits now kept then (true, lastUses limit.count (kept ++ [now])) else (false, kept)

section
variable {count : Nat} {us : List Int} {now window : Int}

theorem lastUses_eq_self (h : us.length ≤ count) : lastUses count us = us := by
  rw [lastUses, Nat.sub_eq_zero_of_le h, List.drop_zero]

theorem lastUses_suffix (count : Nat) (us : List Int) : lastUses count us <:+ us :=
  List.drop_suffix _ _

theorem length_lastUses_le (count : Nat) (us : List Int) : (lastUses count us).length ≤ count := by
  rw [lastUses, List.length_drop]
  omega

theorem lastUses_cons_of_length_eq {s : Int} (h : us.length = count) :
    lastUses count (s :: us) = us := by
  rw [lastUses, List.length_cons, h, Nat.add_sub_cancel_left, List.drop_one, List.tail_cons]

theorem liveUses_le_length (now window : Int) (us : List Int) :
    liveUses now window us ≤ us.length :=
  List.countP_le_length

/-- If the oldest use is in the window, all are. -/
theorem liveUses_eq_length {s : Int} (hs : ∀ s' ∈ us, s ≤ s') (hlive : now - s < window) :
    liveUses now window us = us.length := by
  rw [liveUses, List.countP_eq_length]
  intro s' hs'
  have := hs s' hs'
  exact decide_eq_true (by omega)

theorem liveUses_eq_zero (h : ∀ s ∈ us, window ≤ now - s) : liveUses now window us = 0 := by
  rw [liveUses, List.countP_eq_zero]
  intro s hs
  have := h s hs
  simp only [decide_eq_true_eq]
  omega

theorem liveUses_append (us us' : List Int) :
    liveUses now window (us ++ us') = liveUses now window us + liveUses now window us' :=
  List.countP_append

/-- As many uses as the limit allows leave room once the oldest has left the window. -/
theorem liveUses_cons_lt_iff {s : Int} (hs : ∀ s' ∈ us, s ≤ s') :
    liveUses now window (s :: us) < us.length + 1 ↔ window ≤ now - s := by
  by_cases hlive : now - s < window
  · have hall : liveUses now window (s :: us) = us.length + 1 := by
      refine liveUses_eq_length (s := s) (fun s' hs' => ?_) hlive
      rcases List.mem_cons.1 hs' with rfl | hs'
      · exact Int.le_refl _
      · exact hs s' hs'
    omega
  · have hcount : liveUses now window (s :: us) = liveUses now window us := by
      rw [liveUses, List.countP_cons_of_neg (by simpa using hlive), liveUses]
    have := liveUses_le_length now window us
    omega

end

namespace UsageLimit

variable {limit : UsageLimit} {us : List Int}

/-- Of uses in order of time, as many as the limit allows at most, the oldest tells whether all are
live. -/
theorem admits_eq_of_sorted (hlength : us.length ≤ limit.count) (hsorted : us.Pairwise (· ≤ ·))
    (now : Int) : limit.admits now us = decide (liveUses now limit.window us < limit.count) := by
  have hlive := liveUses_le_length now limit.window us
  rw [admits]
  rcases Nat.lt_or_eq_of_le hlength with hgrow | hfull
  · have hpos : 0 < limit.count := Nat.zero_lt_of_lt hgrow
    have hroom : liveUses now limit.window us < limit.count := by omega
    rw [decide_eq_true hpos, decide_eq_true hgrow, decide_eq_true hroom, Bool.true_and, Bool.true_or]
  · cases us with
    | nil =>
      rw [← hfull]
      rfl
    | cons oldest newer =>
      have hiff : liveUses now limit.window (oldest :: newer) < newer.length + 1 ↔ _ :=
        liveUses_cons_lt_iff (List.pairwise_cons.1 hsorted).1
      simp [← hfull, hiff]

theorem enqueue_eq_grant (hsorted : us.Pairwise (· ≤ ·)) (now : Int) :
    limit.enqueue now us = limit.grant now us := by
  have hkept := hsorted.sublist (lastUses_suffix limit.count us).sublist
  rw [enqueue, grant, admits_eq_of_sorted (length_lastUses_le _ _) hkept]
  simp only [decide_eq_true_eq]

end UsageLimit

namespace UsageBuffer

/-! ## The list of a buffer -/

/-- The uses that a buffer holds, oldest first. -/
def uses (b : UsageBuffer) : List Int :=
  b.slots.drop b.cursor ++ b.slots.take b.cursor

/-- The cursor is on a slot, or at the front of a buffer without slots. -/
def Valid (b : UsageBuffer) : Prop :=
  b.cursor = 0 ∨ b.cursor < b.slots.length

/-- The buffer holds at most `count` uses, and wraps around only where it holds as many. -/
structure Fits (b : UsageBuffer) (count : Nat) : Prop where
  valid : b.Valid
  length_le : b.slots.length ≤ count
  cursor_eq_zero : b.slots.length < count → b.cursor = 0

theorem length_uses (b : UsageBuffer) : b.uses.length = b.slots.length := by
  rw [uses, List.length_append, Nat.add_comm, ← List.length_append, List.take_append_drop]

theorem uses_of_cursor_eq_zero {b : UsageBuffer} (h : b.cursor = 0) : b.uses = b.slots := by
  rw [uses, h, List.drop_zero, List.take_zero, List.append_nil]

theorem uses_empty : ({} : UsageBuffer).uses = [] := rfl

theorem valid_empty : ({} : UsageBuffer).Valid := .inl rfl

/-- The slots of a buffer with the cursor on one of them. -/
theorem exists_slots_eq {b : UsageBuffer} (h : b.cursor < b.slots.length) :
    ∃ newer oldest older, b.slots = newer ++ oldest :: older ∧ b.cursor = newer.length ∧
      b.uses = oldest :: older ++ newer := by
  have hdrop := List.drop_eq_getElem_cons h
  refine ⟨b.slots.take b.cursor, b.slots[b.cursor], b.slots.drop (b.cursor + 1), ?_, ?_, ?_⟩
  · rw [← hdrop, List.take_append_drop]
  · rw [List.length_take, Nat.min_eq_left h.le]
  · rw [uses, hdrop]

/-! ## Resizing and trying -/

theorem uses_resize {b : UsageBuffer} (count : Nat) :
    (b.resize count).uses = lastUses count b.uses := by
  unfold resize
  dsimp only
  split_ifs with h
  · rw [lastUses_eq_self]
    rw [length_uses]
    rcases h with h | ⟨h, -⟩
    · exact h.le
    · exact h.le
  · rw [uses_of_cursor_eq_zero rfl, lastUses, length_uses]
    rfl

theorem fits_resize {b : UsageBuffer} (h : b.Valid) (count : Nat) : (b.resize count).Fits count := by
  unfold resize
  dsimp only
  split_ifs with hsize
  · refine ⟨h, ?_, fun hlt => ?_⟩
    · rcases hsize with hsize | ⟨hsize, -⟩
      · exact hsize.le
      · exact hsize.le
    · rcases hsize with hsize | ⟨-, hcursor⟩
      · exact absurd hsize hlt.ne
      · exact hcursor
  · refine ⟨.inl rfl, ?_, fun _ => rfl⟩
    have : (b.slots.drop b.cursor ++ b.slots.take b.cursor).length = b.slots.length := b.length_uses
    rw [List.length_drop, this]
    omega

/-- Overwriting the oldest use makes the next one the oldest, also where the cursor wraps around. -/
theorem uses_overwrite (newer older : List Int) (oldest now : Int) :
    uses { slots := (newer ++ oldest :: older).set newer.length now
           cursor := (newer.length + 1) % (newer ++ oldest :: older).length } =
      older ++ newer ++ [now] := by
  have hset : (newer ++ oldest :: older).set newer.length now = newer ++ [now] ++ older := by
    rw [List.set_append_right _ _ (Nat.le_refl _), Nat.sub_self, List.set_cons_zero,
      List.append_assoc, List.singleton_append]
  have hlength : (newer ++ [now]).length = newer.length + 1 := by
    rw [List.length_append, List.length_singleton]
  rw [uses, hset]
  dsimp only
  by_cases hwrap : older = []
  · -- The cursor was on the last slot and goes back to the first.
    have hcursor : (newer.length + 1) % (newer ++ oldest :: older).length = 0 := by
      rw [hwrap, List.length_append, List.length_singleton, Nat.mod_self]
    rw [hcursor, hwrap, List.drop_zero, List.take_zero]
    simp
  · have hcursor : (newer.length + 1) % (newer ++ oldest :: older).length = newer.length + 1 := by
      have := List.length_pos_iff.2 hwrap
      rw [List.length_append, List.length_cons]
      exact Nat.mod_eq_of_lt (by omega)
    rw [hcursor, ← hlength, List.drop_left, List.take_left, List.append_assoc]

/-- A full buffer overwrites its oldest use, if that has left the window. -/
theorem tryUse_of_full {b : UsageBuffer} {limit : UsageLimit} (hvalid : b.Valid)
    (hfull : b.slots.length = limit.count) (hpos : 0 < limit.count) (now : Int) :
    (b.tryUse limit now).1 = limit.admits now b.uses ∧ (b.tryUse limit now).2.Valid ∧
      (b.tryUse limit now).2.uses =
        if limit.admits now b.uses then lastUses limit.count (b.uses ++ [now]) else b.uses := by
  have hcursor : b.cursor < b.slots.length := by
    rcases hvalid with h | h
    · omega
    · exact h
  obtain ⟨newer, oldest, older, hslots, hnewer, huses⟩ := exists_slots_eq hcursor
  have hlength : (older ++ newer).length + 1 = limit.count := by
    rw [← hfull, hslots]
    simp only [List.length_append, List.length_cons]
    omega
  have hadmits : limit.admits now b.uses = decide (limit.window ≤ now - oldest) := by
    have hnot : ¬ (oldest :: (older ++ newer)).length < limit.count := by
      rw [List.length_cons]
      omega
    rw [huses, List.cons_append, UsageLimit.admits, decide_eq_true hpos, decide_eq_false hnot,
      Bool.true_and, Bool.false_or, List.head?_cons, Option.any_some]
  have holdest : b.slots[b.cursor]? = some oldest := by
    rw [hslots, hnewer, List.getElem?_append_right (Nat.le_refl _), Nat.sub_self]
    rfl
  rw [hadmits]
  unfold tryUse
  rw [if_neg hpos.ne', if_neg hfull.not_lt, holdest]
  dsimp only
  by_cases hlive : now - oldest < limit.window
  · have hnot : ¬ limit.window ≤ now - oldest := by omega
    rw [if_pos hlive, decide_eq_false hnot]
    exact ⟨rfl, hvalid, rfl⟩
  · have hexpired : limit.window ≤ now - oldest := by omega
    rw [if_neg hlive, decide_eq_true hexpired]
    have hlast : lastUses limit.count (b.uses ++ [now]) = older ++ newer ++ [now] := by
      rw [huses, List.cons_append, List.cons_append, lastUses_cons_of_length_eq]
      rw [List.length_append]
      exact hlength
    refine ⟨rfl, .inr ?_, ?_⟩
    · show (b.cursor + 1) % b.slots.length < (b.slots.set b.cursor now).length
      rw [List.length_set]
      exact Nat.mod_lt _ (Nat.zero_lt_of_lt hcursor)
    · rw [if_pos rfl, hlast, hslots, hnewer, uses_overwrite]

/-- Trying a use on a buffer that fits the limit. -/
theorem tryUse_of_fits {b : UsageBuffer} {limit : UsageLimit} (h : b.Fits limit.count) (now : Int) :
    (b.tryUse limit now).1 = limit.admits now b.uses ∧ (b.tryUse limit now).2.Valid ∧
      (b.tryUse limit now).2.uses =
        if limit.admits now b.uses then lastUses limit.count (b.uses ++ [now]) else b.uses := by
  rcases Nat.eq_zero_or_pos limit.count with hzero | hpos
  · have hadmits : limit.admits now b.uses = false := by
      rw [UsageLimit.admits, hzero, decide_eq_false (Nat.lt_irrefl 0), Bool.false_and]
    rw [tryUse, if_pos hzero, hadmits]
    exact ⟨rfl, h.valid, rfl⟩
  · rcases Nat.lt_or_eq_of_le h.length_le with hgrow | hfull
    · -- The buffer still grows, so its cursor has not moved.
      have hcursor := h.cursor_eq_zero hgrow
      have huses := uses_of_cursor_eq_zero hcursor
      have hadmits : limit.admits now b.uses = true := by
        rw [UsageLimit.admits, length_uses, decide_eq_true hpos, decide_eq_true hgrow,
          Bool.true_and, Bool.true_or]
      rw [tryUse, if_neg hpos.ne', if_pos hgrow, hadmits]
      refine ⟨rfl, .inl hcursor, ?_⟩
      have hfit : (b.uses ++ [now]).length ≤ limit.count := by
        rw [List.length_append, length_uses]
        exact hgrow
      rw [if_pos rfl, lastUses_eq_self hfit, huses]
      exact uses_of_cursor_eq_zero hcursor
    · exact tryUse_of_full h.valid hfull hpos now

/-- **The ring buffer does what the limit does on the queue of uses**, in order of time or not. -/
theorem tryUse_resize_eq_enqueue {b : UsageBuffer} (hvalid : b.Valid) (limit : UsageLimit)
    (now : Int) :
    ((b.resize limit.count).tryUse limit now).1 = (limit.enqueue now b.uses).1 ∧
      ((b.resize limit.count).tryUse limit now).2.Valid ∧
      ((b.resize limit.count).tryUse limit now).2.uses = (limit.enqueue now b.uses).2 := by
  obtain ⟨hanswer, hvalid', huses'⟩ := tryUse_of_fits (fits_resize hvalid limit.count) now
  rw [hanswer, huses', uses_resize]
  unfold UsageLimit.enqueue
  dsimp only
  split_ifs with hadmits
  · exact ⟨hadmits, hvalid', rfl⟩
  · exact ⟨Bool.eq_false_iff.2 hadmits, hvalid', rfl⟩

/-- **Where the uses are in order of time** the ring buffer counts those in the window. -/
theorem tryUse_resize {b : UsageBuffer} (hvalid : b.Valid) (hsorted : b.uses.Pairwise (· ≤ ·))
    (limit : UsageLimit) (now : Int) :
    ((b.resize limit.count).tryUse limit now).1 = (limit.grant now b.uses).1 ∧
      ((b.resize limit.count).tryUse limit now).2.Valid ∧
      ((b.resize limit.count).tryUse limit now).2.uses = (limit.grant now b.uses).2 := by
  rw [← UsageLimit.enqueue_eq_grant hsorted]
  exact tryUse_resize_eq_enqueue hvalid limit now

/-! ## Idle buffers -/

theorem newest?_eq {b : UsageBuffer} (h : b.Valid) : b.newest? = b.uses.getLast? := by
  unfold newest?
  by_cases hslots : b.slots = []
  · simp [hslots, uses]
  · have hpos := List.length_pos_iff.2 hslots
    have hcursor : b.cursor < b.slots.length := by
      rcases h with h | h
      · omega
      · exact h
    rw [if_neg (by simpa using hslots)]
    obtain ⟨newer, oldest, older, heq, hnewer, huses⟩ := exists_slots_eq hcursor
    rw [huses, heq, hnewer]
    by_cases hfirst : newer = []
    · subst hfirst
      simp [List.getLast?_eq_getElem?]
    · have hnewer_pos := List.length_pos_iff.2 hfirst
      have hindex : (newer.length + (newer ++ oldest :: older).length - 1) %
          (newer ++ oldest :: older).length = newer.length - 1 := by
        have : newer.length + (newer ++ oldest :: older).length - 1 =
            newer.length - 1 + (newer ++ oldest :: older).length := by omega
        rw [this, Nat.add_mod_right, Nat.mod_eq_of_lt]
        rw [List.length_append]
        omega
      rw [hindex, List.getElem?_append_left (by omega), List.getLast?_append_of_ne_nil _ hfirst,
        List.getLast?_eq_getElem?]

/-- **An idle buffer holds no use that is still in the window.** -/
theorem isIdle_iff {b : UsageBuffer} (h : b.Valid) (hsorted : b.uses.Pairwise (· ≤ ·))
    (now window : Int) : b.isIdle now window = true ↔ ∀ s ∈ b.uses, window ≤ now - s := by
  rw [isIdle, newest?_eq h]
  rcases List.eq_nil_or_concat b.uses with hnil | ⟨us, newest, heq⟩
  · simp [hnil]
  · rw [List.concat_eq_append] at heq
    rw [heq] at hsorted ⊢
    simp only [List.getLast?_append, List.getLast?_singleton, Option.some_or, decide_eq_true_eq,
      List.mem_append, List.mem_singleton]
    constructor
    · rintro hidle s (hs | rfl)
      · have := (List.pairwise_append.1 hsorted).2.2 s hs newest (List.mem_singleton_self _)
        omega
      · exact hidle
    · exact fun hall => hall newest (.inr rfl)

end UsageBuffer

end ChatCommands
