import ChatCommands.Proofs.Usage.Queue

/-!
# Ring buffers under changing limits

A limit may be given another count at any time. A buffer that has wrapped around may then have to grow,
one that still grows may be full already, and one with too many uses loses the oldest, all of them if
nothing is allowed any more. In none of these ways the buffer departs from the queue that it stands for.

* `UsageLimit.enqueueAll`: uses offered to a plain queue, each under a limit of its own.
* `UsageBuffer.tryUseAll`: the same uses offered to a ring buffer.
* `UsageBuffer.Represents`: the buffer holds the uses of a queue, and no operation on it leaves the slots.

**Theorem (`represents_tryUseAll`).** Buffer and queue give the same answers to any uses under any limits,
in order of time or not, and the buffer represents the queue afterwards.
-/

namespace ChatCommands

/-- What limits decide on uses, one after the other, and the uses that are remembered in the end. -/
def UsageLimit.enqueueAll (us : List Int) : List (UsageLimit × Int) → List Bool × List Int
  | [] => ([], us)
  | (limit, now) :: steps =>
    let (answer, us) := limit.enqueue now us
    let (answers, us) := enqueueAll us steps
    (answer :: answers, us)

namespace UsageBuffer

/-- Tries uses, one after the other, fitting the buffer to the limit of each. -/
def tryUseAll (b : UsageBuffer) : List (UsageLimit × Int) → List Bool × UsageBuffer
  | [] => ([], b)
  | (limit, now) :: steps =>
    let (answer, b) := (b.resize limit.count).tryUse limit now
    let (answers, b) := b.tryUseAll steps
    (answer :: answers, b)

/-- Whatever is done next under a limit with this count takes place within the slots. -/
structure InRange (b : UsageBuffer) (count : Nat) : Prop where
  /-- The slots are turned around at one of them, or at their end. -/
  turned : b.cursor ≤ b.slots.length
  /-- No more slots are dropped than there are once they are turned around. -/
  dropped : count < b.slots.length →
    b.slots.length - count ≤ (b.slots.drop b.cursor ++ b.slots.take b.cursor).length
  /-- Where the buffer does not grow, there is an oldest use to read and overwrite. -/
  overwritten : 0 < count → ¬ (b.resize count).slots.length < count →
    (b.resize count).cursor < (b.resize count).slots.length
  /-- The newest use is looked up in one of the slots. -/
  newest : b.slots ≠ [] → (b.cursor + b.slots.length - 1) % b.slots.length < b.slots.length

/-- The buffer stands for the queue `us`, oldest use first. -/
structure Represents (b : UsageBuffer) (us : List Int) : Prop where
  uses_eq : b.uses = us
  newest?_eq : b.newest? = us.getLast?
  /-- The same between resizing and trying a use. -/
  newest?_resize (count : Nat) : (b.resize count).newest? = (lastUses count us).getLast?
  inRange (count : Nat) : b.InRange count

variable {b : UsageBuffer}

theorem Valid.inRange (h : b.Valid) (count : Nat) : b.InRange count where
  turned := by
    rcases h with h | h
    · exact h ▸ Nat.zero_le _
    · exact h.le
  dropped _ := by
    have hlength : (b.slots.drop b.cursor ++ b.slots.take b.cursor).length = b.slots.length :=
      b.length_uses
    rw [hlength]
    exact Nat.sub_le _ _
  overwritten hpos hfull := by
    rcases (fits_resize h count).valid with hcursor | hcursor
    · omega
    · exact hcursor
  newest hne := Nat.mod_lt _ (List.length_pos_iff.2 hne)

theorem Valid.represents (h : b.Valid) : b.Represents b.uses where
  uses_eq := rfl
  newest?_eq := UsageBuffer.newest?_eq h
  newest?_resize count := by rw [UsageBuffer.newest?_eq (fits_resize h count).valid, uses_resize]
  inRange := h.inRange

/-- **One use after the other**, buffer and queue stay together. -/
theorem tryUseAll_eq (h : b.Valid) (steps : List (UsageLimit × Int)) :
    (b.tryUseAll steps).1 = (UsageLimit.enqueueAll b.uses steps).1 ∧
      (b.tryUseAll steps).2.Valid ∧
      (b.tryUseAll steps).2.uses = (UsageLimit.enqueueAll b.uses steps).2 := by
  induction steps generalizing b with
  | nil => exact ⟨rfl, h, rfl⟩
  | cons step steps ih =>
    obtain ⟨limit, now⟩ := step
    obtain ⟨hanswer, hvalid, huses⟩ := tryUse_resize_eq_enqueue h limit now
    obtain ⟨hanswers, hvalid', huses'⟩ := ih hvalid
    rw [huses] at hanswers huses'
    exact ⟨congrArg₂ List.cons hanswer hanswers, hvalid', huses'⟩

/-- **A ring buffer is a bounded queue**, whatever becomes of its bound. -/
theorem represents_tryUseAll (steps : List (UsageLimit × Int)) :
    (tryUseAll {} steps).1 = (UsageLimit.enqueueAll [] steps).1 ∧
      (tryUseAll {} steps).2.Represents (UsageLimit.enqueueAll [] steps).2 := by
  obtain ⟨hanswers, hvalid, huses⟩ := tryUseAll_eq valid_empty steps
  rw [uses_empty] at hanswers huses
  exact ⟨hanswers, huses ▸ hvalid.represents⟩

/-- The buffer wraps around, grows with the cursor on its second slot, and is cut to its newest use. -/
example : tryUseAll {} [(⟨2, 5⟩, 0), (⟨2, 5⟩, 1), (⟨2, 5⟩, 6), (⟨3, 5⟩, 4), (⟨1, 0⟩, 4), (⟨0, 0⟩, 9)] =
    ([true, true, true, true, true, false], {}) := by
  decide

end UsageBuffer

end ChatCommands
