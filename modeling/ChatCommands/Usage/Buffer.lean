/-!
# Ring buffers of recent uses

A usage limit admits `count` uses within any span of `window` milliseconds. To judge the next use it
is enough to know the last `count` uses. They are kept in a ring buffer that grows up to `count`
entries and then overwrites its oldest one. A window may be zero or negative; then a full buffer
always has room again.
-/

namespace ChatCommands

structure UsageLimit where
  count : Nat
  window : Int
  deriving DecidableEq, Repr

structure UsageBuffer where
  slots : List Int := []
  /-- The position of the oldest entry once the buffer is full. -/
  cursor : Nat := 0
  deriving DecidableEq, Repr

namespace UsageBuffer

/-- Makes the buffer fit a count. Where entries have to go, the most recent ones stay. -/
def resize (b : UsageBuffer) (count : Nat) : UsageBuffer :=
  let size := b.slots.length
  if size = count ∨ (size < count ∧ b.cursor = 0) then b
  else
    let ordered := b.slots.drop b.cursor ++ b.slots.take b.cursor
    { slots := ordered.drop (size - count), cursor := 0 }

def tryUse (b : UsageBuffer) (limit : UsageLimit) (now : Int) : Bool × UsageBuffer :=
  if limit.count = 0 then (false, b)
  else if b.slots.length < limit.count then (true, { b with slots := b.slots ++ [now] })
  else
    match b.slots[b.cursor]? with
    | none => (false, b)
    | some oldest =>
      if now - oldest < limit.window then (false, b)
      else
        (true, { slots := b.slots.set b.cursor now, cursor := (b.cursor + 1) % b.slots.length })

def newest? (b : UsageBuffer) : Option Int :=
  if b.slots.isEmpty then none
  else b.slots[(b.cursor + b.slots.length - 1) % b.slots.length]?

def isIdle (b : UsageBuffer) (now window : Int) : Bool :=
  match b.newest? with
  | none => true
  | some newest => decide (window ≤ now - newest)

end UsageBuffer

end ChatCommands
