import ChatCommands.Assoc
import ChatCommands.Usage.Buffer

/-!
# Usage ledgers

A ledger holds one buffer for every chatter who used a limited command. Once it reaches a size at
which pruning is due, buffers all of whose uses have left the window are dropped, since a chatter
without a buffer is judged alike. The next pruning is due when the ledger has doubled.
-/

namespace ChatCommands

def pruneThreshold : Nat := 64

structure UsageLedger where
  buffers : List (String × UsageBuffer) := []
  /-- The size at which the next pruning is due. -/
  pruneAt : Nat := pruneThreshold
  deriving DecidableEq

namespace UsageLedger

def prune (l : UsageLedger) (now window : Int) : UsageLedger :=
  if l.buffers.length < l.pruneAt then l
  else
    let kept := l.buffers.filter fun entry => !entry.2.isIdle now window
    { buffers := kept, pruneAt := max (2 * kept.length) pruneThreshold }

def buffer (l : UsageLedger) (key : String) : UsageBuffer :=
  (Assoc.get? key l.buffers).getD {}

def tryUse (l : UsageLedger) (limit : UsageLimit) (key : String) (now : Int) : Bool × UsageLedger :=
  let l := l.prune now limit.window
  let (used, buffer) := ((l.buffer key).resize limit.count).tryUse limit now
  (used, { l with buffers := Assoc.put key buffer l.buffers })

end UsageLedger

end ChatCommands
