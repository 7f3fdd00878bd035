import ChatCommands.Policy.Store

/-!
# Listening to a feed of events

Events reach a listener through a channel of limited capacity. A listener that falls behind loses
the oldest events and goes on with those that the channel still holds.
-/

namespace ChatCommands.PolicyFeed

/-- The events that a channel still holds when it is read only after all of them were sent. -/
def retained {α : Type} (capacity : Nat) (events : List α) : List α :=
  events.drop (events.length - capacity)

def listen (capacity : Nat) (events : List PolicyEvent) (store : PolicyStore) : PolicyStore :=
  (retained capacity events).foldl .apply store

/-! ## The loop of a listener -/

inductive Receipt where
  | event (event : PolicyEvent)
  /-- So many events were dropped before the listener got to them. -/
  | lagged (dropped : Nat)
  | closed
  deriving DecidableEq

structure Channel (χ : Type) where
  send : PolicyEvent → χ → χ
  close : χ → χ
  /-- There is no receipt as long as the listener has to wait. -/
  receive? : χ → Option (Receipt × χ)

structure Listener where
  store : PolicyStore
  applied : List PolicyEvent := []
  stopped : Bool := false

/-- Lost events do not make the listener stop. -/
def Listener.take (l : Listener) : Receipt → Listener
  | .event event => { l with store := l.store.apply event, applied := l.applied ++ [event] }
  | .lagged _ => l
  | .closed => { l with stopped := true }

structure Session (χ : Type) where
  channel : χ
  listener : Listener

def Session.turn {χ : Type} (ch : Channel χ) (s : Session χ) : Session χ :=
  if s.listener.stopped then s
  else
    match ch.receive? s.channel with
    | none => s
    | some (receipt, channel) => { channel, listener := s.listener.take receipt }

end ChatCommands.PolicyFeed
