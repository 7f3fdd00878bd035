import Mathlib.Tactic.SplitIfs
import ChatCommands.Policy.Feed

/-!
# A listener that falls behind

Events are sent at any time, and the listener takes its turns at any time. What it has not read when the
channel is full is overwritten, oldest first, and it is told so when it comes back.

* `Backlog`: what has become of a channel, as far as the listener can tell.
* `Channel.Broadcasts`: the channel keeps the last events for the listener and gives them to it in order.
* `Turn`: all that a turn of the listener can do.
* `Stands`: what holds of the listener at any time.

What a listener has applied, followed by what the channel holds for it, is the same before a turn and after
it (`Turn.applied_append_held`). Only sending changes it, by the new event and by the one that is lost.

**Theorem (`catchesUp_listener`).** When the channel is closed, the listener comes to a stop and has applied
all that the channel still held, in order and once, whatever was lost before. A snapshot among them makes up
for the losses: the store is then what all the events sent make of it.
-/

namespace ChatCommands.PolicyFeed

/-! ## Channels -/

/-- What has become of a channel: the events sent, and how many of them the listener is past, be it that
it was given them or that it lost them. -/
structure Backlog where
  sent : List PolicyEvent := []
  passed : Nat := 0
  closed : Bool := false

namespace Backlog

def send (event : PolicyEvent) (b : Backlog) : Backlog :=
  { b with sent := b.sent ++ [event] }

def close (b : Backlog) : Backlog :=
  { b with closed := true }

/-- How many of the events are overwritten. -/
def overwritten (capacity : Nat) (b : Backlog) : Nat :=
  b.sent.length - capacity

/-- A listener whose next event is overwritten is told so, once, and is past all of these then.
Otherwise it is given the next event, and if there is none, it waits until the channel is closed. -/
def receive? (capacity : Nat) (b : Backlog) : Option (Receipt × Backlog) :=
  if b.passed < b.overwritten capacity then
    some (.lagged (b.overwritten capacity - b.passed), { b with passed := b.overwritten capacity })
  else
    match b.sent[b.passed]? with
    | some event => some (.event event, { b with passed := b.passed + 1 })
    | none => if b.closed then some (.closed, b) else none

/-- The events that the channel holds for the listener. -/
def held (capacity : Nat) (b : Backlog) : List PolicyEvent :=
  b.sent.drop (max b.passed (b.overwritten capacity))

section
variable {capacity : Nat} {b : Backlog}

theorem overwritten_le (b : Backlog) : b.overwritten capacity ≤ b.sent.length :=
  Nat.sub_le _ _

theorem overwritten_le_send (b : Backlog) (event : PolicyEvent) :
    b.overwritten capacity ≤ (b.send event).overwritten capacity := by
  rw [overwritten, overwritten, send, List.length_append]
  omega

/-- A new event takes the place of `gone`, the oldest of those that are not overwritten, or of none. -/
theorem exists_gone (capacity : Nat) (b : Backlog) (event : PolicyEvent) :
    ∃ gone, (b.send event).sent.take ((b.send event).overwritten capacity) =
        b.sent.take (b.overwritten capacity) ++ gone ∧
      retained capacity b.sent ++ [event] = gone ++ retained capacity (b.send event).sent := by
  have hle : b.overwritten capacity ≤ b.sent.length := b.overwritten_le
  obtain ⟨k, hk⟩ : ∃ k, (b.send event).overwritten capacity = b.overwritten capacity + k :=
    Nat.exists_eq_add_of_le (b.overwritten_le_send event)
  have hretained : retained capacity b.sent ++ [event] =
      (b.send event).sent.drop (b.overwritten capacity) :=
    (List.drop_append_of_le_length hle).symm
  have hrest : retained capacity (b.send event).sent =
      ((b.send event).sent.drop (b.overwritten capacity)).drop k := by
    rw [List.drop_drop, ← hk]
    rfl
  refine ⟨((b.send event).sent.drop (b.overwritten capacity)).take k, ?_, ?_⟩
  · rw [hk, List.take_add, send, List.take_append_of_le_length hle]
  · rw [hretained, hrest, List.take_append_drop]

/-- For a listener who is behind, the channel holds all that is not overwritten. -/
theorem held_of_le (h : b.passed ≤ b.overwritten capacity) :
    b.held capacity = retained capacity b.sent := by
  rw [held, Nat.max_eq_right h]
  rfl

/-- A listener who keeps up loses nothing to a new event. -/
theorem held_send (h : b.overwritten capacity < b.passed) (hpassed : b.passed ≤ b.sent.length)
    (event : PolicyEvent) : (b.send event).held capacity = b.held capacity ++ [event] := by
  have hsend : (b.send event).overwritten capacity ≤ b.passed := by
    unfold overwritten at h ⊢
    rw [send, List.length_append, List.length_singleton]
    omega
  show (b.sent ++ [event]).drop (max b.passed ((b.send event).overwritten capacity)) = _
  rw [held, Nat.max_eq_left hsend, Nat.max_eq_left (Nat.le_of_lt h),
    List.drop_append_of_le_length hpassed]

end

end Backlog

/-- The channel keeps the last `capacity` events for its listener. What has become of it, `backlog`
tells. -/
structure Channel.Broadcasts {χ : Type} (ch : Channel χ) (capacity : Nat) (backlog : χ → Backlog) :
    Prop where
  send : ∀ event c, (backlog c).closed = false → backlog (ch.send event c) = (backlog c).send event
  close : ∀ c, backlog (ch.close c) = (backlog c).close
  receive? : ∀ c, (ch.receive? c).map (Prod.map id backlog) = (backlog c).receive? capacity

/-! ## A turn -/

variable {capacity : Nat} {store : PolicyStore} {b b' : Backlog} {l l' : Listener}

/-- All that a turn of the listener can do. -/
inductive Turn (capacity : Nat) (b : Backlog) (l : Listener) : Backlog → Listener → Prop where
  | stopped (hstopped : l.stopped = true) : Turn capacity b l b l
  | waits (hopen : b.closed = false) : Turn capacity b l b l
  | lagged (hbehind : b.passed < b.overwritten capacity) :
    Turn capacity b l { b with passed := b.overwritten capacity } l
  | event {event : PolicyEvent} (hheld : b.overwritten capacity ≤ b.passed)
    (hnext : b.sent[b.passed]? = some event) :
    Turn capacity b l { b with passed := b.passed + 1 } (l.take (.event event))
  | closed (hclosed : b.closed = true) (hall : b.sent.length ≤ b.passed) :
    Turn capacity b l b { l with stopped := true }

theorem Backlog.closed_eq_false_of_receive?_eq_none (h : b.receive? capacity = none) :
    b.closed = false := by
  unfold receive? at h
  split at h
  · cases h
  · cases hnext : b.sent[b.passed]? with
    | some event => simp only [hnext, reduceCtorEq] at h
    | none =>
      cases hclosed : b.closed with
      | false => rfl
      | true => simp only [hnext, hclosed, if_true, reduceCtorEq] at h

/-- What the listener is given is the next of the events that the channel holds, if there is one. -/
theorem Turn.of_receive? {receipt : Receipt} (h : b.receive? capacity = some (receipt, b'))
    (l : Listener) : Turn capacity b l b' (l.take receipt) := by
  unfold Backlog.receive? at h
  split at h
  next hbehind =>
    cases h
    exact .lagged hbehind
  next hbehind =>
    cases hnext : b.sent[b.passed]? with
    | some event =>
      rw [hnext] at h
      cases h
      exact .event (Nat.le_of_not_lt hbehind) hnext
    | none =>
      cases hclosed : b.closed with
      | false => simp only [hnext, hclosed, Bool.false_eq_true, if_false, reduceCtorEq] at h
      | true =>
        simp only [hnext, hclosed, if_true, Option.some.injEq, Prod.mk.injEq] at h
        obtain ⟨rfl, rfl⟩ := h
        exact .closed hclosed (List.getElem?_eq_none_iff.1 hnext)

theorem Turn.of_broadcasts {χ : Type} {ch : Channel χ} {backlog : χ → Backlog}
    (h : ch.Broadcasts capacity backlog) (s : Session χ) :
    Turn capacity (backlog s.channel) s.listener (backlog (s.turn ch).channel)
      (s.turn ch).listener := by
  have hreceive := h.receive? s.channel
  unfold Session.turn
  split_ifs with hstopped
  · exact .stopped hstopped
  · cases hgiven : ch.receive? s.channel with
    | none =>
      rw [hgiven, Option.map_none] at hreceive
      exact .waits (Backlog.closed_eq_false_of_receive?_eq_none hreceive.symm)
    | some given =>
      rw [hgiven, Option.map_some] at hreceive
      exact .of_receive? hreceive.symm s.listener

/-! ## What a turn keeps -/

namespace Turn

variable (h : Turn capacity b l b' l')
include h

theorem sent_eq : b'.sent = b.sent := by
  cases h <;> rfl

theorem closed_eq : b'.closed = b.closed := by
  cases h <;> rfl

/-- **No event is skipped, and none is applied twice.** -/
theorem applied_append_held : l'.applied ++ b'.held capacity = l.applied ++ b.held capacity := by
  cases h with
  | lagged hbehind =>
    have hmax : max b.passed (b.overwritten capacity) = b.overwritten capacity :=
      Nat.max_eq_right (Nat.le_of_lt hbehind)
    show _ ++ b.sent.drop (max (b.overwritten capacity) (b.overwritten capacity)) = _
    rw [Nat.max_self, Backlog.held, hmax]
  | event hheld hnext =>
    obtain ⟨hlt, rfl⟩ := List.getElem?_eq_some_iff.1 hnext
    show (l.applied ++ [_]) ++ b.sent.drop (max (b.passed + 1) (b.overwritten capacity)) = _
    rw [Backlog.held, Nat.max_eq_left hheld, Nat.max_eq_left (Nat.le_succ_of_le hheld),
      List.drop_eq_getElem_cons hlt, List.append_assoc, List.singleton_append]
  | _ => rfl

theorem stopped_of_stopped (hstopped : l.stopped = true) : l'.stopped = true := by
  cases h <;> first | exact hstopped | rfl

/-- After a turn on a closed channel the listener has stopped or is nearer to the end. -/
theorem progress (hclosed : b.closed = true) :
    l'.stopped = true ∨ b'.sent.length - b'.passed < b.sent.length - b.passed := by
  cases h with
  | stopped hstopped => exact .inl hstopped
  | waits hopen =>
    rw [hopen] at hclosed
    cases hclosed
  | lagged hbehind =>
    right
    show b.sent.length - b.overwritten capacity < _
    unfold Backlog.overwritten at hbehind ⊢
    omega
  | event hheld hnext =>
    right
    obtain ⟨hlt, -⟩ := List.getElem?_eq_some_iff.1 hnext
    show b.sent.length - (b.passed + 1) < _
    omega
  | closed => exact .inl rfl

end Turn

/-! ## Where a listener stands -/

/-- What holds of a listener that started with `store`: what it has applied and what is held for it are all
the events that are not overwritten, in order, after some of those that are. -/
structure Stands (capacity : Nat) (store : PolicyStore) (b : Backlog) (l : Listener) : Prop where
  passed_le : b.passed ≤ b.sent.length
  store_eq : l.store = l.applied.foldl .apply store
  stopped : l.stopped = true → b.closed = true ∧ b.sent.length ≤ b.passed
  applied_append_held : ∃ early, early.Sublist (b.sent.take (b.overwritten capacity)) ∧
    l.applied ++ b.held capacity = early ++ retained capacity b.sent

namespace Stands

theorem start (capacity : Nat) (store : PolicyStore) : Stands capacity store {} { store } where
  passed_le := Nat.le_refl 0
  store_eq := rfl
  stopped := nofun
  applied_append_held := ⟨[], List.nil_sublist _, by simp [Backlog.held, retained]⟩

variable (h : Stands capacity store b l)
include h

/-- The event that gives way to a new one is lost, unless the listener was given it. -/
theorem send (hopen : b.closed = false) (event : PolicyEvent) :
    Stands capacity store (b.send event) l where
  passed_le := by
    rw [Backlog.send, List.length_append]
    exact Nat.le_add_right_of_le h.passed_le
  store_eq := h.store_eq
  stopped hstopped := by
    have hclosed := (h.stopped hstopped).1
    rw [hopen] at hclosed
    cases hclosed
  applied_append_held := by
    obtain ⟨early, hearly, heq⟩ := h.applied_append_held
    obtain ⟨gone, htake, hretained⟩ := b.exists_gone capacity event
    rw [htake]
    -- What is gone was given to a listener who kept up, and is lost to one who did not.
    by_cases hbehind : b.passed ≤ b.overwritten capacity
    · have hbehind' : (b.send event).passed ≤ (b.send event).overwritten capacity :=
        Nat.le_trans hbehind (b.overwritten_le_send event)
      rw [Backlog.held_of_le hbehind, List.append_cancel_right_eq] at heq
      refine ⟨early, hearly.trans (List.sublist_append_left _ _), ?_⟩
      rw [heq, Backlog.held_of_le hbehind']
    · refine ⟨early ++ gone, hearly.append_right gone, ?_⟩
      rw [Backlog.held_send (Nat.lt_of_not_le hbehind) h.passed_le event, ← List.append_assoc, heq,
        List.append_assoc, hretained, List.append_assoc]

/-- When the listener stops, nothing is left for it. -/
theorem held_eq_nil (hstopped : l.stopped = true) : b.held capacity = [] :=
  List.drop_eq_nil_iff.2 (Nat.le_trans (h.stopped hstopped).2 (Nat.le_max_left _ _))

theorem close : Stands capacity store b.close l :=
  { h with stopped := fun hstopped => ⟨rfl, (h.stopped hstopped).2⟩ }

theorem turn (hturn : Turn capacity b l b' l') : Stands capacity store b' l' where
  passed_le := by
    cases hturn with
    | lagged => exact Nat.sub_le _ _
    | event _ hnext => exact (List.getElem?_eq_some_iff.1 hnext).1
    | _ => exact h.passed_le
  store_eq := by
    cases hturn with
    | event =>
      show PolicyStore.apply l.store _ = (l.applied ++ [_]).foldl .apply store
      rw [List.foldl_append, ← h.store_eq]
      rfl
    | _ => exact h.store_eq
  stopped hstopped := by
    cases hturn with
    | closed hclosed hall => exact ⟨hclosed, hall⟩
    | lagged hbehind =>
      have hall := (h.stopped hstopped).2
      unfold Backlog.overwritten at hbehind
      omega
    | event _ hnext =>
      have hall := (h.stopped hstopped).2
      exact absurd (List.getElem?_eq_some_iff.1 hnext).1 (Nat.not_lt.2 hall)
    | _ => exact h.stopped hstopped
  applied_append_held := by
    rw [hturn.applied_append_held, Backlog.overwritten, hturn.sent_eq]
    exact h.applied_append_held

end Stands

/-! ## Whole sessions -/

/-- What may happen while the channel is open. -/
inductive Move where
  | send (event : PolicyEvent)
  /-- A turn of the listener. -/
  | turn

/-- The events that some moves send. -/
def sent : List Move → List PolicyEvent
  | [] => []
  | .send event :: moves => event :: sent moves
  | .turn :: moves => sent moves

namespace Session

variable {χ : Type} (ch : Channel χ)

def move (s : Session χ) : Move → Session χ
  | .send event => { s with channel := ch.send event s.channel }
  | .turn => s.turn ch

def run (moves : List Move) (s : Session χ) : Session χ := moves.foldl (move ch) s

def close (s : Session χ) : Session χ := { s with channel := ch.close s.channel }

/-- So many turns of the listener. -/
def turns : Nat → Session χ → Session χ
  | 0, s => s
  | n + 1, s => turns n (s.turn ch)

variable {ch} {backlog : χ → Backlog} (h : ch.Broadcasts capacity backlog)
include h

/-- Sending and listening by turns leaves the listener where it ought to be, before as after. -/
theorem stands_run {s : Session χ} (hstands : Stands capacity store (backlog s.channel) s.listener)
    (hopen : (backlog s.channel).closed = false) (moves : List Move) :
    Stands capacity store (backlog (s.run ch moves).channel) (s.run ch moves).listener ∧
      (backlog (s.run ch moves).channel).sent = (backlog s.channel).sent ++ sent moves := by
  induction moves generalizing s with
  | nil => exact ⟨hstands, (List.append_nil _).symm⟩
  | cons move moves ih =>
    cases move with
    | send event =>
      have hsend := h.send event s.channel hopen
      obtain ⟨hstands', hsent⟩ := ih (s := { s with channel := ch.send event s.channel })
        (hsend ▸ hstands.send hopen event) (by rw [hsend]; exact hopen)
      refine ⟨hstands', hsent.trans ?_⟩
      rw [hsend, Backlog.send, sent, List.append_assoc, List.singleton_append]
    | turn =>
      have hturn := Turn.of_broadcasts h s
      obtain ⟨hstands', hsent⟩ := ih (hstands.turn hturn) (hturn.closed_eq.trans hopen)
      exact ⟨hstands', by rw [← hturn.sent_eq]; exact hsent⟩

/-- A listener who takes no turn is as it was, and has the events before it. -/
theorem run_of_not_mem {s : Session χ} (hopen : (backlog s.channel).closed = false) {moves : List Move}
    (hnone : .turn ∉ moves) :
    (s.run ch moves).listener = s.listener ∧
      (backlog (s.run ch moves).channel).passed = (backlog s.channel).passed := by
  induction moves generalizing s with
  | nil => exact ⟨rfl, rfl⟩
  | cons move moves ih =>
    rw [List.mem_cons, not_or] at hnone
    cases move with
    | send event =>
      have hsend := h.send event s.channel hopen
      obtain ⟨hlistener, hpassed⟩ := ih (s := { s with channel := ch.send event s.channel })
        (by rw [hsend]; exact hopen) hnone.2
      exact ⟨hlistener, hpassed.trans (by rw [hsend]; rfl)⟩
    | turn => exact absurd rfl hnone.1

/-- What every turn keeps, any number of them keep. -/
theorem turns_keep {P : Backlog → Listener → Prop}
    (hP : ∀ {b l b' l'}, Turn capacity b l b' l' → P b l → P b' l') (n : Nat) {s : Session χ}
    (hs : P (backlog s.channel) s.listener) :
    P (backlog (s.turns ch n).channel) (s.turns ch n).listener := by
  induction n generalizing s with
  | zero => exact hs
  | succ n ih => exact ih (hP (.of_broadcasts h s) hs)

/-- **The listener comes to a stop** once the channel is closed, after one more turn than there are
events before it. -/
theorem stopped_turns {n : Nat} {s : Session χ} (hclosed : (backlog s.channel).closed = true)
    (hn : (backlog s.channel).sent.length - (backlog s.channel).passed < n) :
    (s.turns ch n).listener.stopped = true := by
  induction n generalizing s with
  | zero => exact absurd hn (Nat.not_lt_zero _)
  | succ n ih =>
    have hturn := Turn.of_broadcasts h s
    rcases hturn.progress hclosed with hstopped | hnearer
    · exact turns_keep h (P := fun _ l => l.stopped = true) Turn.stopped_of_stopped n hstopped
    · exact ih (hturn.closed_eq.trans hclosed) (Nat.lt_of_lt_of_le hnearer (Nat.le_of_lt_succ hn))

end Session

/-- The listener of a fresh channel `c`, who starts with `store`: after the moves the channel is closed,
and the listener takes so many turns more. -/
def Channel.listener {χ : Type} (ch : Channel χ) (c : χ) (store : PolicyStore) (moves : List Move)
    (turns : Nat) : Listener :=
  ((((⟨c, { store }⟩ : Session χ).run ch moves).close ch).turns ch turns).listener

/-- **After a snapshot it does not matter what came before it.** -/
theorem foldl_apply_eq_of_mem {s : PolicySnapshot} {events : List PolicyEvent}
    (h : .fullSnapshot s ∈ events) (store store' : PolicyStore) :
    events.foldl .apply store = events.foldl .apply store' := by
  obtain ⟨before, after, rfl⟩ := List.append_of_mem h
  rw [List.foldl_append, List.foldl_append, List.foldl_cons, List.foldl_cons]
  rfl

/-- A listener who started with `store` has caught up with these events. -/
structure CatchesUp (capacity : Nat) (events : List PolicyEvent) (store : PolicyStore) (l : Listener) :
    Prop where
  stopped : l.stopped = true
  /-- All events that the channel held to the end are applied, in order and once each, after some of
  the others. -/
  applied : ∃ early, early.Sublist (events.take (events.length - capacity)) ∧
    l.applied = early ++ retained capacity events
  store_eq : l.store = l.applied.foldl .apply store
  /-- A snapshot among them makes up for the events that were lost. -/
  converges : (∃ s, .fullSnapshot s ∈ retained capacity events) → l.store = events.foldl .apply store

theorem Stands.catchesUp_of_stopped (h : Stands capacity store b l) (hstopped : l.stopped = true) :
    CatchesUp capacity b.sent store l := by
  obtain ⟨early, hearly, heq⟩ := h.applied_append_held
  rw [h.held_eq_nil hstopped, List.append_nil] at heq
  refine ⟨hstopped, ⟨early, hearly, heq⟩, h.store_eq, fun ⟨s, hs⟩ => ?_⟩
  calc l.store = (retained capacity b.sent).foldl .apply (early.foldl .apply store) := by
        rw [h.store_eq, heq, List.foldl_append]
    _ = (retained capacity b.sent).foldl .apply
          ((b.sent.take (b.sent.length - capacity)).foldl .apply store) :=
        foldl_apply_eq_of_mem hs _ _
    _ = b.sent.foldl .apply store := by
        rw [retained, ← List.foldl_append, List.take_append_drop]

/-- **Once the channel is closed, the listener applies what is held for it**, no more and no less. -/
theorem catchesUp_turns {χ : Type} {ch : Channel χ} {backlog : χ → Backlog}
    (h : ch.Broadcasts capacity backlog) {s : Session χ}
    (hstands : Stands capacity store (backlog s.channel) s.listener)
    (hclosed : (backlog s.channel).closed = true) {n : Nat}
    (hn : (backlog s.channel).sent.length < n) :
    CatchesUp capacity (backlog s.channel).sent store (s.turns ch n).listener ∧
      (s.turns ch n).listener.applied = s.listener.applied ++ (backlog s.channel).held capacity := by
  have hstopped : (s.turns ch n).listener.stopped = true :=
    Session.stopped_turns h hclosed (Nat.lt_of_le_of_lt (Nat.sub_le _ _) hn)
  have hend := Session.turns_keep h (fun hturn hs => hs.turn hturn) n hstands
  have hsent := Session.turns_keep h (P := fun b _ => b.sent = (backlog s.channel).sent)
    (fun hturn hs => hturn.sent_eq.trans hs) n rfl
  have happlied := Session.turns_keep h
    (P := fun b l => l.applied ++ b.held capacity =
      s.listener.applied ++ (backlog s.channel).held capacity)
    (fun hturn hs => hturn.applied_append_held.trans hs) n rfl
  rw [hend.held_eq_nil hstopped, List.append_nil] at happlied
  refine ⟨?_, happlied⟩
  rw [← hsent]
  exact hend.catchesUp_of_stopped hstopped

/-- **A listener who falls behind catches up**, whenever the events are sent and the turns are taken. One
who takes no turn before the channel is closed applies just the events that are left. -/
theorem catchesUp_listener {χ : Type} {ch : Channel χ} {backlog : χ → Backlog}
    (h : ch.Broadcasts capacity backlog) {c : χ} (hfresh : backlog c = {}) (store : PolicyStore)
    (moves : List Move) {turns : Nat} (hturns : (sent moves).length < turns) :
    CatchesUp capacity (sent moves) store (ch.listener c store moves turns) ∧
      (.turn ∉ moves →
        (ch.listener c store moves turns).applied = retained capacity (sent moves) ∧
        (ch.listener c store moves turns).store = listen capacity (sent moves) store) := by
  let s : Session χ := ⟨c, { store }⟩
  let s' : Session χ := s.run ch moves
  have hopen : (backlog s.channel).closed = false := by rw [hfresh]
  have hstart : Stands capacity store (backlog s.channel) s.listener := by
    rw [hfresh]
    exact .start capacity store
  obtain ⟨hstands, hsent⟩ := Session.stands_run h hstart hopen moves
  rw [hfresh, List.nil_append] at hsent
  have hclose : backlog (s'.close ch).channel = (backlog s'.channel).close := h.close s'.channel
  have hsent' : (backlog (s'.close ch).channel).sent = sent moves := by
    rw [hclose]
    exact hsent
  obtain ⟨hcatches, happlied⟩ :
      CatchesUp capacity (sent moves) store (ch.listener c store moves turns) ∧
      (ch.listener c store moves turns).applied =
        s'.listener.applied ++ (backlog (s'.close ch).channel).held capacity := by
    rw [← hsent'] at hturns ⊢
    refine catchesUp_turns h ?_ ?_ hturns
    · rw [hclose]
      exact hstands.close
    · rw [hclose]
      rfl
  refine ⟨hcatches, fun hnone => ?_⟩
  obtain ⟨hlistener, hpassed⟩ := Session.run_of_not_mem h hopen hnone
  have hheld : (backlog (s'.close ch).channel).held capacity = retained capacity (sent moves) := by
    rw [Backlog.held_of_le, hsent']
    rw [hclose]
    show (backlog s'.channel).passed ≤ _
    rw [hpassed, hfresh]
    exact Nat.zero_le _
  have hall : (ch.listener c store moves turns).applied = retained capacity (sent moves) := by
    rw [happlied, hheld, hlistener]
    rfl
  exact ⟨hall, by rw [hcatches.store_eq, hall, listen]⟩

/-! ## Samples -/

/-- The channel that is nothing but its backlog. -/
def Backlog.channel (capacity : Nat) : Channel Backlog where
  send := send
  close := close
  receive? := receive? capacity

theorem Backlog.broadcasts_channel (capacity : Nat) : (channel capacity).Broadcasts capacity id where
  send _ _ _ := rfl
  close _ := rfl
  receive? b := by
    rw [Prod.map_id]
    exact Option.map_id'

end ChatCommands.PolicyFeed

namespace ChatCommands.Sample

open PolicyFeed

/-- The listener reads a first snapshot and misses two of the four events after it. -/
def hurried : List Move :=
  [.send (.fullSnapshot { groups := [⟨"1", "mods"⟩] }), .turn,
    .send (.singlePolicyUpdate ⟨"1", "tts", 1, 1000⟩),
    .send (.singlePolicyUpdate ⟨"1", "tts", 2, 1000⟩),
    .send (.fullSnapshot { groups := [⟨"2", "vips"⟩] }),
    .send (.singlePolicyUpdate ⟨"2", "tts", 3, 1000⟩)]

/-- The same events, all of them sent before the listener reads any. -/
def late : List Move := (sent hurried).map .send

theorem catchesUp_listener_hurried :
    (Backlog.channel 2).Broadcasts 2 id ∧ (sent hurried).length < 6 ∧
      ((Backlog.channel 2).listener {} {} hurried 6).store = (sent hurried).foldl .apply {} ∧
      (sent late).length < 6 ∧ .turn ∉ late ∧
      ((Backlog.channel 2).listener {} {} late 6).applied = retained 2 (sent late) := by
  have hbroadcasts := Backlog.broadcasts_channel 2
  have hhurried : (sent hurried).length < 6 := by decide
  have hlate : (sent late).length < 6 := by decide
  have hnone : .turn ∉ late := by simp [late]
  have hsnapshot : ∃ s, .fullSnapshot s ∈ retained 2 (sent hurried) := ⟨_, List.mem_cons_self⟩
  exact ⟨hbroadcasts, hhurried,
    (catchesUp_listener hbroadcasts rfl {} hurried hhurried).1.converges hsnapshot, hlate, hnone,
    ((catchesUp_listener hbroadcasts rfl {} late hlate).2 hnone).1⟩

example : ((Backlog.channel 2).listener {} {} hurried 6).applied =
    (sent hurried).take 1 ++ (sent hurried).drop 3 := by
  decide +kernel

end ChatCommands.Sample
