import Telling.Io.SendQueue
import Telling.Lib.Turnstile

/-!
# The asynchronous send loop

`AsyncSendLoop` with an `AsyncSendQueue` as its handler.  Any number of threads
call `send_msg` while the aio completes its operations.  The atomic steps are the
queue's two methods, which hold its mutex, the hand-over of a message to the aio,
and the completion of an operation by the transport.

An `nng::msg` is a handle that may be null; moving from it leaves it null.
-/

namespace Telling.Io

universe u

/-- `SendPrompt`, which has a destination or none. -/
structure SendPrompt where
  hasDest : Bool
  deriving DecidableEq, Repr

namespace SendPrompt

variable {Message : Type u}

/-- `SendPrompt::operator()` moves the message to the destination, if there is
one.  The result is the destination's content and what is left of the argument. -/
def call (prompt : SendPrompt) (dest msg : Option Message) :
    Option Message × Option Message :=
  if prompt.hasDest then (msg, none) else (dest, msg)

end SendPrompt

namespace SendQueue

variable {Message : Type u}

/-- `AsyncSendQueue::async_prep`, with what it leaves in the caller's `msg`. -/
def asyncPrep (queue : SendQueue (Option Message)) (send : SendPrompt)
    (msg : Option Message) : SendQueue (Option Message) × Option Message :=
  match queue.produce msg with
  | (true, queue) => (queue, none)
  | (false, queue) => (queue, (send.call none msg).2)

/-- `AsyncSendQueue::async_sent`, with what it puts into the tag's destination. -/
def asyncSent (queue : SendQueue (Option Message)) (send : SendPrompt) :
    SendQueue (Option Message) × Option Message :=
  match queue.consume with
  | (some next, queue) => (queue, (send.call none next).1)
  | (none, queue) => (queue, none)

end SendQueue

/-- An `AsyncSendLoop` together with the queue it has for a handler. -/
structure SendLoop (Message : Type u) where
  /-- The handler that `_handler.lock()` gives. -/
  handler : Option (SendQueue (Option Message)) := none
  aio : Aio Message := {}
  /-- Calls of `send_msg` and callbacks that have reached their last statement,
  each with the handle it tests there. -/
  active : List (Option Message) := []
  /-- The messages given to `produce`, in the order of the calls. -/
  accepted : List Message := []
  deriving DecidableEq, Repr

namespace SendLoop

variable {Message : Type u}

/-- The state of the handler's queue. -/
def queue (loop : SendLoop Message) : SendQueue (Option Message) :=
  loop.handler.getD {}

/-- `AsyncSendLoop::send_init`. -/
def sendInit (loop : SendLoop Message) (expired : Bool) :
    Except NngError (SendLoop Message) :=
  match loop.handler with
  | some _ => .error .busy
  | none =>
      if expired then .error .closed
      else .ok { loop with handler := some {} }

/-- `AsyncSendLoop::send_msg` up to its last statement.  The tag passed to the
handler is the loop's own, whose prompt has no destination. -/
def sendMsg (loop : SendLoop Message) (msg : Option Message) :
    Except NngError (SendLoop Message) :=
  match loop.handler with
  | none => .error .exist
  | some queue =>
      let (prepared, left) := queue.asyncPrep { hasDest := false } msg
      .ok { loop with
        handler := some prepared
        active := loop.active ++ [left]
        accepted := loop.accepted ++ msg.toList }

/-- `detail::AsyncSend_Callback_Self` up to its last statement.  A branch that
returns early has nothing left to send. -/
def asyncSendCallback (loop : SendLoop Message) : Option (SendLoop Message) :=
  match loop.aio.completed with
  | [] => none
  | aioResult :: rest =>
      let started := { loop with aio := { loop.aio with completed := rest } }
      match loop.handler with
      | none => some { started with active := loop.active ++ [none] }
      | some queue =>
          match aioResult with
          | .success =>
              let (consumed, nextMsg) := queue.asyncSent { hasDest := true }
              some { started with
                handler := some consumed
                active := loop.active ++ [nextMsg] }
          | .canceled => some { started with active := loop.active ++ [none] }
          -- `timedout` and the default: the queue's `async_error` does nothing,
          -- so `nextMsg` stays null.
          | _ => some { started with active := loop.active ++ [none] }

/-- The last statement of `send_msg` and of the callback: a non-null handle goes
to the aio. -/
def handOver (loop : SendLoop Message) (index : Nat) : Option (SendLoop Message) :=
  match loop.active[index]? with
  | none => none
  | some msg => some
      { loop with
        active := loop.active.eraseIdx index
        aio := loop.aio.sendIf msg }

inductive Label (Message : Type u) where
  | sendInit (expired : Bool)
  | sendMsg (msg : Option Message)
  | handOver (index : Nat)
  | complete (result : NngError)
  | callback
  deriving DecidableEq, Repr

/-- One atomic step.  A call that throws leaves the loop as it was. -/
def step (loop : SendLoop Message) : Label Message → Option (SendLoop Message)
  | .sendInit expired => some ((loop.sendInit expired).toOption.getD loop)
  | .sendMsg msg => some ((loop.sendMsg msg).toOption.getD loop)
  | .handOver index => loop.handOver index
  | .complete result =>
      (loop.aio.complete result).map fun aio => { loop with aio := aio }
  | .callback => loop.asyncSendCallback

/-- A loop that has a handler takes every message. -/
theorem sendMsg_of_handler {loop : SendLoop Message} (has : loop.handler.isSome)
    (msg : Option Message) :
    ∃ next, loop.sendMsg msg = .ok next ∧ next.handler.isSome := by
  obtain ⟨queue, handler⟩ := Option.isSome_iff_exists.mp has
  unfold sendMsg
  rw [handler]
  exact ⟨_, rfl, rfl⟩

/-- The handler is never given up. -/
theorem step_handler {loop next : SendLoop Message} {label : Label Message}
    (has : loop.handler.isSome) (taken : loop.step label = some next) :
    next.handler.isSome := by
  obtain ⟨queue, handler⟩ := Option.isSome_iff_exists.mp has
  cases label with
  | sendInit expired =>
      obtain rfl : loop = next := by
        simpa [step, sendInit, handler, Except.toOption] using taken
      exact has
  | sendMsg msg =>
      obtain ⟨sent, sending, kept⟩ := sendMsg_of_handler has msg
      obtain rfl : sent = next := by
        simpa [step, sending, Except.toOption] using taken
      exact kept
  | handOver index =>
      simp only [step, handOver] at taken
      split at taken
      · contradiction
      · exact Option.some.inj taken ▸ has
  | complete result =>
      obtain ⟨aio, _, rfl⟩ := Option.map_eq_some_iff.mp taken
      exact has
  | callback =>
      simp only [step, asyncSendCallback, handler] at taken
      split at taken
      · contradiction
      · split at taken
        all_goals exact Option.some.inj taken ▸ rfl

/-! ## The loop refines a turnstile -/

open Lib (Turnstile)

/-- The loop as a turnstile. -/
def view (loop : SendLoop Message) : Turnstile Message where
  busy := loop.queue.busy
  waiting := loop.queue.deq
  holding := loop.active
  flying := loop.aio.inFlight
  landed := loop.aio.completed.length
  accepted := loop.accepted
  sent := loop.aio.sent

/-- The turnstile move that a step makes, if any. -/
def move (loop : SendLoop Message) : Label Message → Option (Turnstile.Move Message)
  | .sendInit _ => none
  | .sendMsg msg => if loop.handler.isSome then some (.submit msg) else none
  | .handOver index => some (.transmit index)
  | .complete _ => some .land
  | .callback =>
      if loop.handler.isSome ∧ loop.aio.completed.head? = some .success then some .pass
      else some .abandon

theorem sendInit_refines {loop : SendLoop Message} (expired : Bool) :
    ((loop.sendInit expired).toOption.getD loop).view = loop.view := by
  cases handler : loop.handler with
  | some queue => simp [sendInit, handler, Except.toOption]
  | none =>
      cases expired <;> simp [sendInit, handler, Except.toOption, view, queue]

theorem sendMsg_refines {loop : SendLoop Message} (msg : Option Message)
    {queue : SendQueue (Option Message)} (handler : loop.handler = some queue) :
    ((loop.sendMsg msg).toOption.getD loop).view = loop.view.submit msg := by
  cases busy : queue.busy <;>
    simp [sendMsg, handler, Except.toOption, view, SendLoop.queue, Turnstile.submit,
      SendQueue.asyncPrep, SendQueue.produce, SendPrompt.call, busy]

theorem handOver_refines {loop next : SendLoop Message} {index : Nat}
    (stepped : loop.handOver index = some next) :
    loop.view.transmit index = some next.view := by
  simp only [handOver] at stepped
  split at stepped
  · contradiction
  · rename_i msg found
    obtain rfl := Option.some.inj stepped
    simp [Turnstile.transmit, view, found, queue]

theorem complete_refines {loop next : SendLoop Message} {result : NngError}
    (stepped : loop.step (.complete result) = some next) :
    loop.view.land = some next.view := by
  obtain ⟨aio, completed, rfl⟩ := Option.map_eq_some_iff.mp stepped
  obtain ⟨msg, rest, inFlight, rfl⟩ := Aio.complete_eq_some completed
  simp [Turnstile.land, view, inFlight, queue]

/-- On success the callback passes the turn on. -/
theorem callback_success {loop : SendLoop Message} {rest : List NngError}
    {queue : SendQueue (Option Message)} (handler : loop.handler = some queue)
    (completed : loop.aio.completed = .success :: rest) :
    loop.asyncSendCallback.map view = loop.view.pass := by
  cases queued : queue.deq <;>
    simp [asyncSendCallback, Turnstile.pass, completed, handler, view, SendLoop.queue,
      SendQueue.asyncSent, SendQueue.consume, SendPrompt.call, queued]

/-- On any error, or without a handler, it gives the turn up. -/
theorem callback_failure {loop : SendLoop Message} {aioResult : NngError}
    {rest : List NngError} (failed : loop.handler = none ∨ aioResult ≠ .success)
    (completed : loop.aio.completed = aioResult :: rest) :
    loop.asyncSendCallback.map view = loop.view.abandon := by
  cases handler : loop.handler with
  | none =>
      simp [asyncSendCallback, Turnstile.abandon, completed, handler, view, queue]
  | some queue =>
      cases aioResult <;>
        simp_all [asyncSendCallback, Turnstile.abandon, view, SendLoop.queue]

theorem callback_refines {loop next : SendLoop Message}
    (stepped : loop.asyncSendCallback = some next) :
    Lib.run Turnstile.step loop.view (loop.move .callback).toList =
      some next.view := by
  cases completed : loop.aio.completed with
  | nil => simp [asyncSendCallback, completed] at stepped
  | cons aioResult rest =>
      by_cases passes : loop.handler.isSome ∧ aioResult = .success
      · obtain ⟨present, rfl⟩ := passes
        obtain ⟨queue, handler⟩ := Option.isSome_iff_exists.mp present
        have matched := callback_success handler completed
        rw [stepped, Option.map_some] at matched
        simp [move, handler, completed, Lib.run, Turnstile.step, ← matched]
      · have failed : loop.handler = none ∨ aioResult ≠ .success := by
          rw [not_and_or, Option.not_isSome_iff_eq_none] at passes
          exact passes
        have matched := callback_failure failed completed
        rw [stepped, Option.map_some] at matched
        simp only [move, completed, List.head?_cons, Option.some.injEq, if_neg passes,
          Option.toList_some, Lib.run, Turnstile.step, ← matched]

/-- Every step of the loop is a move of the turnstile, or none at all. -/
theorem refines :
    Lib.Refines step Turnstile.step (view : SendLoop Message → Turnstile Message)
      move := by
  intro loop label next stepped
  cases label with
  | sendInit expired =>
      obtain rfl := Option.some.inj stepped
      exact congrArg some (sendInit_refines expired).symm
  | sendMsg msg =>
      obtain rfl := Option.some.inj stepped
      cases handler : loop.handler with
      | none => simp [move, handler, sendMsg, Except.toOption]
      | some queue =>
          simp [move, handler, Lib.run, Turnstile.step, sendMsg_refines msg handler]
  | handOver index =>
      simp [move, Lib.run, Turnstile.step, handOver_refines stepped]
  | complete result =>
      simp [move, Lib.run, Turnstile.step, complete_refines stepped]
  | callback => exact callback_refines stepped

/-! ## Delivery -/

/-- The messages claimed by a caller or a callback that has not handed them over. -/
def claimed (loop : SendLoop Message) : List Message :=
  loop.active.reduceOption

/-- Delivery in order and exactly once: the messages handed to `send`, the claimed
one and the queued ones are the accepted messages, in the order of acceptance; at
most one message is claimed and at most one is in flight; and whoever is about to
hand a message over finds the aio unused. -/
structure Delivers (loop : SendLoop Message) : Prop where
  fifo : loop.aio.sent ++ loop.claimed ++ loop.queue.deq.reduceOption = loop.accepted
  oneClaim : loop.claimed.length ≤ 1
  oneInFlight : loop.aio.inFlight.length ≤ 1
  aioUnused : loop.claimed ≠ [] → loop.aio.inFlight = []

theorem delivers_of_orderly {loop : SendLoop Message}
    (orderly : loop.view.Orderly) : loop.Delivers := by
  have single : loop.claimed.length + loop.aio.inFlight.length +
      loop.aio.completed.length ≤ 1 := orderly.single
  refine ⟨orderly.fifo, by omega, by omega, fun someClaimed => ?_⟩
  have positive := List.length_pos_iff.mpr someClaimed
  apply List.length_eq_zero_iff.mp
  omega

/-- Whatever the callers do and however the operations end, the loop delivers in
order and exactly once. -/
theorem delivers_of_run (labels : List (Label Message)) (final : SendLoop Message)
    (reached : Lib.run step {} labels = some final) : final.Delivers := by
  apply delivers_of_orderly
  exact Turnstile.Orderly.of_run (refines.run_trace reached)

/-- Two callers overlap, the first send fails, and the second message stays
queued. -/
def overlap : List (Label String) :=
  [.sendInit false, .sendMsg (some "a"), .sendMsg (some "b"), .handOver 0,
    .complete .timedout, .callback]

theorem delivers_of_run_overlap :
    ∃ final, Lib.run step {} overlap = some final ∧ final.aio.sent = ["a"] ∧
      final.queue.deq = [some "b"] ∧ final.Delivers :=
  ⟨_, rfl, rfl, rfl, delivers_of_run overlap _ rfl⟩

/-! ## Stalling -/

/-- No call of `send_msg` and no callback is mid-way. -/
def Idle (loop : SendLoop Message) : Prop :=
  loop.active = [] ∧ loop.aio.completed = []

/-- Between activities the queue is busy exactly while one operation is in flight,
and nothing is queued while there is none. -/
def NeverStalls (loop : SendLoop Message) : Prop :=
  loop.Idle →
    (loop.queue.busy = true ↔ loop.aio.inFlight.length = 1) ∧
      (loop.aio.inFlight = [] → loop.queue.deq = [])

/-- The callback reads a success and the handle it takes from the queue is not
null; a message sent while the queue is free is not null. -/
def Reliable (loop : SendLoop Message) : Label Message → Prop
  | .sendMsg msg => loop.handler ≠ none → loop.queue.busy = true ∨ msg ≠ none
  | .callback =>
      loop.aio.completed.head? = some .success ∧ loop.queue.deq.head? ≠ some none
  | .sendInit _ | .handOver _ | .complete _ => True

instance [DecidableEq Message] (loop : SendLoop Message) :
    (label : Label Message) → Decidable (loop.Reliable label)
  | .sendMsg _ => inferInstanceAs (Decidable (_ → _ ∨ _))
  | .callback => inferInstanceAs (Decidable (_ ∧ _))
  | .sendInit _ | .handOver _ | .complete _ => isTrue trivial

theorem neverStalls_of_flowing {loop : SendLoop Message}
    (flowing : loop.view.Flowing) : loop.NeverStalls := by
  rintro ⟨noneActive, noneCompleted⟩
  exact flowing.atRest noneActive (List.length_eq_zero_iff.mpr noneCompleted)

/-- A stalled loop keeps its flag up with nothing in flight. -/
theorem not_neverStalls_of_stalled {loop : SendLoop Message} (idle : loop.Idle)
    (stalled : loop.view.Stalled) : ¬loop.NeverStalls := by
  intro neverStalls
  have one := (neverStalls idle).1.mp stalled.busy
  have noneInFlight : loop.aio.inFlight = [] := stalled.flying_eq_nil
  simp [noneInFlight] at one

/-- An operation can only have completed for an installed handler. -/
theorem handler_of_completed {loop : SendLoop Message} (orderly : loop.view.Orderly)
    (completed : loop.aio.completed ≠ []) : loop.handler.isSome := by
  have turn : 0 < loop.view.turns := by
    have positive := List.length_pos_iff.mpr completed
    simp only [Turnstile.turns, view]
    omega
  have busy : loop.queue.busy = true := orderly.busy_of_turn turn
  cases handler : loop.handler with
  | some queue => rfl
  | none => simp [queue, handler] at busy

/-- The reliable steps are those whose move keeps the turn alive. -/
theorem passes_iff_reliable {loop next : SendLoop Message} {label : Label Message}
    (orderly : loop.view.Orderly) (stepped : loop.step label = some next) :
    (∀ action, loop.move label = some action → loop.view.Passes action) ↔
      loop.Reliable label := by
  cases label with
  | sendInit expired => simp [move, Reliable]
  | handOver index => simp [move, Reliable, Turnstile.Passes]
  | complete result => simp [move, Reliable, Turnstile.Passes]
  | sendMsg msg =>
      cases handler : loop.handler with
      | none => simp [move, Reliable, handler]
      | some queue => simp [move, Reliable, Turnstile.Passes, view, handler]
  | callback =>
      have completed : loop.aio.completed ≠ [] := by
        intro empty
        simp [step, asyncSendCallback, empty] at stepped
      have present := handler_of_completed orderly completed
      by_cases success : loop.aio.completed.head? = some .success
      · simp [move, Reliable, Turnstile.Passes, present, success, view]
      · simp [move, Reliable, Turnstile.Passes, success]

/-- Along a run of reliable steps the loop never stalls.  Conversely a run that
ends with every activity finished and never stalled had reliable steps only. -/
theorem neverStalls_iff_reliable (labels : List (Label Message))
    (final : SendLoop Message) (reached : Lib.run step {} labels = some final) :
    (Lib.Meets step Reliable {} labels → Lib.Along step NeverStalls {} labels) ∧
      (final.Idle → Lib.Along step NeverStalls {} labels →
        Lib.Meets step Reliable {} labels) := by
  obtain ⟨enough, needed⟩ :=
    Turnstile.along_and_meets refines (fun _ _ _ => passes_iff_reliable)
      (fun _ => neverStalls_of_flowing) Turnstile.Flowing.empty reached
  exact ⟨enough, fun idle => needed (not_neverStalls_of_stalled idle)⟩

/-- Two messages, the second one queued behind the first, both sent. -/
def exchange : List (Label String) :=
  [.sendInit false, .sendMsg (some "a"), .sendMsg (some "b"), .handOver 0,
    .handOver 0, .complete .success, .callback, .handOver 0, .complete .success,
    .callback, .handOver 0]

theorem neverStalls_iff_reliable_exchange :
    (Lib.run step {} exchange).map (fun final => final.aio.sent) =
        some ["a", "b"] ∧
      Lib.Along step NeverStalls {} exchange := by
  have sent : (Lib.run step {} exchange).map (fun final => final.aio.sent) =
      some ["a", "b"] := by decide
  obtain ⟨final, reached, _⟩ := Option.map_eq_some_iff.mp sent
  exact ⟨sent, (neverStalls_iff_reliable exchange final reached).1 (by decide)⟩

/-- After a send that timed out nothing is sent any more: the flag stays up, and
the next message waits for a completion that will not come. -/
theorem stalls_on_timeout :
    ∃ final : SendLoop String,
      Lib.run step {} [.sendInit false, .sendMsg (some "a"), .handOver 0,
        .complete .timedout, .callback, .handOver 0, .sendMsg (some "b"),
        .handOver 0] = some final ∧
      final.Idle ∧ final.queue = { deq := [some "b"], busy := true } ∧
      final.aio.inFlight = [] ∧ ¬final.NeverStalls := by
  refine ⟨_, rfl, ⟨rfl, rfl⟩, rfl, rfl, ?_⟩
  intro neverStalls
  have one := (neverStalls ⟨rfl, rfl⟩).1.mp rfl
  contradiction

end SendLoop

end Telling.Io
