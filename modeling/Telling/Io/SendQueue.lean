import Telling.Io.Nng

/-!
# The send queue and the aio it feeds

`SendQueueMtx_` is the queue with a busy flag that every sender of the library
uses.  Each of its methods holds the mutex for its whole body, so each is one
atomic step.

An `nng::aio` is meant for one operation at a time, but NNG does not stop a
program from starting a second one.  The model therefore keeps a list of
operations under way.
-/

namespace Telling.Io

universe u

/-- An `nng::aio` used for sending. -/
structure Aio (Message : Type u) where
  inFlight : List Message := []
  /-- Results of finished operations whose callback has not read them. -/
  completed : List NngError := []
  /-- Everything handed to `send` so far, first to last. -/
  sent : List Message := []
  deriving DecidableEq, Repr

namespace Aio

variable {Message : Type u}

/-- `aio.set_msg` followed by `ctx.send(aio)`. -/
def send (aio : Aio Message) (msg : Message) : Aio Message :=
  { aio with inFlight := aio.inFlight ++ [msg], sent := aio.sent ++ [msg] }

/-- `if (msg) ...`: a null handle is not sent. -/
def sendIf (aio : Aio Message) : Option Message → Aio Message
  | none => aio
  | some msg => aio.send msg

/-- The transport finishes the operation with a result and queues the callback. -/
def complete (aio : Aio Message) (result : NngError) : Option (Aio Message) :=
  match aio.inFlight with
  | [] => none
  | _ :: rest => some
      { aio with inFlight := rest, completed := aio.completed ++ [result] }

@[simp] theorem sendIf_inFlight (aio : Aio Message) (msg : Option Message) :
    (aio.sendIf msg).inFlight = aio.inFlight ++ msg.toList := by
  cases msg <;> simp [sendIf, send]

@[simp] theorem sendIf_completed (aio : Aio Message) (msg : Option Message) :
    (aio.sendIf msg).completed = aio.completed := by
  cases msg <;> rfl

@[simp] theorem sendIf_sent (aio : Aio Message) (msg : Option Message) :
    (aio.sendIf msg).sent = aio.sent ++ msg.toList := by
  cases msg <;> simp [sendIf, send]

theorem complete_eq_some {aio next : Aio Message} {result : NngError}
    (completed : aio.complete result = some next) :
    ∃ msg rest, aio.inFlight = msg :: rest ∧
      next = { aio with inFlight := rest, completed := aio.completed ++ [result] } := by
  simp only [complete] at completed
  split at completed
  · contradiction
  · rename_i msg rest inFlight
    exact ⟨msg, rest, inFlight, (Option.some.inj completed).symm⟩

end Aio

/-- `SendQueueMtx_<T>`. -/
structure SendQueue (Element : Type u) where
  deq : List Element := []
  busy : Bool := false
  deriving DecidableEq, Repr

namespace SendQueue

variable {Element : Type u}

/-- `produce` moves the message away exactly when it returns true. -/
def produce (queue : SendQueue Element) (msg : Element) : Bool × SendQueue Element :=
  if queue.busy then
    (true, { queue with deq := queue.deq ++ [msg] })
  else
    (false, { queue with busy := true })

/-- `consume` ceases to be busy when there is nothing to dequeue. -/
def consume (queue : SendQueue Element) : Option Element × SendQueue Element :=
  match queue.deq with
  | [] => (none, { queue with busy := false })
  | front :: rest => (some front, { queue with deq := rest })

end SendQueue

end Telling.Io
