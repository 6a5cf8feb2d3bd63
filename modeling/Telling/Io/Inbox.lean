import Telling.Io.RecvLoop

/-!
# Inboxes

`Pull_Box` and `Subscribe_Box` are receive loops that hand their messages to a
`RecvQueueMtx_`, from which any thread may take them.  Until the box is destroyed, and
whatever the transport and the consumers do, the messages that were taken and those that
wait are the messages that were received, in their order.
-/

namespace Telling.Io

universe u

/-- `RecvQueueMtx_<T>`.  Each method holds the mutex for its whole body. -/
structure RecvQueue (Element : Type u) where
  deq : List Element := []
  deriving DecidableEq, Repr

namespace RecvQueue

variable {Element : Type u}

def push (queue : RecvQueue Element) (msg : Element) : RecvQueue Element :=
  { queue with deq := queue.deq ++ [msg] }

/-- `pull` has no result when the queue is empty. -/
def pull (queue : RecvQueue Element) : Option Element × RecvQueue Element :=
  match queue.deq with
  | [] => (none, queue)
  | front :: rest => (some front, { queue with deq := rest })

end RecvQueue

/-- The message of a call of `async_recv`. -/
def RecvCall.message {Message : Type u} : RecvCall Message → Option (Option Message)
  | .recv msg => some msg
  | .start | .error _ | .stop _ => none

namespace RecvLoop

variable {Message : Type u}

/-- The messages given to `async_recv` so far. -/
def received (loop : RecvLoop Message) : List (Option Message) :=
  loop.trace.filterMap RecvCall.message

/-- The message that a step gives to `async_recv`, if any. -/
def gives (loop : RecvLoop Message) : Label Message → Option (Option Message)
  | .callback =>
      match loop.aio with
      | .landed .success msg => if loop.handler then some msg else none
      | _ => none
  | _ => none

theorem callback_received (loop : RecvLoop Message) (result : NngError)
    (msg : Option Message) :
    (loop.callback result msg).received = loop.received ++
      if loop.handler ∧ result = .success then [msg] else [] := by
  unfold callback
  cases loop.handler with
  | false => simp [received]
  | true => cases result <;> simp [received, RecvCall.message]

theorem recvStart_received (loop : RecvLoop Message) (expired startThrows : Bool) :
    (loop.recvStart expired startThrows).received = loop.received := by
  unfold recvStart
  split
  · rfl
  · split
    · rfl
    · cases startThrows <;> simp [received, recv, RecvCall.message]

theorem step_received {loop next : RecvLoop Message} {label : Label Message}
    (stepped : loop.step label = some next) :
    next.received = loop.received ++ (loop.gives label).toList := by
  cases label with
  | recvStart expired startThrows =>
      simp only [step] at stepped
      split at stepped
      · rw [← Option.some.inj stepped, recvStart_received]
        simp [gives]
      · contradiction
  | callback =>
      simp only [step] at stepped
      split at stepped
      · next result msg landed =>
          rw [← Option.some.inj stepped, callback_received]
          cases handler : loop.handler <;> cases result <;> simp [gives, landed, handler]
      · contradiction
  | finish result msg =>
      simp only [step] at stepped
      split at stepped
      · rw [← Option.some.inj stepped]
        simp [gives, received]
      · contradiction
  | rearm =>
      simp only [step] at stepped
      split at stepped
      · rw [← Option.some.inj stepped]
        simp [gives, received, recv]
      · contradiction
  | recvStop | destroy =>
      simp only [step] at stepped
      split at stepped
      · rw [← Option.some.inj stepped]
        simp [gives, received, stopAio]
      · contradiction
  | stopped =>
      simp only [step] at stepped
      split at stepped
      · rw [← Option.some.inj stepped]
        cases handler : loop.handler <;>
          simp [gives, received, stopHandler, handler, RecvCall.message]
      · rw [← Option.some.inj stepped]
        cases handler : loop.handler <;>
          simp [gives, received, stopHandler, handler, RecvCall.message]
      · contradiction

/-- The message that a completion brings. -/
def Label.brings : Label Message → Option (Option Message)
  | .finish .success msg => some msg
  | _ => none

/-- A message that has come in and that `async_recv` was not given yet. -/
def inAir (loop : RecvLoop Message) : List (Option Message) :=
  match loop.aio with
  | .landed .success msg => [msg]
  | _ => []

/-- A loop whose aio is in use has a handler. -/
def Attended (loop : RecvLoop Message) : Prop := loop.handler = false → loop.aio = .idle

variable {loop next : RecvLoop Message}

theorem recv_inAir (loop : RecvLoop Message) : loop.recv.inAir = [] := by
  cases stopped : loop.stopped <;> simp [recv, inAir, stopped]

theorem callback_inAir (loop : RecvLoop Message) (result : NngError)
    (msg : Option Message) : (loop.callback result msg).inAir = [] := by
  unfold callback
  cases loop.handler with
  | false => rfl
  | true => cases result <;> rfl

theorem Attended.live (attended : loop.Attended) (busy : loop.aio ≠ .idle) :
    loop.handler = true := by
  cases handler : loop.handler with
  | false => exact absurd (attended handler) busy
  | true => rfl

theorem Attended.step (attended : loop.Attended) {label : Label Message}
    (stepped : loop.step label = some next) : next.Attended := by
  cases steps_of_step stepped with
  | @recvStart expired startThrows _ =>
      unfold recvStart
      split
      · exact attended
      · split
        · exact attended
        · cases startThrows <;> simp [Attended, recv]
  | finish pending =>
      intro dead
      simp [attended dead] at pending
  | @callback result msg landed =>
      have live := attended.live (by simp [landed])
      cases result <;> simp [Attended, callback, live]
  | rearm rearming =>
      intro dead
      have idle := attended dead
      simp [rearming] at idle
  | recvStop | destroy =>
      intro dead
      simp [stopAio, attended dead, RecvAio.canceled]
  | stopped _ idle _ => exact fun _ => idle

theorem recvStart_inAir (attended : loop.Attended) (expired startThrows : Bool) :
    (loop.recvStart expired startThrows).inAir = loop.inAir := by
  unfold recvStart
  split
  · rfl
  · split
    · rfl
    · next dead _ =>
        have idle := attended (by simpa using dead)
        have before : loop.inAir = [] := by simp [inAir, idle]
        cases startThrows with
        | false => exact (recv_inAir _).trans before.symm
        | true => simp [inAir, idle]

/-- What has come in is given to `async_recv` once, in the same order. -/
theorem step_inAir (attended : loop.Attended) {label : Label Message}
    (stepped : loop.step label = some next) :
    next.received ++ next.inAir = loop.received ++ loop.inAir ++ label.brings.toList := by
  rw [step_received stepped]
  cases steps_of_step stepped with
  | @recvStart expired startThrows _ =>
      rw [recvStart_inAir attended]
      simp [gives, Label.brings]
  | @finish result msg pending =>
      cases result <;> simp [gives, inAir, pending, Label.brings]
  | @callback result msg landed =>
      have live := attended.live (by simp [landed])
      rw [callback_inAir]
      cases result <;> simp [gives, inAir, landed, live, Label.brings]
  | rearm rearming =>
      rw [recv_inAir]
      simp [gives, inAir, rearming, Label.brings]
  | recvStop | destroy =>
      cases aio : loop.aio <;>
        simp [stopAio, gives, inAir, aio, RecvAio.canceled, Label.brings]
  | stopped _ idle _ => simp [stopHandler, gives, inAir, idle, Label.brings]

end RecvLoop

/-! ## Boxes -/

/-- `Pull_Box` or `Subscribe_Box`, with the messages that its `pull` or `consume` has
returned. -/
structure Inbox (Message : Type u) where
  loop : RecvLoop Message := {}
  queue : RecvQueue (Option Message) := {}
  pulled : List (Option Message) := []

namespace Inbox

variable {Message : Type u}

/-- A step of the loop.  The handler's `async_recv` pushes the message. -/
def proceed (inbox : Inbox Message) (label : RecvLoop.Label Message) :
    Option (Inbox Message) :=
  (inbox.loop.step label).map fun loop =>
    { inbox with
      loop := loop
      queue :=
        match inbox.loop.gives label with
        | none => inbox.queue
        | some msg => inbox.queue.push msg }

/-- `Pull_Box::pull` and `Subscribe_Box::consume`. -/
def pull (inbox : Inbox Message) : Option (Option Message) × Inbox Message :=
  let (msg, queue) := inbox.queue.pull
  (msg, { inbox with queue := queue, pulled := inbox.pulled ++ msg.toList })

inductive Label (Message : Type u) where
  | proceed (label : RecvLoop.Label Message)
  | pull

/-- The destructor destroys the queue before the loop; it is not modelled. -/
def step (inbox : Inbox Message) : Label Message → Option (Inbox Message)
  | .proceed .destroy => none
  | .proceed label => inbox.proceed label
  | .pull => some inbox.pull.2

/-- The messages that were pulled and those that wait are the received ones. -/
def Conveys (inbox : Inbox Message) : Prop :=
  inbox.pulled ++ inbox.queue.deq = inbox.loop.received

variable {inbox next : Inbox Message}

theorem proceed_of_step {label : RecvLoop.Label Message}
    (stepped : inbox.step (.proceed label) = some next) :
    inbox.proceed label = some next := by
  cases label with
  | destroy => simp [step] at stepped
  | _ => exact stepped

theorem Conveys.proceed (conveys : inbox.Conveys) {label : RecvLoop.Label Message}
    (stepped : inbox.proceed label = some next) : next.Conveys := by
  obtain ⟨loop, moved, rfl⟩ := Option.map_eq_some_iff.mp stepped
  unfold Conveys at conveys ⊢
  rw [RecvLoop.step_received moved, ← conveys]
  cases inbox.loop.gives label <;> simp [RecvQueue.push]

theorem Conveys.pull (conveys : inbox.Conveys) : inbox.pull.2.Conveys := by
  have sameLoop : inbox.pull.2.loop = inbox.loop := rfl
  unfold Conveys at conveys ⊢
  rw [sameLoop, ← conveys]
  cases waiting : inbox.queue.deq <;> simp [Inbox.pull, RecvQueue.pull, waiting]

theorem Conveys.step (conveys : inbox.Conveys) {label : Label Message}
    (stepped : inbox.step label = some next) : next.Conveys := by
  cases label with
  | proceed label => exact conveys.proceed (proceed_of_step stepped)
  | pull => exact Option.some.inj stepped ▸ conveys.pull

end Inbox

end Telling.Io
