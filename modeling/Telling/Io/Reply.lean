import Mathlib.Data.Finset.Basic
import Telling.Io.SendQueue
import Telling.Lib.Turnstile

/-!
# The Reply communicator

`Reply` receives queries and sends responses.  Each query has a context of its
own, pickled into its id; the ids without a response are kept in `unresponded`.
Responders claim an id under one mutex, put the response into the outbox under
another, and send it themselves if the outbox was free.  The steps below are the
sections between these points, taken by any number of threads in any order.

The handler is the user's.  What its `async_prep` makes of a response is the
parameter `prep`; the responses that its other callbacks give are calls of
`respondTo` like those of any thread.
-/

namespace Telling.Io

universe u

/-- `Reply::OutboxItem`. -/
structure OutboxItem (Message : Type u) where
  ctx : QueryID
  msg : Message
  deriving DecidableEq, Repr

/-- Where the receiving side stands: not receiving, receiving on a context, inside
the handler's `async_recv` for a query, or past it. -/
inductive Receiver where
  | stopped
  | armed (ctx : QueryID)
  | handling (queryID : QueryID)
  | returning
  deriving DecidableEq, Repr

/-- The state of a `Reply` communicator. -/
structure Reply (Message : Type u) where
  /-- `isReady()`: a listener or dialer is active. -/
  ready : Bool := false
  /-- A handler is installed. -/
  handler : Bool := false
  receiver : Receiver := .stopped
  unresponded : Finset QueryID := ∅
  /-- Responders that have claimed their query and not reached the outbox. -/
  claimed : List (OutboxItem Message) := []
  outbox : SendQueue (OutboxItem Message) := {}
  aioSend : Aio (OutboxItem Message) := {}
  /-- Responders and callbacks past the outbox, each with the item it is to send,
  if any. -/
  active : List (Option (OutboxItem Message)) := []
  /-- The items given to `outbox.produce`, in the order of the calls. -/
  accepted : List (OutboxItem Message) := []
  deriving DecidableEq

namespace Reply

variable {Message : Type u}

/-- `Reply::initialize`.  `ctx` is the context that `make_ctx` opens. -/
def initializeWith (reply : Reply Message) (expired : Bool) (ctx : QueryID) :
    Except NngError (Reply Message) :=
  if reply.handler then .error .busy
  else if expired then .error .closed
  else .ok { reply with handler := true, receiver := .armed ctx }

section Prep

variable (prep : QueryID → Option Message → Option Message)

/-- `Reply::respondTo` up to the claim of the query. -/
def respondTo (reply : Reply Message) (queryID : QueryID) (msg : Option Message) :
    Except NngError (Reply Message) :=
  if !reply.ready then .error .closed
  else if !reply.handler then .ok reply
  else
    match prep queryID msg with
    | none => .ok reply
    | some msg =>
        if queryID ∈ reply.unresponded then
          .ok { reply with
            unresponded := reply.unresponded.erase queryID
            claimed := reply.claimed ++ [⟨queryID, msg⟩] }
        else .error .inval

/-- `Reply::_aioReceived` up to the call of the handler. -/
def aioReceived (reply : Reply Message) (result : NngError) : Option (Reply Message) :=
  match reply.receiver with
  | .armed queryID =>
      if !reply.handler then some { reply with receiver := .stopped }
      else
        match result with
        | .success => some
            { reply with
              unresponded := insert queryID reply.unresponded
              receiver := .handling queryID }
        | _ => some { reply with receiver := .stopped }
  | _ => none

/-- `async_recv` returns, perhaps with a response in its tag.  An exception of
`respondTo` leaves the callback, and nothing is received any more. -/
def handled (reply : Reply Message) (responseMsg : Option Message) :
    Option (Reply Message) :=
  match reply.receiver with
  | .handling queryID =>
      match responseMsg with
      | none => some { reply with receiver := .returning }
      | some msg =>
          match reply.respondTo prep queryID (some msg) with
          | .ok responded => some { responded with receiver := .returning }
          | .error _ => some { reply with receiver := .stopped }
  | _ => none

end Prep

/-- The end of `_aioReceived`: receive again, on the context that `make_ctx`
opens. -/
def rearm (reply : Reply Message) (ctx : QueryID) : Option (Reply Message) :=
  match reply.receiver with
  | .returning => some { reply with receiver := .armed ctx }
  | _ => none

/-- `respondTo` from the claim to the outbox. -/
def enqueue (reply : Reply Message) (index : Nat) : Option (Reply Message) :=
  match reply.claimed[index]? with
  | none => none
  | some toSend =>
      let started := { reply with
        claimed := reply.claimed.eraseIdx index
        accepted := reply.accepted ++ [toSend] }
      match reply.outbox.produce toSend with
      | (true, outbox) => some
          { started with outbox := outbox, active := reply.active ++ [none] }
      | (false, outbox) => some
          { started with outbox := outbox, active := reply.active ++ [some toSend] }

/-- A responder or a callback hands its item to `aio_send` and returns. -/
def handOver (reply : Reply Message) (index : Nat) : Option (Reply Message) :=
  match reply.active[index]? with
  | none => none
  | some item => some
      { reply with
        active := reply.active.eraseIdx index
        aioSend := reply.aioSend.sendIf item }

/-- `Reply::_aioSent` up to the hand-over.  Without a handler the call of
`async_sent` has no defined behaviour. -/
def aioSent (reply : Reply Message) : Option (Reply Message) :=
  match reply.aioSend.completed with
  | [] => none
  | result :: rest =>
      let started := { reply with aioSend := { reply.aioSend with completed := rest } }
      match result with
      | .success =>
          if reply.handler then
            let (next, outbox) := reply.outbox.consume
            some { started with outbox := outbox, active := reply.active ++ [next] }
          else none
      | _ => some { started with active := reply.active ++ [none] }

inductive Label (Message : Type u) where
  | ready (value : Bool)
  | initializeWith (expired : Bool) (ctx : QueryID)
  | received (result : NngError)
  | handled (responseMsg : Option Message)
  | rearm (ctx : QueryID)
  | respondTo (queryID : QueryID) (msg : Option Message)
  | enqueue (index : Nat)
  | handOver (index : Nat)
  | complete (result : NngError)
  | sent
  deriving DecidableEq, Repr

/-- One step.  A call that throws leaves the communicator as it was. -/
def step (prep : QueryID → Option Message → Option Message) (reply : Reply Message) :
    Label Message → Option (Reply Message)
  | .ready value => some { reply with ready := value }
  | .initializeWith expired ctx =>
      some ((reply.initializeWith expired ctx).toOption.getD reply)
  | .received result => reply.aioReceived result
  | .handled responseMsg => reply.handled prep responseMsg
  | .rearm ctx => reply.rearm ctx
  | .respondTo queryID msg =>
      some ((reply.respondTo prep queryID msg).toOption.getD reply)
  | .enqueue index => reply.enqueue index
  | .handOver index => reply.handOver index
  | .complete result =>
      (reply.aioSend.complete result).map fun aio => { reply with aioSend := aio }
  | .sent => reply.aioSent

/-! ## The sending side -/

/-- The steps that come after a claim. -/
inductive Sending where
  | enqueue (index : Nat)
  | handOver (index : Nat)
  | complete (result : NngError)
  | sent
  deriving DecidableEq, Repr

def Sending.label : Sending → Label Message
  | .enqueue index => .enqueue index
  | .handOver index => .handOver index
  | .complete result => .complete result
  | .sent => .sent

/-- The rest of the communicator stays, and no response is lost. -/
structure Sending.Frame (before after : Reply Message) : Prop where
  ready : after.ready = before.ready
  handler : after.handler = before.handler
  receiver : after.receiver = before.receiver
  unresponded : after.unresponded = before.unresponded
  items : (after.accepted ++ after.claimed).Perm (before.accepted ++ before.claimed)

theorem Sending.frame {prep : QueryID → Option Message → Option Message}
    {reply next : Reply Message} {sending : Sending}
    (stepped : reply.step prep sending.label = some next) : Frame reply next := by
  cases sending with
  | enqueue index =>
      simp only [Sending.label, Reply.step, Reply.enqueue] at stepped
      cases found : reply.claimed[index]? with
      | none => simp [found] at stepped
      | some item =>
          obtain ⟨inside, equal⟩ := List.getElem?_eq_some_iff.mp found
          have moved : (item :: reply.claimed.eraseIdx index).Perm reply.claimed :=
            equal ▸ List.getElem_cons_eraseIdx_perm inside
          have kept : (reply.accepted ++ [item] ++ reply.claimed.eraseIdx index).Perm
              (reply.accepted ++ reply.claimed) := by
            rw [List.append_assoc, List.singleton_append]
            exact moved.append_left reply.accepted
          simp only [found] at stepped
          split at stepped <;> obtain rfl := Option.some.inj stepped <;>
            exact ⟨rfl, rfl, rfl, rfl, kept⟩
  | handOver index =>
      simp only [Sending.label, Reply.step, Reply.handOver] at stepped
      split at stepped
      · contradiction
      · obtain rfl := Option.some.inj stepped
        exact ⟨rfl, rfl, rfl, rfl, .refl _⟩
  | complete result =>
      obtain ⟨aio, _, rfl⟩ := Option.map_eq_some_iff.mp stepped
      exact ⟨rfl, rfl, rfl, rfl, .refl _⟩
  | sent =>
      simp only [Sending.label, Reply.step, Reply.aioSent] at stepped
      split at stepped
      · contradiction
      · split at stepped
        · split at stepped
          · obtain rfl := Option.some.inj stepped
            exact ⟨rfl, rfl, rfl, rfl, .refl _⟩
          · contradiction
        · obtain rfl := Option.some.inj stepped
          exact ⟨rfl, rfl, rfl, rfl, .refl _⟩

/-! ## The outbox and its aio refine a turnstile -/

open Lib (Turnstile)

/-- The sending side as a turnstile.  Outbox items are never null. -/
def view (reply : Reply Message) : Turnstile (OutboxItem Message) where
  busy := reply.outbox.busy
  waiting := reply.outbox.deq.map some
  holding := reply.active
  flying := reply.aioSend.inFlight
  landed := reply.aioSend.completed.length
  accepted := reply.accepted
  sent := reply.aioSend.sent

/-- The turnstile move that a step makes, if any. -/
def move (reply : Reply Message) :
    Label Message → Option (Turnstile.Move (OutboxItem Message))
  | .enqueue index => (reply.claimed[index]?).map fun toSend => .submit (some toSend)
  | .handOver index => some (.transmit index)
  | .complete _ => some .land
  | .sent =>
      if reply.aioSend.completed.head? = some .success then some .pass
      else some .abandon
  | .ready _ | .initializeWith _ _ | .received _ | .handled _ | .rearm _
  | .respondTo _ _ => none

section Refinement

variable {prep : QueryID → Option Message → Option Message}
variable {reply next : Reply Message}

/-- A call of `respondTo` that returns either did nothing or claimed its query. -/
theorem respondTo_eq_ok {queryID : QueryID} {msg : Option Message}
    (returned : reply.respondTo prep queryID msg = .ok next) :
    next = reply ∨
      ∃ prepared, prep queryID msg = some prepared ∧ queryID ∈ reply.unresponded ∧
        next = { reply with
          unresponded := reply.unresponded.erase queryID
          claimed := reply.claimed ++ [⟨queryID, prepared⟩] } := by
  simp only [respondTo] at returned
  split at returned
  · contradiction
  · split at returned
    · exact Or.inl (Except.ok.inj returned).symm
    · split at returned
      · exact Or.inl (Except.ok.inj returned).symm
      · rename_i prepared prepEq
        split at returned
        · rename_i outstanding
          exact Or.inr ⟨prepared, prepEq, outstanding, (Except.ok.inj returned).symm⟩
        · contradiction

/-- On a ready communicator with a live handler, a message for an outstanding query
claims it. -/
theorem respondTo_of_outstanding {queryID : QueryID} {msg : Option Message}
    {prepared : Message} (ready : reply.ready = true) (live : reply.handler = true)
    (prepEq : prep queryID msg = some prepared)
    (outstanding : queryID ∈ reply.unresponded) :
    reply.respondTo prep queryID msg = .ok { reply with
      unresponded := reply.unresponded.erase queryID
      claimed := reply.claimed ++ [⟨queryID, prepared⟩] } := by
  simp [respondTo, ready, live, prepEq, outstanding]

/-- A response reaches the outbox only later. -/
theorem respondTo_view {queryID : QueryID} {msg : Option Message}
    (returned : reply.respondTo prep queryID msg = .ok next) :
    next.view = reply.view := by
  rcases respondTo_eq_ok returned with rfl | ⟨prepared, _, _, rfl⟩ <;> rfl

theorem respondTo_step_view (queryID : QueryID) (msg : Option Message) :
    ((reply.respondTo prep queryID msg).toOption.getD reply).view = reply.view := by
  cases returned : reply.respondTo prep queryID msg with
  | error error => rfl
  | ok next => exact respondTo_view returned

theorem initializeWith_view (expired : Bool) (ctx : QueryID) :
    ((reply.initializeWith expired ctx).toOption.getD reply).view = reply.view := by
  simp only [initializeWith]
  repeat' split
  all_goals rfl

theorem aioReceived_view {result : NngError}
    (stepped : reply.aioReceived result = some next) : next.view = reply.view := by
  simp only [aioReceived] at stepped
  split at stepped
  · split at stepped
    · exact Option.some.inj stepped ▸ rfl
    · split at stepped <;> exact Option.some.inj stepped ▸ rfl
  · contradiction

theorem handled_view {responseMsg : Option Message}
    (stepped : reply.handled prep responseMsg = some next) :
    next.view = reply.view := by
  simp only [handled] at stepped
  split at stepped
  · split at stepped
    · exact Option.some.inj stepped ▸ rfl
    · split at stepped
      · rename_i responded returned
        obtain rfl := Option.some.inj stepped
        have sameView : responded.view = reply.view := respondTo_view returned
        exact sameView
      · exact Option.some.inj stepped ▸ rfl
  · contradiction

theorem rearm_view {ctx : QueryID} (stepped : reply.rearm ctx = some next) :
    next.view = reply.view := by
  simp only [rearm] at stepped
  split at stepped
  · exact Option.some.inj stepped ▸ rfl
  · contradiction

theorem enqueue_view {index : Nat} {toSend : OutboxItem Message}
    (found : reply.claimed[index]? = some toSend) :
    (reply.enqueue index).map view = some (reply.view.submit (some toSend)) := by
  cases busy : reply.outbox.busy <;>
    simp [enqueue, found, SendQueue.produce, busy, view, Turnstile.submit]

theorem handOver_view {index : Nat} (stepped : reply.handOver index = some next) :
    reply.view.transmit index = some next.view := by
  simp only [handOver] at stepped
  split at stepped
  · contradiction
  · rename_i item found
    obtain rfl := Option.some.inj stepped
    simp [Turnstile.transmit, view, found]

theorem complete_view {result : NngError}
    (stepped : reply.step prep (.complete result) = some next) :
    reply.view.land = some next.view := by
  obtain ⟨aio, completed, rfl⟩ := Option.map_eq_some_iff.mp stepped
  obtain ⟨item, rest, inFlight, rfl⟩ := Aio.complete_eq_some completed
  simp [Turnstile.land, view, inFlight]

/-- On success the callback passes the turn on. -/
theorem aioSent_success {rest : List NngError}
    (completed : reply.aioSend.completed = .success :: rest)
    (stepped : reply.aioSent = some next) : reply.view.pass = some next.view := by
  simp only [aioSent, completed] at stepped
  split at stepped
  · obtain rfl := Option.some.inj stepped
    cases queued : reply.outbox.deq <;>
      simp [Turnstile.pass, completed, view, SendQueue.consume, queued]
  · contradiction

/-- On any error it returns without looking at the outbox. -/
theorem aioSent_failure {result : NngError} {rest : List NngError}
    (failed : result ≠ .success)
    (completed : reply.aioSend.completed = result :: rest)
    (stepped : reply.aioSent = some next) : reply.view.abandon = some next.view := by
  simp only [aioSent, completed] at stepped
  cases result with
  | success => contradiction
  | _ =>
      obtain rfl := Option.some.inj stepped
      simp [Turnstile.abandon, completed, view]

/-- Every step of the communicator is a move of the turnstile, or none at all. -/
theorem refines :
    Lib.Refines (step prep) Turnstile.step
      (view : Reply Message → Turnstile (OutboxItem Message)) move := by
  intro reply label next stepped
  cases label with
  | ready value => exact Option.some.inj stepped ▸ rfl
  | initializeWith expired ctx =>
      obtain rfl := Option.some.inj stepped
      exact congrArg some (initializeWith_view expired ctx).symm
  | received result => exact congrArg some (aioReceived_view stepped).symm
  | handled responseMsg => exact congrArg some (handled_view stepped).symm
  | rearm ctx => exact congrArg some (rearm_view stepped).symm
  | respondTo queryID msg =>
      obtain rfl := Option.some.inj stepped
      exact congrArg some (respondTo_step_view queryID msg).symm
  | enqueue index =>
      cases found : reply.claimed[index]? with
      | none => simp [step, enqueue, found] at stepped
      | some toSend =>
          have matched := enqueue_view found
          rw [show reply.enqueue index = some next from stepped] at matched
          simp only [move, found, Option.map_some, Option.toList_some, Lib.run,
            Turnstile.step]
          exact matched.symm
  | handOver index =>
      simp [move, Lib.run, Turnstile.step, handOver_view stepped]
  | complete result =>
      simp [move, Lib.run, Turnstile.step, complete_view stepped]
  | sent =>
      cases completed : reply.aioSend.completed with
      | nil => simp [step, aioSent, completed] at stepped
      | cons result rest =>
          by_cases success : result = .success
          · subst success
            simp [move, completed, Lib.run, Turnstile.step,
              aioSent_success completed stepped]
          · simp [move, completed, success, Lib.run, Turnstile.step,
              aioSent_failure success completed stepped]

end Refinement

/-! ## Stalling -/

/-- No call of `respondTo` and no callback is mid-way. -/
def Idle (reply : Reply Message) : Prop :=
  reply.claimed = [] ∧ reply.active = [] ∧ reply.aioSend.completed = [] ∧
    (reply.receiver = .stopped ∨ ∃ ctx, reply.receiver = .armed ctx)

/-- Between activities a busy outbox has a send in flight, and every accepted
response has been handed to its context's send or waits behind that operation. -/
def KeepsSending (reply : Reply Message) : Prop :=
  reply.Idle →
    (reply.outbox.busy = true → reply.aioSend.inFlight ≠ []) ∧
      ∀ item ∈ reply.accepted,
        item ∈ reply.aioSend.sent ∨
          item ∈ reply.outbox.deq ∧ reply.aioSend.inFlight ≠ []

/-- The callback reads a success. -/
def SendSucceeds (reply : Reply Message) : Label Message → Prop
  | .sent => reply.aioSend.completed.head? = some .success
  | _ => True

instance (reply : Reply Message) :
    (label : Label Message) → Decidable (reply.SendSucceeds label)
  | .sent => inferInstanceAs (Decidable (_ = _))
  | .ready _ | .initializeWith _ _ | .received _ | .handled _ | .rearm _
  | .respondTo _ _ | .enqueue _ | .handOver _ | .complete _ => isTrue trivial

variable {prep : QueryID → Option Message → Option Message}

theorem keepsSending_of_flowing {reply : Reply Message}
    (flowing : reply.view.Flowing) : reply.KeepsSending := by
  rintro ⟨_, noneActive, noneCompleted, _⟩
  obtain ⟨busyIff, noneWaiting⟩ :=
    flowing.atRest noneActive (List.length_eq_zero_iff.mpr noneCompleted)
  refine ⟨fun busy noneInFlight => ?_, fun item accepted => ?_⟩
  · have one : reply.aioSend.inFlight.length = 1 := busyIff.mp busy
    simp [noneInFlight] at one
  · have fifo : reply.aioSend.sent ++ reply.active.reduceOption ++
        (reply.outbox.deq.map some).reduceOption = reply.accepted := flowing.fifo
    have sentOrQueued : item ∈ reply.aioSend.sent ∨ item ∈ reply.outbox.deq := by
      simpa [← fifo, noneActive, List.reduceOption_mem_iff] using accepted
    refine sentOrQueued.imp_right fun queued => ⟨queued, fun noneInFlight => ?_⟩
    have empty : reply.outbox.deq.map some = [] := noneWaiting noneInFlight
    rw [List.map_eq_nil_iff.mp empty] at queued
    contradiction

/-- A stalled outbox is busy with nothing in flight. -/
theorem not_keepsSending_of_stalled {reply : Reply Message} (idle : reply.Idle)
    (stalled : reply.view.Stalled) : ¬reply.KeepsSending := by
  intro keepsSending
  exact (keepsSending idle).1 stalled.busy stalled.flying_eq_nil

/-- The steps that keep the turn alive are those whose callback reads a success. -/
theorem passes_iff_sendSucceeds {reply next : Reply Message} {label : Label Message}
    (stepped : reply.step prep label = some next) :
    (∀ action, reply.move label = some action → reply.view.Passes action) ↔
      reply.SendSucceeds label := by
  cases label with
  | enqueue index =>
      cases found : reply.claimed[index]? with
      | none => simp [step, enqueue, found] at stepped
      | some toSend => simp [move, found, SendSucceeds, Turnstile.Passes]
  | sent =>
      by_cases success : reply.aioSend.completed.head? = some .success
      · simp [move, success, SendSucceeds, Turnstile.Passes, view]
      · simp [move, success, SendSucceeds, Turnstile.Passes]
  | _ => simp [move, SendSucceeds, Turnstile.Passes]

/-- As long as every send succeeds, the communicator keeps sending.  Conversely a
run that ends with every activity finished and always kept sending had no failed
send. -/
theorem keepsSending_iff_sendSucceeds (labels : List (Label Message))
    (final : Reply Message) (reached : Lib.run (step prep) {} labels = some final) :
    (Lib.Meets (step prep) SendSucceeds {} labels →
        Lib.Along (step prep) KeepsSending {} labels) ∧
      (final.Idle → Lib.Along (step prep) KeepsSending {} labels →
        Lib.Meets (step prep) SendSucceeds {} labels) := by
  obtain ⟨enough, needed⟩ :=
    Turnstile.along_and_meets refines (fun _ _ _ _ => passes_iff_sendSucceeds)
      (fun _ => keepsSending_of_flowing) Turnstile.Flowing.empty reached
  exact ⟨enough, fun idle => needed (not_keepsSending_of_stalled idle)⟩

/-- Two queries; the first is answered through the tag, the second by another
thread while the first response is under way. -/
def conversation : List (Label String) :=
  [.ready true, .initializeWith false 1, .received .success, .handled (some "a"),
    .enqueue 0, .handOver 0, .rearm 2, .received .success, .handled none, .rearm 3,
    .respondTo 2 (some "b"), .enqueue 0, .complete .success, .sent, .handOver 0,
    .handOver 0, .complete .success, .sent, .handOver 0]

theorem keepsSending_iff_sendSucceeds_conversation :
    (Lib.run (step fun _ msg => msg) {} conversation).map
        (fun final => final.aioSend.sent) = some [⟨1, "a"⟩, ⟨2, "b"⟩] ∧
      Lib.Along (step fun _ msg => msg) KeepsSending {} conversation := by
  have sent : (Lib.run (step fun _ msg => msg) {} conversation).map
      (fun final => final.aioSend.sent) = some [⟨1, "a"⟩, ⟨2, "b"⟩] := by
    decide
  obtain ⟨final, reached, _⟩ := Option.map_eq_some_iff.mp sent
  exact ⟨sent,
    (keepsSending_iff_sendSucceeds conversation final reached).1 (by decide)⟩

/-- After one response failed to be sent, the next one waits for ever. -/
theorem stalls_on_failed_response :
    ∃ final : Reply String,
      Lib.run (step fun _ msg => msg) {} [.ready true, .initializeWith false 1,
        .received .success, .handled (some "a"), .enqueue 0, .handOver 0, .rearm 2,
        .complete .timedout, .sent, .handOver 0, .received .success,
        .handled (some "b"), .enqueue 0, .handOver 0, .rearm 3] = some final ∧
      final.Idle ∧ final.outbox = { deq := [⟨2, "b"⟩], busy := true } ∧
      final.aioSend.inFlight = [] ∧ ¬final.KeepsSending := by
  refine ⟨_, rfl, ⟨rfl, rfl, rfl, Or.inr ⟨3, rfl⟩⟩, rfl, rfl, ?_⟩
  intro keepsSending
  exact (keepsSending ⟨rfl, rfl, rfl, Or.inr ⟨3, rfl⟩⟩).1 rfl rfl

end Reply

end Telling.Io
