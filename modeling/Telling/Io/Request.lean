import Telling.Io.Nng
import Telling.Lib.Machine
import Telling.Lib.Map
import Telling.Lib.Pool

/-!
# The Request communicator

`Request` serves each query with an action: a context, an operation handle and a
state.  A query is sent and its response received by two operations on the
action's handle, one after the other.  Actions that are done wait in a pool and
are used again.

The completion callback works in two parts.  The first calls the handler and
decides without the lock; the second takes the lock and commits.  Requests and the
callbacks of other actions can come in between, so the parts are steps of their
own.  NNG completes each operation that was started once, and only then.
-/

namespace Telling.Io

universe u

namespace Request

variable {Message : Type u}

/-- `Request::ACTION_STATE`. -/
inductive ActionState where
  | idle
  | send
  | recv
  deriving DecidableEq, Repr

/-- An operation that was started on the handle of an action. -/
inductive Operation (Message : Type u) where
  | send (msg : Message)
  | recv
  deriving DecidableEq, Repr

/-- The local variables of the callback. -/
structure Verdict where
  cleanup : Bool
  cancel : Bool
  deriving DecidableEq, Repr

/-- `Request::Action`. -/
structure Action (Message : Type u) where
  ctx : QueryID
  state : ActionState := .idle
  /-- Operations on `aio` that have not completed. -/
  inFlight : List (Operation Message) := []
  /-- Callbacks of `aio` that have called the handler and not taken the lock. -/
  running : List Verdict := []
  deriving DecidableEq, Repr

/-- The calls that the handler gets for one query. -/
inductive Event (Message : Type u) where
  | prep
  | sent
  | recv (msg : Message)
  | error (error : NngError)
  deriving DecidableEq, Repr

/-- `async_recv` and `async_error` end a query. -/
def Event.isTerminal : Event Message → Bool
  | .recv _ | .error _ => true
  | .prep | .sent => false

/-- What the callback finds: the result of the operation, the message of a
receive that succeeded, and whether the handler is still alive. -/
structure Completion (Message : Type u) where
  result : NngError
  msg : Message
  live : Bool
  deriving DecidableEq, Repr

namespace Action

/-- The first part of `_callback`: errors and callbacks. -/
def react (action : Action Message) (completion : Completion Message) :
    List (Event Message) × Verdict :=
  if !completion.live then ([], ⟨true, true⟩)
  else
    match completion.result with
    | .success =>
        match action.state with
        | .send => ([.sent], ⟨false, false⟩)
        | .recv => ([.recv completion.msg], ⟨true, false⟩)
        | .idle => ([], ⟨true, false⟩)
    | error => ([.error error], ⟨true, true⟩)

/-- The operation completes and the callback runs up to the lock. -/
def completed (action : Action Message) (verdict : Verdict) : Action Message :=
  { action with
    inFlight := action.inFlight.tail
    running := action.running ++ [verdict] }

/-- The second part of `_callback`, under the lock: listen for the response, or
leave the action idle. -/
def committed (action : Action Message) (verdict : Verdict) : Action Message :=
  let action := { action with running := action.running.tail }
  let state := if verdict.cancel || verdict.cleanup then .idle else action.state
  match state with
  | .send =>
      { action with state := .recv, inFlight := action.inFlight ++ [.recv] }
  | .recv | .idle => { action with state := .idle }

/-- The part of `request` that starts an action for a query that was accepted. -/
def start (action : Action Message) (msg : Message) : Action Message :=
  { action with state := .send, inFlight := action.inFlight ++ [.send msg] }

end Action

/-- What `async_prep` does with the message of a request. -/
inductive Prep (Message : Type u) where
  | accepted (msg : Message)
  | declined
  | thrown
  deriving DecidableEq, Repr

/-- What leaves `request` instead of a query's id. -/
inductive Failure where
  | nng (exception : NngException)
  | handler
  deriving DecidableEq, Repr

/-- `Request_Base::MsgStats`. -/
structure MsgStats where
  awaitingSend : Nat
  awaitingRecv : Nat
  deriving DecidableEq, Repr

/-- The body of the loop of `msgStats`. -/
def MsgStats.count (stats : MsgStats) : ActionState → MsgStats
  | .send => { stats with awaitingSend := stats.awaitingSend + 1 }
  | .recv => { stats with awaitingRecv := stats.awaitingRecv + 1 }
  | .idle => stats

end Request

/-- `Request`.  The pool holds `active` and `idle`; actions are named by the order
of their allocation, accepted queries by the order of their acceptance.  `log` has
the calls that the handler got for them. -/
structure Request (Message : Type u) extends Lib.Pool where
  actions : Nat → Request.Action Message
  log : List (Nat × Request.Event Message)

namespace Request

variable {Message : Type u}

def initial : Request Message where
  actions := fun _ => ⟨0, .idle, [], []⟩
  log := []

/-- `Request::msgStats`. -/
def msgStats (comm : Request Message) : MsgStats :=
  comm.active.foldl (fun stats index => stats.count (comm.actions index).state)
    ⟨0, 0⟩

/-- The allocation in `request`.  `ctx` is the context that `make_ctx` opens for a
new action. -/
def allocate (comm : Request Message) (ctx : QueryID) : Nat × Request Message :=
  let (index, pool) := comm.toPool.take
  match comm.idle with
  | [] => (index, { comm with
      toPool := pool
      actions := Function.update comm.actions index ⟨ctx, .idle, [], []⟩ })
  | _ :: _ => (index, { comm with toPool := pool })

/-- Starting an action for a query that the handler accepted. -/
def launch (comm : Request Message) (index : Nat) (msg : Message) :
    Request Message :=
  { comm with
    toPool := comm.toPool.launch index
    actions := Function.update comm.actions index ((comm.actions index).start msg)
    log := comm.log ++ [(comm.accepted, .prep)] }

/-- `Request::request`.  An exception of `async_prep` leaves the action outside
both containers. -/
def request (comm : Request Message) (ready live : Bool) (ctx : QueryID)
    (prep : Prep Message) : Except Failure QueryID × Request Message :=
  if !ready then
    (.error (.nng ⟨.closed, "Request Communicator is not ready."⟩), comm)
  else if !live then
    (.error (.nng ⟨.exist, "Request communicator has no message handler"⟩), comm)
  else
    let (index, comm) := comm.allocate ctx
    match prep with
    | .thrown => (.error .handler, comm)
    | .declined =>
        (.error (.nng ⟨.canceled, "AsyncQuery declined the message."⟩),
          { comm with toPool := comm.toPool.giveBack index })
    | .accepted msg =>
        (.ok (comm.actions index).ctx, comm.launch index msg)

/-- `_callback` on the action at `index` up to the lock. -/
def complete (comm : Request Message) (index : Nat)
    (completion : Completion Message) : Request Message :=
  let (events, verdict) := (comm.actions index).react completion
  { comm with
    actions := Function.update comm.actions index
      ((comm.actions index).completed verdict)
    log := comm.log ++ events.map fun event => (comm.serving index, event) }

/-- `_callback` on the action at `index` from the lock on. -/
def commit (comm : Request Message) (index : Nat) (verdict : Verdict) :
    Request Message :=
  let action := (comm.actions index).committed verdict
  let comm := { comm with actions := Function.update comm.actions index action }
  if action.state = .idle then { comm with toPool := comm.toPool.retire index }
  else comm

inductive Label (Message : Type u) where
  | request (ready live : Bool) (ctx : QueryID) (prep : Prep Message)
  | complete (index : Nat) (completion : Completion Message)
  | commit (index : Nat)

/-- The machine.  Only an operation in flight can complete, and only a callback
that is running can take the lock. -/
def step (comm : Request Message) : Label Message → Option (Request Message)
  | .request ready live ctx prep => some (comm.request ready live ctx prep).2
  | .complete index completion =>
      match (comm.actions index).inFlight with
      | [] => none
      | _ :: _ => some (comm.complete index completion)
  | .commit index =>
      match (comm.actions index).running with
      | [] => none
      | verdict :: _ => some (comm.commit index verdict)

/-- The calls that the handler got for a query, in their order. -/
def events (comm : Request Message) (query : Nat) : List (Event Message) :=
  Lib.entriesOf comm.log query

end Request

end Telling.Io
