import Telling.Io.Nng
import Telling.Lib.Machine
import Telling.Msg.View

/-!
# The HTTP client

`HttpClient` serves each query with an action: a connection attempt, one write
and a series of reads, each driven by the completion of an asynchronous
operation.  Actions that are done wait in a pool and are used again.  The model
has the completion callback branch by branch, the pool, and the calls to the
handler in the order in which they are made.
-/

namespace Telling.Http

open Lib Msg

abbrev ConnID := Nat

/-- `ACTION_STATE`. -/
inductive ActionState where
  | idle
  | connect
  | send
  | recv
  deriving DecidableEq, Repr

/-- `nng_iov`, relative to the buffer of the message it points into. -/
structure Iov where
  offset : Nat
  length : Nat
  deriving DecidableEq, Repr

/-- Calls to the handler and operations started on behalf of one query. -/
inductive Output where
  | connOpen (conn : ConnID)
  | sent
  | responseProgress (completion : MsgCompletion) (msg : Bytes)
  | recv (msg : Option Bytes)
  | error (error : Io.NngError)
  | connClose (conn : ConnID)
  | connect
  | write (conn : Option ConnID) (data : Bytes)
  | read (conn : Option ConnID) (iov : Iov)
  deriving DecidableEq, Repr

/-- `async_recv` and `async_error` end a query. -/
def Output.isTerminal : Output → Bool
  | .recv _ | .error _ => true
  | _ => false

/-- `HttpClient::Action`, without its operation handle. -/
structure Action where
  queryID : UInt32
  iov : Iov
  req : Option Bytes
  res : Option Bytes
  conn : Option ConnID
  state : ActionState
  resCompletion : MsgCompletion
  recvCount : Nat
  deriving DecidableEq, Repr

/-- What the callback finds: the result of the operation, the connection or the
bytes it produced, and whether the handler is still alive. -/
structure Completion where
  result : Io.NngError
  conn : ConnID
  data : Bytes
  live : Bool
  deriving DecidableEq, Repr

/-- The errors of a connection that was closed. -/
def isClosed (error : Io.NngError) : Bool :=
  decide (error = .connaborted) || decide (error = .connreset) ||
    decide (error = .connshut) || decide (error = .closed)

/-- The bytes of a buffer after a read stored `data` at `offset`. -/
def store (buffer : Bytes) (offset : Nat) (data : Bytes) : Bytes :=
  buffer.take offset ++ data ++ buffer.drop (offset + data.length)

/-- `nng::msg::realloc`: new bytes are zero. -/
def realloc (buffer : Bytes) (size : Nat) : Bytes :=
  buffer.take size ++ List.replicate (size - buffer.length) 0

/-- The size of one read. -/
def readSize : Nat := 4096

namespace Action

/-- `new Action{this}`. -/
def fresh : Action := ⟨0, ⟨0, 0⟩, none, none, none, .idle, .empty, 0⟩

/-- The action while the callback works on it, the calls made so far, and the
local variable `disconnect`. -/
structure Working where
  action : Action
  outputs : List Output
  disconnect : Bool
  deriving DecidableEq, Repr

/-- The branch of the callback for errors. -/
def fail (action : Action) (error : Io.NngError) : Working :=
  ⟨{ action with resCompletion := .empty }, [.error error], true⟩

/-- The branch of the callback for a read that succeeded. -/
def received (action : Action) (data : Bytes) : Working :=
  let recvCount := action.recvCount + data.length
  let res := realloc (store (action.res.getD []) action.iov.offset data) recvCount
  let action := { action with recvCount := recvCount, res := some res }
  match MsgView.parse res .reply with
  | .ok view =>
      ⟨{ action with resCompletion := view.completion },
        [.responseProgress view.completion res], false⟩
  | .error _ => ⟨action, [], false⟩

/-- The first part of `_callback`: callbacks and errors. -/
def react (action : Action) (completion : Completion) : Working :=
  if !completion.live then ⟨action, [], true⟩
  else if completion.result = .success then
    match action.state with
    | .connect =>
        ⟨{ action with conn := some completion.conn },
          [.connOpen completion.conn], false⟩
    | .send => ⟨{ action with req := none }, [.sent], false⟩
    | .recv => action.received completion.data
    | .idle => ⟨action, [], true⟩
  else if isClosed completion.result then
    if action.resCompletion.implicit then ⟨action, [], false⟩
    else action.fail completion.result
  else action.fail completion.result

/-- The second part of `_callback`: turn the message over, disconnect, and clean
up. -/
def finish (working : Working) (live : Bool) : Working :=
  let action := working.action
  if working.disconnect || action.resCompletion.complete then
    let delivered : List Output :=
      if (action.resCompletion.complete || action.resCompletion.implicit) && live
        then [.recv action.res] else []
    let closed : List Output :=
      match action.conn with
      | some conn => if live then [.connClose conn] else []
      | none => []
    ⟨{ action with conn := none, req := none, res := none },
      working.outputs ++ delivered ++ closed, true⟩
  else working

/-- The last part of `_callback`, under the lock: start the next operation, or
leave the action idle. -/
def advance (working : Working) : Action × List Output :=
  let action := if working.disconnect then { working.action with state := .idle }
    else working.action
  match action.state with
  | .connect =>
      let data := action.req.getD []
      ({ action with state := .send, iov := ⟨0, data.length⟩ },
        working.outputs ++ [.write action.conn data])
  | .send =>
      let iov : Iov := ⟨0, readSize⟩
      ({ action with
          state := .recv
          recvCount := 0
          resCompletion := .empty
          res := some (List.replicate readSize 0)
          iov := iov }, working.outputs ++ [.read action.conn iov])
  | .recv =>
      let iov : Iov := ⟨action.recvCount, readSize⟩
      ({ action with
          res := some (realloc (action.res.getD []) (action.recvCount + readSize))
          iov := iov }, working.outputs ++ [.read action.conn iov])
  | .idle => (action, working.outputs)

/-- `HttpClient::Action::_callback`. -/
def callback (action : Action) (completion : Completion) :
    Action × List Output :=
  advance (finish (action.react completion) completion.live)

/-! ### The callback by cases -/

section Cases

variable {action : Action} {completion : Completion}

/-- The completion takes the callback's error branch. -/
def Fails (action : Action) (completion : Completion) : Prop :=
  completion.result ≠ .success ∧
    ¬(isClosed completion.result ∧ action.resCompletion.implicit)

instance (action : Action) (completion : Completion) :
    Decidable (action.Fails completion) :=
  inferInstanceAs (Decidable (_ ∧ ¬_))

theorem react_of_dead (dead : completion.live = false) :
    action.react completion = ⟨action, [], true⟩ := by
  simp [react, dead]

theorem react_of_fails (live : completion.live)
    (fails : action.Fails completion) :
    action.react completion = action.fail completion.result := by
  obtain ⟨notSuccess, notQuiet⟩ := fails
  simp only [react, live, Bool.not_true, Bool.false_eq_true, if_false, notSuccess]
  split
  · next closed => rw [if_neg fun implicit => notQuiet ⟨closed, implicit⟩]
  · rfl

theorem react_of_closed (live : completion.live)
    (notSuccess : completion.result ≠ .success)
    (quiet : ¬action.Fails completion) :
    action.react completion = ⟨action, [], false⟩ := by
  have closed : isClosed completion.result ∧ action.resCompletion.implicit := by
    by_contra other
    exact quiet ⟨notSuccess, other⟩
  simp only [react, live, Bool.not_true, Bool.false_eq_true, if_false, notSuccess,
    closed, if_true]

theorem react_connect (live : completion.live)
    (success : completion.result = .success) (state : action.state = .connect) :
    action.react completion = ⟨{ action with conn := some completion.conn },
      [.connOpen completion.conn], false⟩ := by
  simp [react, live, success, state]

theorem react_send (live : completion.live)
    (success : completion.result = .success) (state : action.state = .send) :
    action.react completion = ⟨{ action with req := none }, [.sent], false⟩ := by
  simp [react, live, success, state]

theorem react_recv (live : completion.live)
    (success : completion.result = .success) (state : action.state = .recv) :
    action.react completion = action.received completion.data := by
  simp [react, live, success, state]

theorem react_idle (live : completion.live)
    (success : completion.result = .success) (state : action.state = .idle) :
    action.react completion = ⟨action, [], true⟩ := by
  simp [react, live, success, state]

theorem received_shape (action : Action) (data : Bytes) :
    (action.received data).disconnect = false ∧
      (action.received data).action.state = action.state ∧
      ∀ output ∈ (action.received data).outputs, output.isTerminal = false := by
  unfold received
  simp only
  split
  · exact ⟨rfl, rfl, by simp [Output.isTerminal]⟩
  · exact ⟨rfl, rfl, by simp⟩

/-- The calls made when an action ends. -/
def parting (action : Action) (live : Bool) : List Output :=
  (if (action.resCompletion.complete || action.resCompletion.implicit) && live
    then [.recv action.res] else []) ++
  (match action.conn with
    | some conn => if live then [.connClose conn] else []
    | none => [])

/-- Without a handler an action ends silently. -/
@[simp] theorem parting_dead (action : Action) : action.parting false = [] := by
  unfold parting
  cases action.conn <;> simp

/-- An action that is cleaned up for the pool. -/
def cleaned (action : Action) : Action :=
  { action with conn := none, req := none, res := none, state := .idle }

@[simp] theorem cleaned_state (action : Action) : action.cleaned.state = .idle :=
  rfl

theorem callback_ends {working : Working}
    (reacted : action.react completion = working)
    (ends : working.disconnect ∨ working.action.resCompletion.complete) :
    action.callback completion = (working.action.cleaned,
      working.outputs ++ working.action.parting completion.live) := by
  have condition : (working.disconnect ||
      working.action.resCompletion.complete) = true := by
    rcases ends with disconnect | complete
    · simp [disconnect]
    · simp [complete]
  simp [callback, reacted, finish, condition, advance, cleaned, parting]

theorem callback_continues {working : Working}
    (reacted : action.react completion = working)
    (connected : working.disconnect = false)
    (incomplete : working.action.resCompletion.complete = false) :
    action.callback completion = advance working := by
  simp [callback, reacted, finish, connected, incomplete]

section Advance

variable {working : Working}

theorem advance_disconnect (disconnect : working.disconnect = true) :
    advance working =
      ({ working.action with state := .idle }, working.outputs) := by
  simp [advance, disconnect]

theorem advance_idle (connected : working.disconnect = false)
    (state : working.action.state = .idle) :
    advance working = (working.action, working.outputs) := by
  simp [advance, connected, state]

theorem advance_connect (connected : working.disconnect = false)
    (state : working.action.state = .connect) :
    advance working = ({ working.action with
        state := .send
        iov := ⟨0, (working.action.req.getD []).length⟩ },
      working.outputs ++
        [.write working.action.conn (working.action.req.getD [])]) := by
  simp [advance, connected, state]

theorem advance_send (connected : working.disconnect = false)
    (state : working.action.state = .send) :
    advance working = ({ working.action with
        state := .recv
        recvCount := 0
        resCompletion := .empty
        res := some (List.replicate readSize 0)
        iov := ⟨0, readSize⟩ },
      working.outputs ++ [.read working.action.conn ⟨0, readSize⟩]) := by
  simp [advance, connected, state]

theorem advance_recv (connected : working.disconnect = false)
    (state : working.action.state = .recv) :
    advance working = ({ working.action with
        res := some (realloc (working.action.res.getD [])
          (working.action.recvCount + readSize))
        iov := ⟨working.action.recvCount, readSize⟩ },
      working.outputs ++
        [.read working.action.conn ⟨working.action.recvCount, readSize⟩]) := by
  simp [advance, connected, state]

end Advance

/-- An action that goes on is not idle and starts one more operation. -/
theorem advance_shape {working : Working} (connected : working.disconnect = false)
    (busy : working.action.state ≠ .idle) :
    (advance working).1.state ≠ .idle ∧
      ∃ operation, (advance working).2 = working.outputs ++ [operation] ∧
        operation.isTerminal = false := by
  cases state : working.action.state with
  | idle => exact absurd state busy
  | connect =>
      rw [advance_connect connected state]
      exact ⟨by simp, _, rfl, rfl⟩
  | send =>
      rw [advance_send connected state]
      exact ⟨by simp, _, rfl, rfl⟩
  | recv =>
      rw [advance_recv connected state]
      exact ⟨by simp [state], _, rfl, rfl⟩

end Cases

/-- The part of `request` that prepares an action for a query that was
accepted. -/
def start (action : Action) (req : Bytes) : Action :=
  { action with state := .connect, req := some req }

@[simp] theorem start_state (action : Action) (req : Bytes) :
    (action.start req).state = .connect := rfl

@[simp] theorem start_resCompletion (action : Action) (req : Bytes) :
    (action.start req).resCompletion = action.resCompletion := rfl

end Action

/-! ## The pool of actions -/

/-- What `async_prep` does with the message of a request. -/
inductive Prep where
  | accepted (req : Bytes)
  | declined
  | thrown
  deriving DecidableEq, Repr

/-- `HttpClient`.  Actions are named by the order of their allocation.  Each
accepted query has a number of its own, because identifiers wrap around; `serving`
maps an action to the query it was last started for, and `log` holds the outputs
of all queries. -/
structure HttpClient where
  actions : Nat → Action
  allocated : Nat
  active : List Nat
  idle : List Nat
  nextQueryID : UInt32
  accepted : Nat
  serving : Nat → Nat
  log : List (Nat × Output)

namespace HttpClient

def initial : HttpClient where
  actions := fun _ => .fresh
  allocated := 0
  active := []
  idle := []
  nextQueryID := 0
  accepted := 0
  serving := fun _ => 0
  log := []

/-- The allocation in `request`: the front of the pool, or a new action. -/
def allocate (client : HttpClient) : Nat × HttpClient :=
  match client.idle with
  | [] =>
      (client.allocated, { client with
        actions := Function.update client.actions client.allocated .fresh
        allocated := client.allocated + 1 })
  | index :: idle => (index, { client with idle := idle })

/-- Starting an action for a query that the handler accepted. -/
def launch (client : HttpClient) (index : Nat) (req : Bytes) : HttpClient :=
  { client with
    actions := Function.update client.actions index
      ((client.actions index).start req)
    active := index :: client.active
    accepted := client.accepted + 1
    serving := Function.update client.serving index client.accepted
    log := client.log ++ [(client.accepted, .connect)] }

/-- The part of `request` before `async_prep`: an action is taken and gets the
next identifier. -/
def reserve (client : HttpClient) : Nat × HttpClient :=
  let (index, client) := client.allocate
  (index, { client with
    nextQueryID := client.nextQueryID + 1
    actions := Function.update client.actions index
      { client.actions index with queryID := client.nextQueryID } })

/-- `request` with a live handler.  An exception of `async_prep` leaves the action
outside both containers. -/
def request (client : HttpClient) (prep : Prep) : HttpClient :=
  let (index, client) := client.reserve
  match prep with
  | .thrown => client
  | .declined => { client with idle := index :: client.idle }
  | .accepted req => client.launch index req

/-- `_callback` on the action at `index`, with its effect on the containers. -/
def complete (client : HttpClient) (index : Nat) (completion : Completion) :
    HttpClient :=
  let (action, outputs) := (client.actions index).callback completion
  let client := { client with
    actions := Function.update client.actions index action
    log := client.log ++
      outputs.map fun output => (client.serving index, output) }
  if action.state = .idle then
    { client with
      active := client.active.erase index
      idle := client.idle ++ [index] }
  else client

inductive Label where
  | request (prep : Prep)
  | complete (index : Nat) (completion : Completion)

/-- The machine.  An active action has one operation in flight; no other operation
can complete. -/
def step (client : HttpClient) : Label → Option HttpClient
  | .request prep => some (client.request prep)
  | .complete index completion =>
      if index ∈ client.active then some (client.complete index completion)
      else none

end HttpClient

end Telling.Http
