import Mathlib.Data.Set.Insert
import Telling.Io.Nng
import Telling.Lib.Machine
import Telling.Lib.Map

/-!
# Boxes: requests with futures

`Request_Box` and `HttpClient_Box` put the same delegate on top of two clients.
`request()` works in two parts: the client's locked part calls `async_prep`, which
makes a promise, and starts the query; then `getFuture` looks for the promise.
What connects the two is one slot, `newQueryID`, and the map of pending queries,
from which the callbacks erase.

A client is seen here through what its steps tell the handler.  The ledger is the
abstract client: the queries that were started and not yet ended, with their ids.
-/

namespace Telling.Io

open Lib

universe u v w

/-- What a handler is told about a query. -/
inductive Call (Message : Type u) where
  | opened
  | sent
  | recv (msg : Message)
  | error (error : NngError)
  deriving DecidableEq, Repr

/-- How a query ended. -/
inductive Outcome (Message : Type u) where
  | response (msg : Message)
  | error (error : NngError)
  deriving DecidableEq, Repr

/-- The terminal calls. -/
def Call.outcome? {Message : Type u} : Call Message → Option (Outcome Message)
  | .recv msg => some (.response msg)
  | .error status => some (.error status)
  | .opened | .sent => none

/-- What a promise was set to. -/
inductive Resolution (Message : Type u) where
  | value (msg : Message)
  | exception (exception : NngException)
  deriving DecidableEq, Repr

def Resolution.outcome {Message : Type u} : Resolution Message → Outcome Message
  | .value msg => .response msg
  | .exception thrown => .error thrown.error

/-- What leaves `getFuture` instead of a future. -/
inductive Thrown where
  | nng (exception : NngException)
  | futureAlreadyRetrieved
  deriving DecidableEq, Repr

/-! ## The delegate -/

/-- `Delegate::Pending`.  `holder` is the query whose `request()` holds the future
of the promise. -/
structure Pending where
  sent : Bool := false
  holder : Option Nat := none
  deriving DecidableEq, Repr

/-- `Request_Box::Delegate` and `HttpClient_Box::Delegate`.  `resolved` has the
promises that were set, by the holders of their futures. -/
structure Delegate (Message : Type u) where
  pending : QueryID → Option Pending := fun _ => none
  newQueryID : QueryID := 0
  connected : Bool := false
  resolved : List (Option Nat × Resolution Message) := []

namespace Delegate

variable {Message : Type u}

/-- `Delegate::getFuture`, called for the query `caller`. -/
def getFuture (delegate : Delegate Message) (caller : Nat) (queryID : QueryID) :
    Except Thrown Unit × Delegate Message :=
  match delegate.pending queryID with
  | none => (.error (.nng ⟨.internal, "Inconsistent Query ID"⟩), delegate)
  | some pending =>
      if queryID ≠ delegate.newQueryID then
        (.error (.nng ⟨.internal, "Inconsistent Query ID"⟩), delegate)
      else
        let delegate := { delegate with newQueryID := 0 }
        match pending.holder with
        | some _ => (.error .futureAlreadyRetrieved, delegate)
        | none => (.ok (), { delegate with
            pending := Function.update delegate.pending queryID
              (some { pending with holder := some caller }) })

/-- `Delegate::async_prep`. -/
def asyncPrep (delegate : Delegate Message) (queryID : QueryID) :
    Delegate Message :=
  { delegate with
    pending := emplace delegate.pending queryID {}
    newQueryID := queryID }

/-- `Delegate::async_sent`. -/
def asyncSent (delegate : Delegate Message) (queryID : QueryID) :
    Delegate Message :=
  match delegate.pending queryID with
  | none => delegate
  | some pending => { delegate with
      pending := Function.update delegate.pending queryID
        (some { pending with sent := true }) }

/-- Set the promise of a pending query and forget it. -/
def resolve (delegate : Delegate Message) (queryID : QueryID)
    (resolution : Pending → Resolution Message) : Delegate Message :=
  match delegate.pending queryID with
  | none => delegate
  | some pending => { delegate with
      pending := erase delegate.pending queryID
      resolved := delegate.resolved ++ [(pending.holder, resolution pending)] }

/-- `Delegate::async_recv`. -/
def asyncRecv (delegate : Delegate Message) (queryID : QueryID) (msg : Message) :
    Delegate Message :=
  delegate.resolve queryID fun _ => .value msg

/-- `Delegate::async_error`.  `what` is the text for a client that has or has not
been connected and a query that has or has not been sent. -/
def asyncError (what : Bool → Bool → String) (delegate : Delegate Message)
    (queryID : QueryID) (status : NngError) : Delegate Message :=
  delegate.resolve queryID fun pending =>
    .exception ⟨status, what delegate.connected pending.sent⟩

/-- The calls of a client to its delegate. -/
def call (what : Bool → Bool → String) (delegate : Delegate Message)
    (queryID : QueryID) : Call Message → Delegate Message
  | .opened => { delegate with connected := true }
  | .sent => delegate.asyncSent queryID
  | .recv msg => delegate.asyncRecv queryID msg
  | .error error => delegate.asyncError what queryID error

def calls (what : Bool → Bool → String) (delegate : Delegate Message)
    (queryID : QueryID) (calls : List (Call Message)) : Delegate Message :=
  calls.foldl (fun delegate call => delegate.call what queryID call) delegate

end Delegate

/-! ## Clients and their ledger -/

/-- What one step of a client tells the handler: nothing; of a request that was
declined after `async_prep`; of a query that was started; of the calls that one
callback makes for a query. -/
inductive Told (Message : Type u) where
  | nothing
  | declined (queryID : QueryID)
  | started (query : Nat) (queryID : QueryID)
  | calls (query : Nat) (queryID : QueryID) (calls : List (Call Message))

/-- The terminal calls among some calls. -/
def outcomesOf {Message : Type u} (calls : List (Call Message)) :
    List (Outcome Message) :=
  calls.filterMap Call.outcome?

/-- A client under a box. -/
structure Client (State : Type v) (Label : Type w) (Message : Type u) where
  step : State → Label → Option State
  told : State → Label → Told Message
  what : Bool → Bool → String

/-- The abstract client: how many queries were started, and which of them have not
ended, with their ids. -/
structure Ledger where
  accepted : Nat
  live : Set (Nat × QueryID)

/-- What a client may tell its handler, and what follows for the ledger. -/
inductive Ledger.Step {Message : Type u} : Ledger → Told Message → Ledger → Prop
  | nothing (ledger : Ledger) : Step ledger .nothing ledger
  | declined (ledger : Ledger) (queryID : QueryID) :
      Step ledger (.declined queryID) ledger
  | started (ledger : Ledger) (queryID : QueryID) :
      Step ledger (.started ledger.accepted queryID)
        ⟨ledger.accepted + 1, insert (ledger.accepted, queryID) ledger.live⟩
  | goesOn (ledger : Ledger) (query : Nat) (queryID : QueryID)
      (calls : List (Call Message)) (live : (query, queryID) ∈ ledger.live)
      (silent : outcomesOf calls = []) :
      Step ledger (.calls query queryID calls) ledger
  | ends (ledger : Ledger) (query : Nat) (queryID : QueryID)
      (calls : List (Call Message)) (live : (query, queryID) ∈ ledger.live)
      (terminal : outcomesOf calls ≠ []) :
      Step ledger (.calls query queryID calls)
        ⟨ledger.accepted, ledger.live \ {(query, queryID)}⟩

/-- A client keeps a ledger: its steps are steps of the abstract client. -/
structure Client.Keeps {State : Type v} {Label : Type w} {Message : Type u}
    (client : Client State Label Message) (invariant : State → Prop)
    (ledger : State → Ledger) : Prop where
  kept : ∀ state label next, invariant state →
    client.step state label = some next → invariant next
  recorded : ∀ state label next, invariant state →
    client.step state label = some next →
    Ledger.Step (ledger state) (client.told state label) (ledger next)

/-! ## Boxes -/

/-- A box without its client: the delegate and the calls of `request()`.  `started`
has the queries whose operations were started, `waiting` those whose `request()` has
yet to call `getFuture`, `futures` those whose `request()` returned a future, and
`threw` those whose `request()` threw.  `heard` has the terminal calls. -/
structure Desk (Message : Type u) where
  delegate : Delegate Message := {}
  started : List Nat := []
  waiting : List (Nat × QueryID) := []
  futures : List Nat := []
  threw : List (Nat × Thrown) := []
  heard : List (Nat × Outcome Message) := []

namespace Desk

variable {Message : Type u}

/-- The effect of what the client tells. -/
def tell (what : Bool → Bool → String) (desk : Desk Message) :
    Told Message → Desk Message
  | .nothing => desk
  | .declined queryID =>
      { desk with delegate := desk.delegate.asyncPrep queryID }
  | .started query queryID =>
      { desk with
        delegate := desk.delegate.asyncPrep queryID
        started := desk.started ++ [query]
        waiting := desk.waiting ++ [(query, queryID)] }
  | .calls query queryID calls =>
      { desk with
        delegate := desk.delegate.calls what queryID calls
        heard := desk.heard ++
          (outcomesOf calls).map fun outcome => (query, outcome) }

/-- The second part of `request()`. -/
def getFuture (desk : Desk Message) (query : Nat) : Option (Desk Message) :=
  match desk.waiting.lookup query with
  | none => none
  | some queryID =>
      let (result, delegate) := desk.delegate.getFuture query queryID
      let desk := { desk with
        delegate := delegate
        waiting := desk.waiting.filter fun caller => caller.1 ≠ query }
      match result with
      | .ok _ => some { desk with futures := desk.futures ++ [query] }
      | .error thrown => some { desk with threw := desk.threw ++ [(query, thrown)] }

/-- What the future that a query's `request()` returned was set to. -/
def resolutions (desk : Desk Message) (query : Nat) : List (Resolution Message) :=
  entriesOf desk.delegate.resolved (some query)

/-- The terminal calls for a query. -/
def outcomes (desk : Desk Message) (query : Nat) : List (Outcome Message) :=
  entriesOf desk.heard query

/-- Every `request()` that started its query returns a future, and the future is
set once, to the response or error of that query, when the query ends. -/
structure OwnFutures (desk : Desk Message) : Prop where
  nothrow : desk.threw = []
  returns : ∀ query ∈ desk.started,
    query ∈ desk.waiting.map Prod.fst ∨ query ∈ desk.futures
  resolves : ∀ query ∈ desk.futures,
    (desk.resolutions query).map Resolution.outcome = (desk.outcomes query).take 1

/-- The condition on what the client tells: `async_prep` runs only when no other
`request()` is between its two parts, with an id whose promise is not in use; and a
query ends only after its `request()` has its future. -/
def Allows (desk : Desk Message) : Told Message → Prop
  | .nothing => True
  | .declined queryID => ∀ caller ∈ desk.waiting, caller.2 = queryID
  | .started _ queryID => desk.waiting = [] ∧
      (desk.delegate.pending queryID).bind Pending.holder = none
  | .calls query _ calls =>
      outcomesOf calls = [] ∨ query ∉ desk.waiting.map Prod.fst

instance [DecidableEq Message] (desk : Desk Message) :
    (told : Told Message) → Decidable (desk.Allows told)
  | .nothing => inferInstanceAs (Decidable True)
  | .declined _ => inferInstanceAs (Decidable (∀ _ ∈ _, _))
  | .started _ _ => inferInstanceAs (Decidable (_ ∧ _))
  | .calls _ _ _ => inferInstanceAs (Decidable (_ ∨ _))

end Desk

/-- A box: the desk and the client below it. -/
structure Box (State : Type v) (Message : Type u) extends Desk Message where
  client : State

namespace Box

variable {State : Type v} {Label : Type w} {Message : Type u}

inductive BoxLabel (Label : Type w) where
  | client (label : Label)
  | getFuture (query : Nat)

/-- Steps of the client and of the callers, in any order. -/
def step (client : Client State Label Message) (box : Box State Message) :
    BoxLabel Label → Option (Box State Message)
  | .client label =>
      (client.step box.client label).map fun next =>
        ⟨box.toDesk.tell client.what (client.told box.client label), next⟩
  | .getFuture query =>
      (box.toDesk.getFuture query).map fun desk => ⟨desk, box.client⟩

/-- Callers that go on at once, one after the other, break the property. -/
def Endangered (client : Client State Label Message) (box : Box State Message) :
    Prop :=
  ∃ (callers : List Nat) (after : Box State Message),
    run (step client) box (callers.map .getFuture) = some after ∧ ¬after.OwnFutures

/-- The condition on a step of a box. -/
def Undisturbed (client : Client State Label Message) (box : Box State Message) :
    BoxLabel Label → Prop
  | .client label => box.toDesk.Allows (client.told box.client label)
  | .getFuture _ => True

instance [DecidableEq Message] (client : Client State Label Message)
    (box : Box State Message) :
    (label : BoxLabel Label) → Decidable (Undisturbed client box label)
  | .client _ => inferInstanceAs (Decidable (Desk.Allows _ _))
  | .getFuture _ => inferInstanceAs (Decidable True)

end Box

end Telling.Io
