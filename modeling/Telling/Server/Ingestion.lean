import Telling.Io.SendLoop
import Telling.Msg.ErrorReply
import Telling.Server.Services

/-!
# Ingestion of messages by the server

`Server::PubSub`, `Server::PushPull` and `Server::ReqRep` receive messages in
callbacks of NNG, which an exception must not leave.  Each callback is embedded with
everything it calls and returns either the new state or what it throws.  The state is
that of a server whose addresses are opened and closed and whose services come and
go.
-/

namespace Telling.Server

open Lib Msg
open Io (NngError SendLoop)
open HostAddress (Base)
open Msg.MsgWriter (StartLine)

/-- An `nng::msg`.  The header holds the routing information of the protocol. -/
structure NngMsg where
  header : Bytes
  body : Bytes
  deriving DecidableEq, Repr

/-- What leaves a function: an `nng::exception`, a `MsgException`, or the end of the
process. -/
abbrev Thrown := WriterError

/-! ## Sockets -/

/-- The keys of a socket's `_connectors`. -/
abbrev Connectors := List Bytes

namespace Connectors

/-- `Socket::listen`, when the listener could be made. -/
def listen (connectors : Connectors) (address : Bytes) : Connectors :=
  if address ∈ connectors then connectors else connectors ++ [address]

/-- `Socket::disconnect`. -/
def disconnect (connectors : Connectors) (address : Bytes) : Connectors :=
  connectors.filter fun other => decide (other ≠ address)

/-- `Socket::isReady`. -/
def isReady (connectors : Connectors) : Bool := decide (connectors ≠ [])

end Connectors

/-- A communicator that sends through an `AsyncSendLoop` of its own. -/
structure Outlet where
  connectors : Connectors
  loop : SendLoop NngMsg
  deriving DecidableEq, Repr

/-- `AsyncSendLoop::send_msg`, with the text of its exception. -/
def sendMsg (loop : SendLoop NngMsg) (msg : NngMsg) :
    Except Thrown (SendLoop NngMsg) :=
  match loop.sendMsg (some msg) with
  | .error error =>
      .error (.nng error (ascii "AsyncSendLoop::send_msg: handler does not exist"))
  | .ok loop => .ok loop

namespace Outlet

/-- The common body of `Publish::publish` and `Push::push`. -/
def send (notReady : Bytes) (outlet : Outlet) (msg : NngMsg) : Except Thrown Outlet :=
  if outlet.connectors.isReady then
    match sendMsg outlet.loop msg with
    | .error thrown => .error thrown
    | .ok loop => .ok { outlet with loop := loop }
  else .error (.nng .closed notReady)

/-- `Publish::publish`. -/
def publish : Outlet → NngMsg → Except Thrown Outlet :=
  send (ascii "Publish Communicator is not ready.")

/-- `Push::push`. -/
def push : Outlet → NngMsg → Except Thrown Outlet :=
  send (ascii "Push Communicator is not ready.")

end Outlet

/-! ## The server -/

/-- The sending sides of a `Server::Route`. -/
structure RouteSockets where
  push : Outlet
  reqSend : SendLoop NngMsg
  deriving DecidableEq, Repr

/-- What the callbacks use of a `Server`: the host sockets, of which that of `PubSub`
belongs to the communicator it publishes with; the loop that sends replies; the
directory; and the sockets of the routes, by their serial numbers. -/
structure ServerState where
  reply : Connectors
  publish : Outlet
  pull : Connectors
  repSend : SendLoop NngMsg
  services : Services
  sockets : Nat → RouteSockets

namespace ServerState

/-- `Listen` on the three host sockets. -/
def listen (server : ServerState) (base : Base) : ServerState :=
  { server with
    reply := server.reply.listen (base.address .reqRep)
    publish := { server.publish with
      connectors := server.publish.connectors.listen (base.address .pubSub) }
    pull := server.pull.listen (base.address .pushPull) }

/-- `Server::close`: `Disconnect` on the three host sockets. -/
def close (server : ServerState) (base : Base) : ServerState :=
  { server with
    reply := server.reply.disconnect (base.address .reqRep)
    publish := { server.publish with
      connectors := server.publish.connectors.disconnect (base.address .pubSub) }
    pull := server.pull.disconnect (base.address .pushPull) }

/-- `Server::open`.  When one of the listeners cannot be made, the base is disconnected
from all three sockets before the exception is thrown on. -/
def openAt (server : ServerState) (base : Base) (thrown : Bool) : ServerState :=
  if thrown then server.close base else server.listen base

/-- The server before its constructor's body.  The queues of the send loops are members
of the server and live as long as it does. -/
def unopened (addressInternal : Bytes) (sockets : Nat → RouteSockets) : ServerState where
  reply := []
  publish := ⟨[], { handler := some {} }⟩
  pull := []
  repSend := { handler := some {} }
  services := .initial addressInternal
  sockets := sockets

/-- `Server::Server`. -/
def construct (name : Bytes) (openInproc : Bool) (sockets : Nat → RouteSockets) :
    ServerState :=
  let server := unopened (name ++ ascii "/internal") sockets
  if openInproc then server.openAt (.inProc name) false else server

/-! ## Routing -/

/-- The common body of `Services::routePush` and `Services::routeRequest`. -/
def routeBy (server : ServerState) (path : Bytes)
    (send : RouteSockets → Except Thrown RouteSockets) :
    Except Thrown (Status × ServerState) :=
  match server.services.route path with
  | none => .ok (.notFound, server)
  | some route =>
      match send (server.sockets route.serial) with
      | .ok sockets => .ok (.ok,
          { server with sockets := Function.update server.sockets route.serial sockets })
      | .error (.nng _ _) => .ok (.serviceUnavailable, server)
      | .error thrown => .error thrown

/-- `Services::routePush`, with `Route::sendPush`. -/
def routePush (server : ServerState) (path : Bytes) (msg : NngMsg) :
    Except Thrown (Status × ServerState) :=
  server.routeBy path fun sockets =>
    (sockets.push.push msg).map fun push => { sockets with push := push }

/-- `Services::routeRequest`, with `Route::sendRequest`. -/
def routeRequest (server : ServerState) (path : Bytes) (msg : NngMsg) :
    Except Thrown (Status × ServerState) :=
  server.routeBy path fun sockets =>
    (sendMsg sockets.reqSend msg).map fun reqSend => { sockets with reqSend := reqSend }

/-! ## The callbacks -/

/-- `Server::PubSub::async_recv`. -/
def publishRecv (server : ServerState) (msg : NngMsg) : Except Thrown ServerState :=
  match MsgView.parse msg.body .report with
  | .error _ => .ok server
  | .ok _ => (server.publish.publish msg).map fun publish =>
      { server with publish := publish }

/-- `Server::PushPull::async_recv`: a message that was not routed is only logged. -/
def pullRecv (server : ServerState) (msg : NngMsg) : Except Thrown ServerState :=
  match MsgView.parse msg.body .request with
  | .error _ => .ok server
  | .ok request => (server.routePush request.uriString msg).map Prod.snd

/-- The texts that go into the body of an error reply. -/
def errorBody (status : Status) (uri : Bytes) : Option Bytes :=
  if status = .notFound then
    some (ascii "No service for URI `" ++ uri ++ ascii "`")
  else if status = .serviceUnavailable then
    some (ascii "Service exists but forwarding failed.")
  else none

/-- The error reply of `async_recv(ClientRequesting)`. -/
def errorReply (status : Status) (uri : Bytes) : Outcome (Option Bytes) :=
  ((MsgWriter.new .telling).start (.reply status status.reasonPhrase)).andThen
    fun writer _ =>
      (match errorBody status uri with
        | some body => writer.writeBody body
        | none => .done writer ()).andThen fun writer _ => writer.release

/-- `Server::ReqRep::async_recv(ServiceReplying)`. -/
def replyRecv (server : ServerState) (msg : NngMsg) : Except Thrown ServerState :=
  match sendMsg server.repSend msg with
  | .ok repSend => .ok { server with repSend := repSend }
  | .error (.nng _ _) => .ok server
  | .error thrown => .error thrown

/-- `Server::ReqRep::async_recv(ClientRequesting)`.  A request that was not routed was
not moved from either, so its routing header is there to be copied. -/
def requestRecv (server : ServerState) (msg : NngMsg) : Except Thrown ServerState :=
  match MsgView.parse msg.body .request with
  | .error _ => .ok server
  | .ok request =>
      match server.routeRequest request.uriString msg with
      | .error thrown => .error thrown
      | .ok (status, server) =>
          if status.isSuccessful then .ok server
          else
            match (errorReply status request.uriString).result with
            | .error thrown => .error thrown
            | .ok written => server.replyRecv ⟨msg.header, written.getD []⟩

/-! ## Runs -/

inductive Label where
  | openAt (base : Base) (thrown : Bool)
  | close (base : Base)
  | directory (label : Services.Label)
  | published (msg : NngMsg)
  | pulled (msg : NngMsg)
  | requested (msg : NngMsg)
  | publishing (label : SendLoop.Label NngMsg)
  | replying (label : SendLoop.Label NngMsg)
  | routed (serial : Nat) (sockets : RouteSockets)

/-- One step.  The directory takes its own steps, the send loops go on by themselves,
and the sockets of routes may be in any state.  An exception that leaves a callback
ends the run. -/
def step (server : ServerState) : Label → Option ServerState
  | .openAt base thrown => some (server.openAt base thrown)
  | .close base => some (server.close base)
  | .directory label =>
      (server.services.step label).map fun services =>
        { server with services := services }
  | .published msg => (server.publishRecv msg).toOption
  | .pulled msg => (server.pullRecv msg).toOption
  | .requested msg => (server.requestRecv msg).toOption
  | .publishing label =>
      (server.publish.loop.step label).map fun loop =>
        { server with publish := { server.publish with loop := loop } }
  | .replying label =>
      (server.repSend.step label).map fun repSend => { server with repSend := repSend }
  | .routed serial sockets =>
      some { server with sockets := Function.update server.sockets serial sockets }

/-! ## What is thrown -/

section Throws

variable {msg : NngMsg}

theorem sendMsg_thrown {loop : SendLoop NngMsg} {thrown : Thrown}
    (failed : sendMsg loop msg = .error thrown) :
    ∃ error who, thrown = .nng error who := by
  unfold sendMsg at failed
  split at failed
  · exact ⟨_, _, (Except.error.inj failed).symm⟩
  · contradiction

theorem push_thrown {outlet : Outlet} {thrown : Thrown}
    (failed : outlet.push msg = .error thrown) :
    ∃ error who, thrown = .nng error who := by
  unfold Outlet.push Outlet.send at failed
  split at failed
  · split at failed
    · next sending =>
        exact Except.error.inj failed ▸ sendMsg_thrown sending
    · contradiction
  · exact ⟨_, _, (Except.error.inj failed).symm⟩

theorem map_error {α β : Type} {result : Except Thrown α} {change : α → β}
    {thrown : Thrown} (failed : result.map change = .error thrown) :
    result = .error thrown := by
  cases result with
  | error other => exact congrArg Except.error (Except.error.inj failed)
  | ok value => contradiction

/-- Routing catches what sending throws. -/
theorem routeBy_returns (server : ServerState) (path : Bytes)
    {send : RouteSockets → Except Thrown RouteSockets}
    (throws : ∀ sockets thrown, send sockets = .error thrown →
      ∃ error who, thrown = .nng error who) :
    ∃ status next, server.routeBy path send = .ok (status, next) ∧
      next.publish = server.publish := by
  unfold routeBy
  cases server.services.route path with
  | none => exact ⟨_, _, rfl, rfl⟩
  | some route =>
      dsimp only
      cases sent : send (server.sockets route.serial) with
      | ok sockets => exact ⟨_, _, rfl, rfl⟩
      | error thrown =>
          obtain ⟨error, who, rfl⟩ := throws _ thrown sent
          exact ⟨_, _, rfl, rfl⟩

theorem routePush_returns (server : ServerState) (path : Bytes) (msg : NngMsg) :
    ∃ status next, server.routePush path msg = .ok (status, next) ∧
      next.publish = server.publish :=
  server.routeBy_returns path fun _ _ failed => push_thrown (map_error failed)

theorem routeRequest_returns (server : ServerState) (path : Bytes) (msg : NngMsg) :
    ∃ status next, server.routeRequest path msg = .ok (status, next) ∧
      next.publish = server.publish :=
  server.routeBy_returns path fun _ _ failed => sendMsg_thrown (map_error failed)

/-- `PushPull` returns for every message, whatever the routes can take. -/
theorem pullRecv_returns (server : ServerState) (msg : NngMsg) :
    ∃ next, server.pullRecv msg = .ok next ∧ next.publish = server.publish := by
  unfold pullRecv
  cases MsgView.parse msg.body .request with
  | error thrown => exact ⟨_, rfl, rfl⟩
  | ok request =>
      obtain ⟨status, next, routed, same⟩ := server.routePush_returns
        request.uriString msg
      dsimp only
      rw [routed]
      exact ⟨next, rfl, same⟩

/-- The replies that tell of a failed routing can be written, whatever the URI. -/
theorem errorReply_returns (status : Status) (uri : Bytes) :
    ∃ written, (errorReply status uri).result = .ok written :=
  have noHeaders : ReplyHeaders [] := ⟨by simp, by decide⟩
  ⟨_, writeReply_result status noHeaders (errorBody status uri)⟩

theorem replyRecv_returns (server : ServerState) (msg : NngMsg) :
    ∃ next, server.replyRecv msg = .ok next ∧ next.publish = server.publish := by
  unfold replyRecv
  cases sent : sendMsg server.repSend msg with
  | ok repSend => exact ⟨_, rfl, rfl⟩
  | error thrown =>
      obtain ⟨error, who, rfl⟩ := sendMsg_thrown sent
      exact ⟨_, rfl, rfl⟩

/-- `ReqRep` returns for every message: a failed routing is answered. -/
theorem requestRecv_returns (server : ServerState) (msg : NngMsg) :
    ∃ next, server.requestRecv msg = .ok next ∧ next.publish = server.publish := by
  unfold requestRecv
  cases MsgView.parse msg.body .request with
  | error thrown => exact ⟨_, rfl, rfl⟩
  | ok request =>
      obtain ⟨status, routed, routing, same⟩ := server.routeRequest_returns
        request.uriString msg
      dsimp only
      rw [routing]
      dsimp only
      by_cases successful : status.isSuccessful
      · rw [if_pos successful]
        exact ⟨routed, rfl, same⟩
      · rw [if_neg successful]
        obtain ⟨written, writing⟩ := errorReply_returns status request.uriString
        rw [writing]
        obtain ⟨next, replied, kept⟩ :=
          routed.replyRecv_returns ⟨msg.header, written.getD []⟩
        exact ⟨next, replied, kept.trans same⟩

/-- `PubSub` throws when its own socket has no listener. -/
theorem publishRecv_of_unlistened {server : ServerState} {report : MsgView}
    (parsed : MsgView.parse msg.body .report = .ok report)
    (unlistened : server.publish.connectors = []) :
    server.publishRecv msg =
      .error (.nng .closed (ascii "Publish Communicator is not ready.")) := by
  unfold publishRecv
  rw [parsed]
  simp only [Outlet.publish, Outlet.send, Connectors.isReady, unlistened]
  rfl

/-- With a listener and a queue to put the message in, it returns. -/
theorem publishRecv_of_listened {server : ServerState}
    (queued : server.publish.loop.handler.isSome)
    (listened : server.publish.connectors ≠ []) :
    ∃ next, server.publishRecv msg = .ok next := by
  unfold publishRecv
  cases MsgView.parse msg.body .report with
  | error thrown => exact ⟨_, rfl⟩
  | ok report =>
      obtain ⟨loop, sent, _⟩ := SendLoop.sendMsg_of_handler queued (some msg)
      simp only [Outlet.publish, Outlet.send, Connectors.isReady, listened, sendMsg, sent,
        ne_eq, not_false_eq_true, decide_true, if_true]
      exact ⟨_, rfl⟩

theorem publishRecv_returns_iff {server : ServerState}
    (queued : server.publish.loop.handler.isSome) :
    (∃ next, server.publishRecv msg = .ok next) ↔
      (∀ report, MsgView.parse msg.body .report ≠ .ok report) ∨
        server.publish.connectors ≠ [] := by
  constructor
  · rintro ⟨next, returned⟩
    by_contra neither
    obtain ⟨accepted, unlistened⟩ := not_or.mp neither
    obtain ⟨report, parsed⟩ := not_forall_not.mp accepted
    rw [publishRecv_of_unlistened parsed (not_not.mp unlistened)] at returned
    contradiction
  · rintro (refused | listened)
    · unfold publishRecv
      cases parsed : MsgView.parse msg.body .report with
      | error thrown => exact ⟨_, rfl⟩
      | ok report => exact absurd parsed (refused report)
    · exact publishRecv_of_listened queued listened

end Throws

/-! ## Every reachable state -/

section Reachable

variable {server next : ServerState}

theorem openAt_loop (server : ServerState) (base : Base) (thrown : Bool) :
    (server.openAt base thrown).publish.loop = server.publish.loop := by
  unfold openAt
  split
  · rfl
  · rfl

theorem publishRecv_handler {msg : NngMsg}
    (queued : server.publish.loop.handler.isSome)
    (returned : server.publishRecv msg = .ok next) :
    next.publish.loop.handler.isSome := by
  unfold publishRecv at returned
  cases parsed : MsgView.parse msg.body .report with
  | error thrown =>
      rw [parsed] at returned
      exact Except.ok.inj returned ▸ queued
  | ok report =>
      rw [parsed] at returned
      obtain ⟨loop, sent, kept⟩ := SendLoop.sendMsg_of_handler queued (some msg)
      simp only [Outlet.publish, Outlet.send, sendMsg, sent] at returned
      split at returned
      · exact Except.ok.inj returned ▸ kept
      · contradiction

theorem step_queued {label : Label} (queued : server.publish.loop.handler.isSome)
    (taken : server.step label = some next) : next.publish.loop.handler.isSome := by
  cases label with
  | openAt base thrown =>
      obtain rfl := Option.some.inj taken
      rwa [openAt_loop]
  | close base =>
      obtain rfl := Option.some.inj taken
      exact queued
  | directory label =>
      obtain ⟨services, _, rfl⟩ := Option.map_eq_some_iff.mp taken
      exact queued
  | published msg =>
      cases returned : server.publishRecv msg with
      | error thrown => simp [step, returned, Except.toOption] at taken
      | ok published =>
          obtain rfl : published = next := by
            simpa [step, returned, Except.toOption] using taken
          exact publishRecv_handler queued returned
  | pulled msg =>
      obtain ⟨pulled, returned, same⟩ := server.pullRecv_returns msg
      obtain rfl : pulled = next := by
        simpa [step, returned, Except.toOption] using taken
      rwa [same]
  | requested msg =>
      obtain ⟨replied, returned, same⟩ := server.requestRecv_returns msg
      obtain rfl : replied = next := by
        simpa [step, returned, Except.toOption] using taken
      rwa [same]
  | publishing label =>
      obtain ⟨loop, moved, rfl⟩ := Option.map_eq_some_iff.mp taken
      exact SendLoop.step_handler queued moved
  | replying label =>
      obtain ⟨repSend, _, rfl⟩ := Option.map_eq_some_iff.mp taken
      exact queued
  | routed serial sockets =>
      obtain rfl := Option.some.inj taken
      exact queued

theorem construct_queued (name : Bytes) (openInproc : Bool)
    (sockets : Nat → RouteSockets) :
    (construct name openInproc sockets).publish.loop.handler.isSome := by
  cases openInproc <;> rfl

end Reachable

/-- The callbacks of a server in any state that it can reach.  The two that take
requests return for every message; the one that takes reports returns except when the
message is a report and the socket it would be published on has no listener. -/
theorem ingestion_returns_iff (name : Bytes) (openInproc : Bool)
    (sockets : Nat → RouteSockets) (labels : List Label) (server : ServerState)
    (runs : run step (construct name openInproc sockets) labels = some server)
    (msg : NngMsg) :
    ((∃ next, server.publishRecv msg = .ok next) ↔
      (∀ report, MsgView.parse msg.body .report ≠ .ok report) ∨
        server.publish.connectors ≠ []) ∧
      (∃ next, server.pullRecv msg = .ok next) ∧
      ∃ next, server.requestRecv msg = .ok next := by
  have queued : server.publish.loop.handler.isSome :=
    invariant_of_run (fun server : ServerState => server.publish.loop.handler.isSome)
      (construct_queued name openInproc sockets)
      (fun _ _ _ queued _ taken => step_queued queued taken) (meets_true _ _) runs
  obtain ⟨pulled, pulling, _⟩ := server.pullRecv_returns msg
  obtain ⟨replied, replying, _⟩ := server.requestRecv_returns msg
  exact ⟨publishRecv_returns_iff queued, ⟨pulled, pulling⟩, replied, replying⟩

/-- Sockets of routes that were never dialed. -/
def undialed : RouteSockets := ⟨⟨[], { handler := some {} }⟩, { handler := some {} }⟩

/-- What the directory publishes when it enrolls a service. -/
def created : NngMsg := ⟨[], ascii "*services Tell/0 201 Created\n\n/a"⟩

/-- A server that publishes a report and refuses a request. -/
def morning : List Label :=
  [.published created, .publishing (.handOver 0), .publishing (.complete .success),
    .publishing .callback, .requested ⟨[1], ascii "GET /b Tell/0\n\n"⟩]

theorem ingestion_returns_morning :
    ∃ server, run step (construct (ascii "server") true fun _ => undialed) morning =
        some server ∧
      (∃ next, server.publishRecv created = .ok next) ∧
      (∃ next, server.pullRecv created = .ok next) ∧
      ∃ next, server.requestRecv created = .ok next := by
  have finishes : (run step (construct (ascii "server") true fun _ => undialed)
      morning).map (fun server => server.publish.connectors) =
        some [(Base.inProc (ascii "server")).address .pubSub] := by decide +kernel
  obtain ⟨server, runs, listened⟩ := Option.map_eq_some_iff.mp finishes
  have returns := ingestion_returns_iff _ _ _ _ server runs created
  exact ⟨server, runs, returns.1.mpr (.inr (by simp [listened])), returns.2⟩

/-- The report of an enrollment reaches a server that was constructed without an
address, and one whose address was closed: the exception leaves the callback. -/
theorem report_thrown :
    (construct (ascii "server") false fun _ => undialed).publishRecv created =
        .error (.nng .closed (ascii "Publish Communicator is not ready.")) ∧
      ∃ server, run step (construct (ascii "server") true fun _ => undialed)
          [.published created, .close (.inProc (ascii "server"))] = some server ∧
        server.publishRecv created =
          .error (.nng .closed (ascii "Publish Communicator is not ready.")) := by
  have parses : (MsgView.parse created.body .report).toOption.isSome := by decide +kernel
  obtain ⟨report, parsed⟩ :
      ∃ report, MsgView.parse created.body .report = .ok report := by
    cases parsed : MsgView.parse created.body .report with
    | error thrown => simp [parsed, Except.toOption] at parses
    | ok report => exact ⟨report, rfl⟩
  have closes : (run step (construct (ascii "server") true fun _ => undialed)
      [.published created, .close (.inProc (ascii "server"))]).map
        (fun server => server.publish.connectors) = some [] := by decide +kernel
  obtain ⟨server, runs, unlistened⟩ := Option.map_eq_some_iff.mp closes
  exact ⟨publishRecv_of_unlistened parsed rfl, server, runs,
    publishRecv_of_unlistened parsed unlistened⟩

end ServerState

end Telling.Server
