import Telling.Server.Ingestion
import Telling.Server.Routing

/-!
# The traffic of the server

The callbacks of the server put messages into send loops: that of the publisher, that of
the replies, and two for each route.  The directory changes meanwhile, and the loops go
on by themselves.  What has gone into each loop is compared with a scan of the messages
that arrived, each seen with the directory of the moment: a request or a push goes to
the route of the longest enrolled prefix of its URI, a request without one is answered
with 404, and replies and reports are passed on.  Nothing is lost, repeated, altered or
overtaken, and the answer 503 is never given.
-/

namespace Telling.Server

open Lib Msg
open Io (NngError SendLoop)
open HostAddress (Base)
open ServerState (undialed)

/-! ## Arrivals -/

/-- What a message is to the server: a report for the publisher, a push or a request of
a client, or the reply of a service. -/
inductive Kind where
  | published
  | pulled
  | requested
  | replied
  deriving DecidableEq, Repr

/-- A message, with the directory as it was when the message arrived. -/
structure Arrival where
  kind : Kind
  msg : NngMsg
  services : Services

namespace Arrival

/-- The route that a push or a request is for. -/
def destination (arrival : Arrival) : Option Route :=
  match MsgView.parse arrival.msg.body .request with
  | .error _ => none
  | .ok request => arrival.services.route request.uriString

/-- The message belongs on a loop of the route with this address. -/
def goesTo (kind : Kind) (serial : Nat) (arrival : Arrival) : Bool :=
  decide (arrival.kind = kind) &&
    decide (arrival.destination.map Route.serial = some serial)

/-- The message is a report that was published. -/
def isReport (arrival : Arrival) : Bool :=
  decide (arrival.kind = .published) &&
    (MsgView.parse arrival.msg.body .report).toOption.isSome

/-- The text of the reply to a request for a URI without a service. -/
def unroutable (uri : Bytes) : Bytes :=
  replyHead .notFound [] ++ (ascii "No service for URI `" ++ uri ++ ascii "`")

/-- What the arrival sends back to a client, if anything. -/
def response (arrival : Arrival) : Option NngMsg :=
  match arrival.kind with
  | .replied => some arrival.msg
  | .requested =>
      match MsgView.parse arrival.msg.body .request with
      | .error _ => none
      | .ok request =>
          match arrival.services.route request.uriString with
          | some _ => none
          | none => some ⟨arrival.msg.header, unroutable request.uriString⟩
  | .published | .pulled => none

/-- What a destination is: the route, among those that exist, that is filed under the
longest prefix of the URI. -/
def Destined (arrival : Arrival) (route : Route) : Prop :=
  ∃ request, MsgView.parse arrival.msg.body .request = .ok request ∧
    arrival.services.LongestPrefix request.uriString route ∧
    route ∈ arrival.services.liveRoutes

theorem destination_eq_some_iff {arrival : Arrival} (kept : arrival.services.Kept)
    {route : Route} : arrival.destination = some route ↔ arrival.Destined route := by
  unfold destination Destined
  cases MsgView.parse arrival.msg.body .request with
  | error thrown => simp
  | ok request =>
      simp only [Except.ok.injEq, exists_eq_left', Services.route_eq_some_iff]
      refine ⟨fun longest => ⟨longest, ?_⟩, And.left⟩
      obtain ⟨key, _, found, _⟩ := longest
      exact kept.lookedUp key route found

end Arrival

/-! ## The machine -/

/-- How a send loop goes on by itself. -/
inductive Progress where
  | handOver (index : Nat)
  | complete (result : NngError)
  | callback
  deriving DecidableEq, Repr

def Progress.label : Progress → SendLoop.Label NngMsg
  | .handOver index => .handOver index
  | .complete result => .complete result
  | .callback => .callback

/-- The sockets of a route that was constructed and dialed. -/
def dialed (path : Bytes) : RouteSockets :=
  { undialed with
    push := { undialed.push with
      connectors := Connectors.listen [] ((Base.inProc path).address .pushPull) } }

namespace ServerState

/-- The callback for each kind of message. -/
def deliver (server : ServerState) : Kind → NngMsg → Except Thrown ServerState
  | .published, msg => server.publishRecv msg
  | .pulled, msg => server.pullRecv msg
  | .requested, msg => server.requestRecv msg
  | .replied, msg => server.replyRecv msg

/-- The sockets of the routes after a step of the directory.  A route that was entered in
the map was dialed; of the others that were constructed the push socket was not. -/
def dialRoutes (server : ServerState) (services : Services) (serial : Nat) :
    RouteSockets :=
  if serial < server.services.allocated then server.sockets serial
  else
    match services.liveRoutes.find? fun route => decide (route.serial = serial) with
    | none => server.sockets serial
    | some route =>
        if services.map route.path = some route then dialed route.path else undialed

/-- A loop of a route that exists goes on. -/
def proceed (server : ServerState) (serial : Nat)
    (change : RouteSockets → Option RouteSockets) : Option ServerState :=
  if server.services.liveRoutes.any fun route => decide (route.serial = serial) then
    (change (server.sockets serial)).map fun sockets =>
      { server with sockets := Function.update server.sockets serial sockets }
  else none

end ServerState

structure Traffic where
  server : ServerState
  arrivals : List Arrival

namespace Traffic

/-- A server without services. -/
def construct (name : Bytes) (openInproc : Bool) : Traffic where
  server := .construct name openInproc fun _ => undialed
  arrivals := []

inductive Event where
  | openAt (base : Base) (thrown : Bool)
  | close (base : Base)
  | directory (label : Services.Label)
  | arrive (kind : Kind) (msg : NngMsg)
  | publishing (progress : Progress)
  | replying (progress : Progress)
  | pushing (serial : Nat) (progress : Progress)
  | forwarding (serial : Nat) (progress : Progress)

/-- One step.  An exception that leaves a callback ends the run. -/
def step (traffic : Traffic) : Event → Option Traffic
  | .openAt base thrown =>
      some { traffic with server := traffic.server.openAt base thrown }
  | .close base => some { traffic with server := traffic.server.close base }
  | .directory label =>
      (traffic.server.services.step label).map fun services =>
        { traffic with
          server := { traffic.server with
            services := services
            sockets := traffic.server.dialRoutes services } }
  | .arrive kind msg =>
      (traffic.server.deliver kind msg).toOption.map fun server =>
        { server := server
          arrivals := traffic.arrivals ++ [⟨kind, msg, traffic.server.services⟩] }
  | .publishing progress =>
      (traffic.server.publish.loop.step progress.label).map fun loop =>
        { traffic with
          server := { traffic.server with
            publish := { traffic.server.publish with loop := loop } } }
  | .replying progress =>
      (traffic.server.repSend.step progress.label).map fun repSend =>
        { traffic with server := { traffic.server with repSend := repSend } }
  | .pushing serial progress =>
      (traffic.server.proceed serial fun sockets =>
        (sockets.push.loop.step progress.label).map fun loop =>
          { sockets with push := { sockets.push with loop := loop } }).map fun server =>
            { traffic with server := server }
  | .forwarding serial progress =>
      (traffic.server.proceed serial fun sockets =>
        (sockets.reqSend.step progress.label).map fun reqSend =>
          { sockets with reqSend := reqSend }).map fun server =>
            { traffic with server := server }

/-- The messages of a kind that are for a route, in the order of their arrival. -/
def destined (traffic : Traffic) (kind : Kind) (serial : Nat) : List NngMsg :=
  (traffic.arrivals.filter (Arrival.goesTo kind serial)).map Arrival.msg

def reports (traffic : Traffic) : List NngMsg :=
  (traffic.arrivals.filter Arrival.isReport).map Arrival.msg

def responses (traffic : Traffic) : List NngMsg :=
  traffic.arrivals.filterMap Arrival.response

end Traffic

/-! ## Loops that carry messages -/

/-- A loop with a handler to which these messages were given. -/
structure Carries (loop : SendLoop NngMsg) (msgs : List NngMsg) : Prop where
  handler : loop.handler.isSome
  orderly : loop.view.Orderly
  accepted : loop.accepted = msgs

/-- The messages that were sent, the one that is about to be sent and those that wait,
in this order. -/
def conveyed (loop : SendLoop NngMsg) : List NngMsg :=
  loop.aio.sent ++ loop.claimed ++ loop.queue.deq.reduceOption

namespace Carries

variable {loop next : SendLoop NngMsg} {msgs : List NngMsg}

theorem empty : Carries { handler := some {} } [] where
  handler := rfl
  orderly := Turnstile.Orderly.empty
  accepted := rfl

theorem conveys (carries : Carries loop msgs) : conveyed loop = msgs :=
  (SendLoop.delivers_of_orderly carries.orderly).fifo.trans carries.accepted

theorem sent_beginning (carries : Carries loop msgs) : loop.aio.sent <+: msgs := by
  rw [← carries.conveys, conveyed, List.append_assoc]
  exact List.prefix_append _ _

theorem orderly_step {label : SendLoop.Label NngMsg} (orderly : loop.view.Orderly)
    (stepped : loop.step label = some next) : next.view.Orderly := by
  cases moved : loop.move label with
  | none => exact SendLoop.refines.stutters moved stepped ▸ orderly
  | some action => exact orderly.step (SendLoop.refines.taken moved stepped)

/-- A loop with a handler takes every message. -/
theorem sendMsg (carries : Carries loop msgs) (msg : NngMsg) :
    ∃ next, Server.sendMsg loop msg = .ok next ∧ Carries next (msgs ++ [msg]) := by
  obtain ⟨queue, handler⟩ := Option.isSome_iff_exists.mp carries.handler
  obtain ⟨next, sent, installed⟩ :=
    SendLoop.sendMsg_of_handler carries.handler (some msg)
  have stepped : loop.step (.sendMsg (some msg)) = some next := by
    simp [SendLoop.step, sent, Except.toOption]
  refine ⟨next, by rw [Server.sendMsg, sent], installed,
    orderly_step carries.orderly stepped, ?_⟩
  have taken : next.accepted = loop.accepted ++ [msg] := by
    simp only [SendLoop.sendMsg, handler, Except.ok.injEq] at sent
    rw [← sent]
    rfl
  rw [taken, carries.accepted]

/-- What a loop does by itself leaves the messages that were given to it. -/
theorem progress (carries : Carries loop msgs) {progress : Progress}
    (stepped : loop.step progress.label = some next) : Carries next msgs where
  handler := SendLoop.step_handler carries.handler stepped
  orderly := orderly_step carries.orderly stepped
  accepted := by
    have kept : next.view.accepted = loop.view.accepted := by
      cases moved : loop.move progress.label with
      | none => rw [SendLoop.refines.stutters moved stepped]
      | some action =>
          refine Turnstile.accepted_of_step (SendLoop.refines.taken moved stepped) ?_
          rintro handle rfl
          cases progress with
          | handOver index => simp [Progress.label, SendLoop.move] at moved
          | complete result => simp [Progress.label, SendLoop.move] at moved
          | callback =>
              simp only [Progress.label, SendLoop.move] at moved
              split at moved <;> simp at moved
    exact kept.trans carries.accepted

end Carries

/-! ## What the callbacks do -/

namespace ServerState

variable {server next : ServerState} {msg : NngMsg}

/-- A message that is to be sent through the request socket of a route goes there,
whatever has happened to the service. -/
theorem routeRequest_of_route {route : Route} {path : Bytes} {reqSend : SendLoop NngMsg}
    (found : server.services.route path = some route)
    (sent : sendMsg (server.sockets route.serial).reqSend msg = .ok reqSend) :
    server.routeRequest path msg = .ok (.ok,
      { server with
        sockets := Function.update server.sockets route.serial
          { server.sockets route.serial with reqSend := reqSend } }) := by
  simp [routeRequest, routeBy, found, sent, Except.map]

theorem routePush_of_route {route : Route} {path : Bytes} {loop : SendLoop NngMsg}
    (found : server.services.route path = some route)
    (ready : (server.sockets route.serial).push.connectors ≠ [])
    (sent : sendMsg (server.sockets route.serial).push.loop msg = .ok loop) :
    server.routePush path msg = .ok (.ok,
      { server with
        sockets := Function.update server.sockets route.serial
          { server.sockets route.serial with
            push := { (server.sockets route.serial).push with loop := loop } } }) := by
  simp [routePush, routeBy, found, Outlet.push, Outlet.send, Connectors.isReady, ready, sent,
    Except.map]

theorem requestRecv_of_error {thrown : MsgException}
    (refused : MsgView.parse msg.body .request = .error thrown) :
    server.requestRecv msg = .ok server := by
  simp [requestRecv, refused]

theorem requestRecv_of_route {request : MsgView} {route : Route} {reqSend : SendLoop NngMsg}
    (parsed : MsgView.parse msg.body .request = .ok request)
    (found : server.services.route request.uriString = some route)
    (sent : sendMsg (server.sockets route.serial).reqSend msg = .ok reqSend) :
    server.requestRecv msg = .ok
      { server with
        sockets := Function.update server.sockets route.serial
          { server.sockets route.serial with reqSend := reqSend } } := by
  have routed := routeRequest_of_route found sent
  have successful : Status.isSuccessful .ok = true := by decide
  simp [requestRecv, parsed, routed, successful]

theorem errorReply_notFound (uri : Bytes) :
    (errorReply .notFound uri).result = .ok (some (Arrival.unroutable uri)) :=
  have noHeaders : ReplyHeaders [] := ⟨by simp, by decide⟩
  writeReply_result .notFound noHeaders (errorBody .notFound uri)

theorem requestRecv_of_none {request : MsgView} {repSend : SendLoop NngMsg}
    (parsed : MsgView.parse msg.body .request = .ok request)
    (absent : server.services.route request.uriString = none)
    (sent : sendMsg server.repSend
      ⟨msg.header, Arrival.unroutable request.uriString⟩ = .ok repSend) :
    server.requestRecv msg = .ok { server with repSend := repSend } := by
  have unrouted : server.routeRequest request.uriString msg = .ok (.notFound, server) := by
    simp [routeRequest, routeBy, absent]
  have failed : Status.isSuccessful .notFound = false := by decide
  simp [requestRecv, parsed, unrouted, failed, errorReply_notFound, replyRecv, sent]

end ServerState

/-! ## The invariant -/

namespace Traffic

/-- What each loop carries, and why routes take messages: a route in the map was dialed,
and one that was not constructed yet has had nothing to send. -/
structure Sound (traffic : Traffic) : Prop where
  kept : traffic.server.services.Kept
  earlier : ∀ arrival ∈ traffic.arrivals, arrival.services.Kept
  linked : ∀ uri route, traffic.server.services.map uri = some route →
    (traffic.server.sockets route.serial).push.connectors ≠ []
  unused : ∀ serial, traffic.server.services.allocated ≤ serial →
    traffic.server.sockets serial = undialed
  publishing : Carries traffic.server.publish.loop traffic.reports
  replying : Carries traffic.server.repSend traffic.responses
  pushing : ∀ serial, Carries (traffic.server.sockets serial).push.loop
    (traffic.destined .pulled serial)
  forwarding : ∀ serial, Carries (traffic.server.sockets serial).reqSend
    (traffic.destined .requested serial)

theorem sound_construct (name : Bytes) (openInproc : Bool) :
    (construct name openInproc).Sound := by
  have services : (construct name openInproc).server.services =
      .initial (name ++ ascii "/internal") := by cases openInproc <;> rfl
  have sockets : (construct name openInproc).server.sockets = fun _ => undialed := by
    cases openInproc <;> rfl
  refine ⟨services ▸ Services.kept_initial _, by simp [construct], ?_, ?_, ?_, ?_, ?_, ?_⟩
  · simp [services, Services.initial]
  · simp [sockets]
  · cases openInproc <;> exact .empty
  · cases openInproc <;> exact .empty
  · exact fun serial => by rw [sockets]; exact .empty
  · exact fun serial => by rw [sockets]; exact .empty

variable {traffic next : Traffic}

/-! ### The directory -/

/-- The sockets of a route that a pass constructs have sent nothing. -/
theorem Sound.dialRoutes_loops (sound : traffic.Sound) (services : Services)
    (serial : Nat) :
    (traffic.server.dialRoutes services serial).push.loop =
        (traffic.server.sockets serial).push.loop ∧
      (traffic.server.dialRoutes services serial).reqSend =
        (traffic.server.sockets serial).reqSend := by
  unfold ServerState.dialRoutes
  split
  · exact ⟨rfl, rfl⟩
  · next beyond =>
      rw [sound.unused serial (Nat.le_of_not_lt beyond)]
      split
      · exact ⟨rfl, rfl⟩
      · split <;> exact ⟨rfl, rfl⟩

theorem Sound.directory (sound : traffic.Sound) {label : Services.Label}
    {services : Services} (stepped : traffic.server.services.step label = some services) :
    Sound { traffic with
      server := { traffic.server with
        services := services
        sockets := traffic.server.dialRoutes services } } := by
  have kept := sound.kept.step stepped
  obtain ⟨grown, entered⟩ := Services.step_entered stepped
  refine ⟨kept, sound.earlier, fun uri route found => ?_, fun serial beyond => ?_,
    sound.publishing, sound.replying, fun serial => ?_, fun serial => ?_⟩
  · have live := kept.lookedUp uri route found
    dsimp only [ServerState.dialRoutes]
    split
    · next old =>
        rcases entered uri route found with before | new
        · exact sound.linked uri route before
        · exact absurd old (Nat.not_lt_of_le new)
    · rw [kept.find_eq_some live]
      dsimp only
      rw [kept.filed.mapped uri route found, if_pos found]
      simp [dialed, Connectors.listen]
  · have search : services.liveRoutes.find?
        (fun route => decide (route.serial = serial)) = none := by
      rw [List.find?_eq_none]
      intro route live same
      have inside := kept.fresh route live
      rw [of_decide_eq_true same] at inside
      exact absurd beyond (Nat.not_le_of_lt inside)
    dsimp only [ServerState.dialRoutes]
    rw [search, if_neg (Nat.not_lt_of_le (grown.trans beyond))]
    exact sound.unused serial (grown.trans beyond)
  · rw [(sound.dialRoutes_loops services serial).1]
    exact sound.pushing serial
  · rw [(sound.dialRoutes_loops services serial).2]
    exact sound.forwarding serial

/-! ### Arrivals -/

/-- What the callback for an arrival does to the loops. -/
structure Delivered (traffic : Traffic) (arrival : Arrival) (server : ServerState) :
    Prop where
  services : server.services = traffic.server.services
  connectors : ∀ serial, (server.sockets serial).push.connectors =
    (traffic.server.sockets serial).push.connectors
  unused : ∀ serial, traffic.server.services.allocated ≤ serial →
    server.sockets serial = traffic.server.sockets serial
  publishing : Carries server.publish.loop
    (traffic.reports ++ if arrival.isReport then [arrival.msg] else [])
  replying : Carries server.repSend (traffic.responses ++ arrival.response.toList)
  pushing : ∀ serial, Carries (server.sockets serial).push.loop
    (traffic.destined .pulled serial ++
      if arrival.goesTo .pulled serial then [arrival.msg] else [])
  forwarding : ∀ serial, Carries (server.sockets serial).reqSend
    (traffic.destined .requested serial ++
      if arrival.goesTo .requested serial then [arrival.msg] else [])

/-- A message that nobody takes changes nothing. -/
theorem Sound.dropped (sound : traffic.Sound) {arrival : Arrival}
    (noReport : arrival.isReport = false) (noResponse : arrival.response = none)
    (unpushed : ∀ serial, arrival.goesTo .pulled serial = false)
    (unforwarded : ∀ serial, arrival.goesTo .requested serial = false) :
    Delivered traffic arrival traffic.server where
  services := rfl
  connectors _ := rfl
  unused _ _ := rfl
  publishing := by simpa [noReport] using sound.publishing
  replying := by simpa [noResponse] using sound.replying
  pushing serial := by simpa [unpushed serial] using sound.pushing serial
  forwarding serial := by simpa [unforwarded serial] using sound.forwarding serial

/-- A message for a route goes into one of its loops, and nowhere else. -/
theorem Sound.routed (sound : traffic.Sound) {arrival : Arrival} {route : Route}
    {sockets : RouteSockets} (given : route.serial < traffic.server.services.allocated)
    (destination : arrival.destination = some route)
    (noReport : arrival.isReport = false) (noResponse : arrival.response = none)
    (connectors : sockets.push.connectors =
      (traffic.server.sockets route.serial).push.connectors)
    (pushing : Carries sockets.push.loop (traffic.destined .pulled route.serial ++
      if arrival.goesTo .pulled route.serial then [arrival.msg] else []))
    (forwarding : Carries sockets.reqSend (traffic.destined .requested route.serial ++
      if arrival.goesTo .requested route.serial then [arrival.msg] else [])) :
    Delivered traffic arrival
      { traffic.server with
        sockets := Function.update traffic.server.sockets route.serial sockets } := by
  have elsewhere (kind : Kind) {serial : Nat} (other : serial ≠ route.serial) :
      arrival.goesTo kind serial = false := by
    simp [Arrival.goesTo, destination, other.symm]
  refine ⟨rfl, ?_, fun serial beyond => ?_, ?_, ?_, ?_, ?_⟩
  · exact (Function.forall_update_iff traffic.server.sockets fun serial after =>
      after.push.connectors = (traffic.server.sockets serial).push.connectors).mpr
        ⟨connectors, fun _ _ => rfl⟩
  · exact Function.update_of_ne (Nat.ne_of_gt (Nat.lt_of_lt_of_le given beyond)) _ _
  · simpa [noReport] using sound.publishing
  · simpa [noResponse] using sound.replying
  · refine (Function.forall_update_iff traffic.server.sockets fun serial after =>
      Carries after.push.loop (traffic.destined .pulled serial ++
        if arrival.goesTo .pulled serial then [arrival.msg] else [])).mpr
      ⟨pushing, fun serial other => ?_⟩
    simpa [elsewhere _ other] using sound.pushing serial
  · refine (Function.forall_update_iff traffic.server.sockets fun serial after =>
      Carries after.reqSend (traffic.destined .requested serial ++
        if arrival.goesTo .requested serial then [arrival.msg] else [])).mpr
      ⟨forwarding, fun serial other => ?_⟩
    simpa [elsewhere _ other] using sound.forwarding serial

theorem Sound.published (sound : traffic.Sound) {msg : NngMsg} {server : ServerState}
    (returned : traffic.server.publishRecv msg = .ok server) :
    Delivered traffic ⟨.published, msg, traffic.server.services⟩ server := by
  cases parsed : MsgView.parse msg.body .report with
  | error thrown =>
      obtain rfl : traffic.server = server := by
        simpa [ServerState.publishRecv, parsed] using returned
      exact sound.dropped (by simp [Arrival.isReport, parsed, Except.toOption]) rfl
        (by simp [Arrival.goesTo]) (by simp [Arrival.goesTo])
  | ok report =>
      obtain ⟨loop, sent, carries⟩ := sound.publishing.sendMsg msg
      simp only [ServerState.publishRecv, parsed, Outlet.publish, Outlet.send, sent] at returned
      split at returned
      · obtain rfl := Except.ok.inj returned
        refine ⟨rfl, fun _ => rfl, fun _ _ => rfl, ?_, ?_, fun serial => ?_, fun serial => ?_⟩
        · simpa [Arrival.isReport, parsed, Except.toOption] using carries
        · simpa [Arrival.response] using sound.replying
        · simpa [Arrival.goesTo] using sound.pushing serial
        · simpa [Arrival.goesTo] using sound.forwarding serial
      · contradiction

/-- A response goes to the loop of the replies. -/
theorem Sound.responded (sound : traffic.Sound) {arrival : Arrival} {response : NngMsg}
    {loop : SendLoop NngMsg} (noReport : arrival.isReport = false)
    (responds : arrival.response = some response)
    (unpushed : ∀ serial, arrival.goesTo .pulled serial = false)
    (unforwarded : ∀ serial, arrival.goesTo .requested serial = false)
    (carries : Carries loop (traffic.responses ++ [response])) :
    Delivered traffic arrival { traffic.server with repSend := loop } where
  services := rfl
  connectors _ := rfl
  unused _ _ := rfl
  publishing := by simpa [noReport] using sound.publishing
  replying := by simpa [responds] using carries
  pushing serial := by simpa [unpushed serial] using sound.pushing serial
  forwarding serial := by simpa [unforwarded serial] using sound.forwarding serial

theorem Sound.replied (sound : traffic.Sound) {msg : NngMsg} {server : ServerState}
    (returned : traffic.server.replyRecv msg = .ok server) :
    Delivered traffic ⟨.replied, msg, traffic.server.services⟩ server := by
  obtain ⟨loop, sent, carries⟩ := sound.replying.sendMsg msg
  simp only [ServerState.replyRecv, sent, Except.ok.injEq] at returned
  subst returned
  exact sound.responded rfl rfl (by simp [Arrival.goesTo]) (by simp [Arrival.goesTo]) carries

/-- A route that is found exists, and it was dialed. -/
theorem Sound.found (sound : traffic.Sound) {path : Bytes} {route : Route}
    (found : traffic.server.services.route path = some route) :
    route.serial < traffic.server.services.allocated ∧
      (traffic.server.sockets route.serial).push.connectors ≠ [] := by
  obtain ⟨key, _, mapped, _⟩ := Services.route_eq_some_iff.mp found
  exact ⟨sound.kept.fresh route (sound.kept.lookedUp key route mapped),
    sound.linked key route mapped⟩

theorem Sound.pulled (sound : traffic.Sound) {msg : NngMsg} {server : ServerState}
    (returned : traffic.server.pullRecv msg = .ok server) :
    Delivered traffic ⟨.pulled, msg, traffic.server.services⟩ server := by
  cases parsed : MsgView.parse msg.body .request with
  | error thrown =>
      obtain rfl : traffic.server = server := by
        simpa [ServerState.pullRecv, parsed] using returned
      exact sound.dropped rfl rfl (by simp [Arrival.goesTo, Arrival.destination, parsed])
        (by simp [Arrival.goesTo])
  | ok request =>
      cases found : traffic.server.services.route request.uriString with
      | none =>
          obtain rfl : traffic.server = server := by
            simpa [ServerState.pullRecv, parsed, ServerState.routePush, ServerState.routeBy,
              found, Except.map] using returned
          exact sound.dropped rfl rfl
            (by simp [Arrival.goesTo, Arrival.destination, parsed, found])
            (by simp [Arrival.goesTo])
      | some route =>
          obtain ⟨given, ready⟩ := sound.found found
          obtain ⟨loop, sent, carries⟩ := (sound.pushing route.serial).sendMsg msg
          have destination : Arrival.destination ⟨.pulled, msg, traffic.server.services⟩ =
              some route := by simp [Arrival.destination, parsed, found]
          simp only [ServerState.pullRecv, parsed,
            ServerState.routePush_of_route found ready sent, Except.map,
            Except.ok.injEq] at returned
          subst returned
          refine sound.routed given destination rfl rfl rfl ?_ ?_
          · simpa [Arrival.goesTo, destination] using carries
          · simpa [Arrival.goesTo] using sound.forwarding route.serial

theorem Sound.requested (sound : traffic.Sound) {msg : NngMsg} {server : ServerState}
    (returned : traffic.server.requestRecv msg = .ok server) :
    Delivered traffic ⟨.requested, msg, traffic.server.services⟩ server := by
  cases parsed : MsgView.parse msg.body .request with
  | error thrown =>
      rw [ServerState.requestRecv_of_error parsed] at returned
      obtain rfl := Except.ok.inj returned
      exact sound.dropped rfl (by simp [Arrival.response, parsed])
        (by simp [Arrival.goesTo]) (by simp [Arrival.goesTo, Arrival.destination, parsed])
  | ok request =>
      cases found : traffic.server.services.route request.uriString with
      | none =>
          obtain ⟨loop, sent, carries⟩ := sound.replying.sendMsg
            ⟨msg.header, Arrival.unroutable request.uriString⟩
          rw [ServerState.requestRecv_of_none parsed found sent] at returned
          obtain rfl := Except.ok.inj returned
          exact sound.responded rfl (by simp [Arrival.response, parsed, found])
            (by simp [Arrival.goesTo])
            (by simp [Arrival.goesTo, Arrival.destination, parsed, found]) carries
      | some route =>
          obtain ⟨loop, sent, carries⟩ := (sound.forwarding route.serial).sendMsg msg
          have destination : Arrival.destination ⟨.requested, msg, traffic.server.services⟩ =
              some route := by simp [Arrival.destination, parsed, found]
          rw [ServerState.requestRecv_of_route parsed found sent] at returned
          obtain rfl := Except.ok.inj returned
          refine sound.routed (sound.found found).1 destination rfl
            (by simp [Arrival.response, parsed, found]) rfl ?_ ?_
          · simpa [Arrival.goesTo] using sound.pushing route.serial
          · simpa [Arrival.goesTo, destination] using carries

theorem Sound.delivered (sound : traffic.Sound) {kind : Kind} {msg : NngMsg}
    {server : ServerState} (returned : traffic.server.deliver kind msg = .ok server) :
    Delivered traffic ⟨kind, msg, traffic.server.services⟩ server := by
  cases kind with
  | published => exact sound.published returned
  | pulled => exact sound.pulled returned
  | requested => exact sound.requested returned
  | replied => exact sound.replied returned

theorem map_filter_concat (arrivals : List Arrival) (arrival : Arrival)
    (keeps : Arrival → Bool) :
    ((arrivals ++ [arrival]).filter keeps).map Arrival.msg =
      (arrivals.filter keeps).map Arrival.msg ++
        if keeps arrival then [arrival.msg] else [] := by
  rw [List.filter_append, List.map_append, List.filter_singleton]
  cases keeps arrival <;> rfl

theorem Sound.arrive (sound : traffic.Sound) {arrival : Arrival} {server : ServerState}
    (same : arrival.services = traffic.server.services)
    (delivered : Delivered traffic arrival server) :
    Sound { server := server, arrivals := traffic.arrivals ++ [arrival] } := by
  refine ⟨delivered.services ▸ sound.kept, ?_, ?_, ?_, ?_, ?_, fun serial => ?_,
    fun serial => ?_⟩
  · rw [List.forall_mem_append, List.forall_mem_singleton]
    exact ⟨sound.earlier, same ▸ sound.kept⟩
  · intro uri route found
    rw [delivered.connectors]
    exact sound.linked uri route (delivered.services ▸ found)
  · intro serial beyond
    have before : traffic.server.services.allocated ≤ serial := delivered.services ▸ beyond
    exact (delivered.unused serial before).trans (sound.unused serial before)
  · rw [reports, map_filter_concat]
    exact delivered.publishing
  · have carries := delivered.replying
    rw [responses, List.filterMap_append]
    cases response : arrival.response with
    | none => simpa [response, responses] using carries
    | some answer => simpa [response, responses] using carries
  · rw [destined, map_filter_concat]
    exact delivered.pushing serial
  · rw [destined, map_filter_concat]
    exact delivered.forwarding serial

/-- A loop of a route goes on. -/
theorem Sound.proceed (sound : traffic.Sound) {serial : Nat} {server : ServerState}
    {change : RouteSockets → Option RouteSockets}
    (keeps : ∀ sockets, change (traffic.server.sockets serial) = some sockets →
      sockets.push.connectors = (traffic.server.sockets serial).push.connectors ∧
        Carries sockets.push.loop (traffic.destined .pulled serial) ∧
        Carries sockets.reqSend (traffic.destined .requested serial))
    (proceeded : traffic.server.proceed serial change = some server) :
    Sound { traffic with server := server } := by
  unfold ServerState.proceed at proceeded
  split at proceeded
  · next present =>
      obtain ⟨route, live, same⟩ := List.any_eq_true.mp present
      obtain ⟨sockets, changed, rfl⟩ := Option.map_eq_some_iff.mp proceeded
      obtain ⟨connectors, pushing, forwarding⟩ := keeps sockets changed
      have allocated : serial < traffic.server.services.allocated :=
        of_decide_eq_true same ▸ sound.kept.fresh route live
      have same := (Function.forall_update_iff traffic.server.sockets fun other after =>
        after.push.connectors = (traffic.server.sockets other).push.connectors).mpr
          ⟨connectors, fun _ _ => rfl⟩
      refine ⟨sound.kept, sound.earlier, fun uri route found => ?_, fun other beyond => ?_,
        sound.publishing, sound.replying, ?_, ?_⟩
      · exact same route.serial ▸ sound.linked uri route found
      · have different := Nat.ne_of_gt (Nat.lt_of_lt_of_le allocated beyond)
        exact (Function.update_of_ne different _ _).trans (sound.unused other beyond)
      · exact (Function.forall_update_iff traffic.server.sockets fun other after =>
          Carries after.push.loop (traffic.destined .pulled other)).mpr
            ⟨pushing, fun other _ => sound.pushing other⟩
      · exact (Function.forall_update_iff traffic.server.sockets fun other after =>
          Carries after.reqSend (traffic.destined .requested other)).mpr
            ⟨forwarding, fun other _ => sound.forwarding other⟩
  · contradiction

theorem Sound.step (sound : traffic.Sound) {event : Event}
    (stepped : traffic.step event = some next) : next.Sound := by
  cases event with
  | openAt base thrown =>
      obtain rfl := Option.some.inj stepped
      cases thrown <;> exact ⟨sound.kept, sound.earlier, sound.linked, sound.unused,
        sound.publishing, sound.replying, sound.pushing, sound.forwarding⟩
  | close base =>
      obtain rfl := Option.some.inj stepped
      exact ⟨sound.kept, sound.earlier, sound.linked, sound.unused, sound.publishing,
        sound.replying, sound.pushing, sound.forwarding⟩
  | directory label =>
      obtain ⟨services, moved, rfl⟩ := Option.map_eq_some_iff.mp stepped
      exact sound.directory moved
  | arrive kind msg =>
      obtain ⟨server, delivered, rfl⟩ := Option.map_eq_some_iff.mp stepped
      refine sound.arrive rfl (sound.delivered ?_)
      cases returned : traffic.server.deliver kind msg with
      | error thrown => simp [returned, Except.toOption] at delivered
      | ok after => simpa [returned, Except.toOption] using delivered
  | publishing progress =>
      obtain ⟨loop, moved, rfl⟩ := Option.map_eq_some_iff.mp stepped
      exact ⟨sound.kept, sound.earlier, sound.linked, sound.unused,
        sound.publishing.progress moved, sound.replying, sound.pushing, sound.forwarding⟩
  | replying progress =>
      obtain ⟨loop, moved, rfl⟩ := Option.map_eq_some_iff.mp stepped
      exact ⟨sound.kept, sound.earlier, sound.linked, sound.unused, sound.publishing,
        sound.replying.progress moved, sound.pushing, sound.forwarding⟩
  | pushing serial progress =>
      obtain ⟨server, proceeded, rfl⟩ := Option.map_eq_some_iff.mp stepped
      refine sound.proceed (fun sockets changed => ?_) proceeded
      obtain ⟨loop, moved, rfl⟩ := Option.map_eq_some_iff.mp changed
      exact ⟨rfl, (sound.pushing serial).progress moved, sound.forwarding serial⟩
  | forwarding serial progress =>
      obtain ⟨server, proceeded, rfl⟩ := Option.map_eq_some_iff.mp stepped
      refine sound.proceed (fun sockets changed => ?_) proceeded
      obtain ⟨loop, moved, rfl⟩ := Option.map_eq_some_iff.mp changed
      exact ⟨rfl, sound.pushing serial, (sound.forwarding serial).progress moved⟩

theorem sound_of_run {name : Bytes} {openInproc : Bool} {events : List Event}
    (reached : run step (construct name openInproc) events = some traffic) :
    traffic.Sound :=
  invariant_of_run Sound (sound_construct name openInproc)
    (fun _ _ _ sound _ stepped => sound.step stepped) (meets_true _ _) reached

/-- The message that an event brings. -/
def Event.arrival (traffic : Traffic) : Event → List Arrival
  | .arrive kind msg => [⟨kind, msg, traffic.server.services⟩]
  | _ => []

theorem arrivals_step {event : Event} (stepped : traffic.step event = some next) :
    next.arrivals = traffic.arrivals ++ event.arrival traffic := by
  cases event with
  | openAt base thrown | close base =>
      obtain rfl := Option.some.inj stepped
      simp [Event.arrival]
  | arrive kind msg =>
      obtain ⟨server, _, rfl⟩ := Option.map_eq_some_iff.mp stepped
      rfl
  | directory label | publishing progress | replying progress | pushing serial progress
  | forwarding serial progress =>
      obtain ⟨_, _, rfl⟩ := Option.map_eq_some_iff.mp stepped
      simp [Event.arrival]

theorem reports_step {event : Event} (stepped : traffic.step event = some next) :
    traffic.reports <+: next.reports := by
  rw [reports, reports, arrivals_step stepped]
  exact ((List.prefix_append _ _).filter _).map _

theorem destined_step {event : Event} (stepped : traffic.step event = some next)
    (kind : Kind) (serial : Nat) :
    traffic.destined kind serial <+: next.destined kind serial := by
  rw [destined, destined, arrivals_step stepped]
  exact ((List.prefix_append _ _).filter _).map _

theorem parse_of_report {msg : NngMsg} (member : msg ∈ traffic.reports) :
    ∃ report, MsgView.parse msg.body .report = .ok report := by
  obtain ⟨arrival, kept, rfl⟩ := List.mem_map.mp member
  have isReport := (List.mem_filter.mp kept).2
  cases parsed : MsgView.parse arrival.msg.body .report with
  | error thrown => simp [Arrival.isReport, parsed, Except.toOption] at isReport
  | ok report => exact ⟨report, rfl⟩

/-! ## Whole runs -/

/-- In every run each route has sent, is about to send or has queued exactly the requests
and the pushes that are for it, in the order of their arrival.  A message is for the
route, among those that existed when it arrived, that was filed under the longest prefix
of its URI. -/
theorem messages_reach_their_routes (name : Bytes) (openInproc : Bool)
    (events : List Event) (traffic : Traffic)
    (reached : run step (construct name openInproc) events = some traffic) :
    (∀ serial,
      conveyed (traffic.server.sockets serial).reqSend = traffic.destined .requested serial ∧
      conveyed (traffic.server.sockets serial).push.loop = traffic.destined .pulled serial) ∧
      ∀ arrival ∈ traffic.arrivals, ∀ route,
        arrival.destination = some route ↔ arrival.Destined route := by
  have sound := sound_of_run reached
  refine ⟨fun serial => ⟨(sound.forwarding serial).conveys, (sound.pushing serial).conveys⟩,
    fun arrival member route => ?_⟩
  exact Arrival.destination_eq_some_iff (sound.earlier arrival member)

/-- A service is enrolled; a client requests something of it and something that nobody
serves. -/
def morning : List Event :=
  [.directory (.receive 1 10 (Services.enrollment "/a")), .directory (.drain fun _ => .ok),
    .arrive .requested ⟨[1], ascii "GET /a/x Tell/0\n\n"⟩, .forwarding 0 (.handOver 0),
    .arrive .requested ⟨[2], ascii "GET /b Tell/0\n\n"⟩]

theorem messages_reach_their_routes_morning :
    ∃ traffic, run step (construct (ascii "server") true) morning = some traffic ∧
      conveyed (traffic.server.sockets 0).reqSend =
        [⟨[1], ascii "GET /a/x Tell/0\n\n"⟩] := by
  have arrives : (run step (construct (ascii "server") true) morning).map
      (fun traffic => traffic.destined .requested 0) =
        some [⟨[1], ascii "GET /a/x Tell/0\n\n"⟩] := by decide +kernel
  obtain ⟨traffic, reached, destined⟩ := Option.map_eq_some_iff.mp arrives
  have reach := messages_reach_their_routes (ascii "server") true morning traffic reached
  exact ⟨traffic, reached, (reach.1 0).1.trans destined⟩

/-- The fate of a request: it does not parse and is dropped; it is for a route; or no
prefix of its URI is enrolled, and a reply with status 404 that names the URI goes back
with the routing header of the request. -/
inductive Fate (arrival : Arrival) : Prop where
  | dropped (thrown : MsgException)
      (refused : MsgView.parse arrival.msg.body .request = .error thrown)
      (silent : arrival.response = none)
  | forwarded (route : Route) (destined : arrival.Destined route)
      (silent : arrival.response = none)
  | answered (request view : MsgView) (reply : NngMsg)
      (parsed : MsgView.parse arrival.msg.body .request = .ok request)
      (unknown : ∀ key, key <+: request.uriString → arrival.services.map key = none)
      (responds : arrival.response = some reply)
      (addressed : reply.header = arrival.msg.header)
      (read : MsgView.parse reply.body .reply = .ok view)
      (status : view.status = .notFound)
      (body : view.bodyString =
        ascii "No service for URI `" ++ request.uriString ++ ascii "`")

theorem fate_of_requested {arrival : Arrival} (kept : arrival.services.Kept)
    (requested : arrival.kind = .requested) : Fate arrival := by
  cases parsed : MsgView.parse arrival.msg.body .request with
  | error thrown =>
      exact .dropped thrown parsed (by simp [Arrival.response, requested, parsed])
  | ok request =>
      cases found : arrival.services.route request.uriString with
      | some route =>
          refine .forwarded route ?_ (by simp [Arrival.response, requested, parsed, found])
          rw [← Arrival.destination_eq_some_iff kept]
          simp [Arrival.destination, parsed, found]
      | none =>
          have noHeaders : ReplyHeaders [] := ⟨by simp, by decide⟩
          obtain ⟨view, read, status⟩ := parse_replyHead .notFound noHeaders
            (ascii "No service for URI `" ++ request.uriString ++ ascii "`")
          have readsBack : Status.ReadsBack .notFound := by decide
          exact .answered request view
            ⟨arrival.msg.header, Arrival.unroutable request.uriString⟩ parsed
            (Services.route_eq_none_iff.mp found)
            (by simp [Arrival.response, requested, parsed, found]) rfl read
            (status.trans ((Status.parse_toText_iff _).mpr readsBack))
            (bodyString_replyHead noHeaders read)

/-- In every run the replies to clients that were sent, are about to be sent or wait are
exactly the responses to the arrivals, in their order: the replies of services, and a
404 for every request whose URI has no enrolled prefix.  No other error is reported. -/
theorem requests_meet_their_fates (name : Bytes) (openInproc : Bool)
    (events : List Event) (traffic : Traffic)
    (reached : run step (construct name openInproc) events = some traffic) :
    conveyed traffic.server.repSend = traffic.responses ∧
      ∀ arrival ∈ traffic.arrivals, arrival.kind = .requested → Fate arrival := by
  have sound := sound_of_run reached
  exact ⟨sound.replying.conveys,
    fun arrival member requested => fate_of_requested (sound.earlier arrival member) requested⟩

theorem requests_meet_their_fates_morning :
    ∃ traffic, run step (construct (ascii "server") true) morning = some traffic ∧
      conveyed traffic.server.repSend = [⟨[2], Arrival.unroutable (ascii "/b")⟩] := by
  have answers : (run step (construct (ascii "server") true) morning).map responses =
      some [⟨[2], Arrival.unroutable (ascii "/b")⟩] := by decide +kernel
  obtain ⟨traffic, reached, responds⟩ := Option.map_eq_some_iff.mp answers
  have fates := requests_meet_their_fates (ascii "server") true morning traffic reached
  exact ⟨traffic, reached, fates.1.trans responds⟩

end Traffic

end Telling.Server
