import Telling.Io.Inbox
import Telling.Lib.Wire
import Telling.Msg.Admission
import Telling.Msg.RoundTrip
import Telling.Server.Traffic

/-!
# Pushes, from clients to services

Any number of clients push messages through a `Push_Box`.  The server pulls them, and
pushes each one on to the route of its URI, behind which a `Pull_Box` of the service
receives it.  NNG carries what was sent on each of these ways in order, and may lose some
of it.  A message that a client has written with a `MsgWriter` is then for the service
that has the longest enrolled prefix of the URI that was written, and shows it what was
written.
-/

namespace Telling.Msg

open Lib

/-! ## Requests as the server and the services read them -/

/-- The view has everything that was written. -/
structure MsgView.Shows (view : MsgView) (protocol : MsgProtocol)
    (startLine : MsgWriter.StartLine) (headers : List (Bytes × Bytes)) (body : Bytes) :
    Prop where
  startLine : startLine.ReadBy protocol view
  headers : view.headers.map MsgHeaderView.toPair =
    headers.map fun header => (header.1, trim isBlank header.2)
  body : view.bodyString = body

namespace MsgWriter

variable {protocol : MsgProtocol} {uri : Bytes} {method : Method}
variable {headers : List (Bytes × Bytes)} {body bytes : Bytes}

/-- A request that was written without an exception is accepted where a request is
expected, and shows what was written. -/
theorem shows_of_compose (valid : protocol.isValid)
    (returned : (compose protocol (.request uri method) headers body).result =
      .ok (some bytes)) :
    ∃ view, MsgView.parse bytes .request = .ok view ∧
      view.Shows protocol (.request uri method) headers body := by
  obtain ⟨accepted, headersAccepted, equal, layout, parsed⟩ := compose_done returned
  obtain rfl := Option.some.inj equal
  have plain := StartLine.text_plain protocol accepted
  have framed := framed_headText plain headersAccepted body
  have fits := framed.fits (congrArg Parsed.thrown parsed)
  -- Both parses go through the same branch, because the type is detected as expected.
  have expected : parseMsg .reset (headText protocol (.request uri method) headers ++ body)
      .request = .done layout := by
    rw [← parsed, framed.parseMsg_eq .reset .request fits,
      framed.parseMsg_eq .reset .unknown fits, detectType_request valid accepted]
    simp only [detectType]
  obtain ⟨headersRead, bodyRead⟩ := view_headText plain headersAccepted expected
  refine ⟨⟨_, layout⟩, MsgView.parse_eq_ok.mpr ⟨rfl, expected⟩, ?_, headersRead, bodyRead⟩
  exact readBy_request valid accepted ⟨_, framed.startLine.split.symm⟩
    (framed.described parsed)

end MsgWriter

end Telling.Msg

namespace Telling.Server

open Lib Msg
open Io (Inbox RecvLoop)

structure Delivery where
  /-- The `Push_Box` of each client. -/
  clients : Nat → Outlet
  /-- The ways of the pushes to the server and from there to the services. -/
  uplinks : Nat → Wire NngMsg
  downlinks : Nat → Wire NngMsg
  traffic : Traffic
  /-- The client that each push came from, in the order of their arrival. -/
  origins : List Nat
  /-- The `Pull_Box` behind each route. -/
  boxes : Nat → Inbox NngMsg

/-- The pushes that arrived at the server. -/
def Traffic.pushes (traffic : Traffic) : List NngMsg :=
  (traffic.arrivals.filter fun arrival => decide (arrival.kind = .pulled)).map Arrival.msg

namespace Delivery

inductive Label where
  | link (client : Nat) (connectors : Connectors)
  | push (client : Nat) (msg : NngMsg)
  | pushing (client : Nat) (progress : Progress)
  | arrive (client : Nat)
  | loseUp (client : Nat)
  | server (event : Traffic.Event)
  | carry (serial : Nat)
  | loseDown (serial : Nat)
  | loop (serial : Nat) (label : RecvLoop.Label NngMsg)
  | pull (serial : Nat)

def construct (name : Bytes) (openInproc : Bool) : Delivery where
  clients _ := ServerState.undialed.push
  uplinks _ := {}
  downlinks _ := {}
  traffic := .construct name openInproc
  origins := []
  boxes _ := {}

/-- The event is the arrival of a push. -/
def isPush : Traffic.Event → Bool
  | .arrive .pulled _ => true
  | _ => false

/-- The push of a client that NNG is to carry to the server next. -/
def nextUp (delivery : Delivery) (client : Nat) : Option NngMsg :=
  (delivery.uplinks client).next (delivery.clients client).loop.aio.sent

/-- The push that NNG is to carry from the server to a service next. -/
def nextDown (delivery : Delivery) (serial : Nat) : Option NngMsg :=
  (delivery.downlinks serial).next
    (delivery.traffic.server.sockets serial).push.loop.aio.sent

/-- One step.  A call of `push` that throws changes nothing.  The server pulls nothing but
what clients have pushed, and the services nothing but what the server has. -/
def step (delivery : Delivery) : Label → Option Delivery
  | .link client connectors =>
      some { delivery with
        clients := Function.update delivery.clients client
          { delivery.clients client with connectors := connectors } }
  | .push client msg =>
      some { delivery with
        clients := Function.update delivery.clients client
          (((delivery.clients client).push msg).toOption.getD (delivery.clients client)) }
  | .pushing client progress =>
      ((delivery.clients client).loop.step progress.label).map fun loop =>
        { delivery with
          clients := Function.update delivery.clients client
            { delivery.clients client with loop := loop } }
  | .arrive client => do
      let msg ← delivery.nextUp client
      let traffic ← delivery.traffic.step (.arrive .pulled msg)
      some { delivery with
        traffic := traffic
        origins := delivery.origins ++ [client]
        uplinks := Function.update delivery.uplinks client
          ((delivery.uplinks client).deliver msg) }
  | .loseUp client =>
      (delivery.nextUp client).map fun _ =>
        { delivery with
          uplinks := Function.update delivery.uplinks client
            (delivery.uplinks client).lose }
  | .server event =>
      if isPush event then none
      else (delivery.traffic.step event).map fun traffic =>
        { delivery with traffic := traffic }
  | .carry serial => do
      let msg ← delivery.nextDown serial
      let box ← (delivery.boxes serial).proceed (.finish .success (some msg))
      some { delivery with
        boxes := Function.update delivery.boxes serial box
        downlinks := Function.update delivery.downlinks serial
          ((delivery.downlinks serial).deliver msg) }
  | .loseDown serial =>
      (delivery.nextDown serial).map fun _ =>
        { delivery with
          downlinks := Function.update delivery.downlinks serial
            (delivery.downlinks serial).lose }
  | .loop serial label =>
      if label.brings.isNone then
        ((delivery.boxes serial).step (.proceed label)).map fun box =>
          { delivery with boxes := Function.update delivery.boxes serial box }
      else none
  | .pull serial =>
      some { delivery with
        boxes := Function.update delivery.boxes serial (delivery.boxes serial).pull.2 }

/-- The pushes of a client that arrived at the server. -/
def arrivedFrom (delivery : Delivery) (client : Nat) : List NngMsg :=
  ((delivery.origins.zip delivery.traffic.pushes).filter fun entry =>
    decide (entry.1 = client)).map Prod.snd

/-! ## The invariant -/

/-- A client and the way of its pushes to the server. -/
structure Up (client : Outlet) (wire : Wire NngMsg) : Prop where
  carries : Carries client.loop client.loop.accepted
  faithful : wire.Faithful client.loop.accepted

/-- The way of the pushes for a route to the service, and its box. -/
structure Down (destined : List NngMsg) (wire : Wire NngMsg) (box : Inbox NngMsg) :
    Prop where
  faithful : wire.Faithful destined
  attended : box.loop.Attended
  conveys : box.Conveys
  brought : box.loop.received ++ box.loop.inAir = wire.delivered.map some

structure Sound (delivery : Delivery) : Prop where
  traffic : delivery.traffic.Sound
  up : ∀ client, Up (delivery.clients client) (delivery.uplinks client)
  counted : delivery.origins.length = delivery.traffic.pushes.length
  arrived : ∀ client, delivery.arrivedFrom client = (delivery.uplinks client).delivered
  down : ∀ serial, Down (delivery.traffic.destined .pulled serial)
    (delivery.downlinks serial) (delivery.boxes serial)

theorem sound_construct (name : Bytes) (openInproc : Bool) :
    (construct name openInproc).Sound where
  traffic := Traffic.sound_construct name openInproc
  up _ := ⟨Carries.empty, Wire.faithful_empty _⟩
  counted := rfl
  arrived _ := rfl
  down _ := ⟨Wire.faithful_empty _, fun _ => rfl, rfl, rfl⟩

namespace Up

variable {client : Outlet} {wire : Wire NngMsg}

/-- A call of `push` adds its message to the accepted ones, or throws. -/
theorem push (up : Up client wire) (msg : NngMsg) :
    Up ((client.push msg).toOption.getD client) wire := by
  obtain ⟨next, sent, carries⟩ := up.carries.sendMsg msg
  unfold Outlet.push Outlet.send
  cases client.connectors.isReady with
  | false => exact up
  | true =>
      simp only [if_true, sent, Except.toOption, Option.getD_some]
      constructor
      · exact carries.accepted.symm ▸ carries
      · rw [carries.accepted]
        exact up.faithful.grow (List.prefix_append _ _)

theorem pushing (up : Up client wire) {progress : Progress} {loop : Io.SendLoop NngMsg}
    (stepped : client.loop.step progress.label = some loop) :
    Up { client with loop := loop } wire := by
  have carries := up.carries.progress stepped
  constructor
  · exact carries.accepted.symm ▸ carries
  · exact carries.accepted.symm ▸ up.faithful

end Up

namespace Down

variable {destined : List NngMsg} {wire : Wire NngMsg} {box next : Inbox NngMsg}

theorem proceed (down : Down destined wire box) {label : RecvLoop.Label NngMsg}
    (proceeded : box.proceed label = some next) :
    next.loop.Attended ∧ next.Conveys ∧
      next.loop.received ++ next.loop.inAir =
        wire.delivered.map some ++ label.brings.toList := by
  have conveys := down.conveys.proceed proceeded
  obtain ⟨loop, stepped, rfl⟩ := Option.map_eq_some_iff.mp proceeded
  refine ⟨down.attended.step stepped, conveys, ?_⟩
  rw [RecvLoop.step_inAir down.attended stepped, down.brought]

theorem carry (down : Down destined wire box) {msg : NngMsg}
    (comes : wire.next destined = some msg)
    (proceeded : box.proceed (.finish .success (some msg)) = some next) :
    Down destined (wire.deliver msg) next := by
  obtain ⟨attended, conveys, brought⟩ := down.proceed proceeded
  refine ⟨down.faithful.deliver comes, attended, conveys, ?_⟩
  simp [brought, Wire.deliver, RecvLoop.Label.brings]

theorem loop (down : Down destined wire box) {label : RecvLoop.Label NngMsg}
    (barren : label.brings = none) (proceeded : box.proceed label = some next) :
    Down destined wire next := by
  obtain ⟨attended, conveys, brought⟩ := down.proceed proceeded
  refine ⟨down.faithful, attended, conveys, ?_⟩
  simp [brought, barren]

theorem pull (down : Down destined wire box) : Down destined wire box.pull.2 :=
  ⟨down.faithful, down.attended, down.conveys.pull, down.brought⟩

end Down

variable {delivery next : Delivery}

theorem Sound.nextUp (sound : delivery.Sound) {client : Nat} {msg : NngMsg}
    (comes : delivery.nextUp client = some msg) :
    (delivery.uplinks client).next (delivery.clients client).loop.accepted = some msg :=
  Wire.next_of_prefix (sound.up client).carries.sent_beginning comes

theorem Sound.nextDown (sound : delivery.Sound) {serial : Nat} {msg : NngMsg}
    (comes : delivery.nextDown serial = some msg) :
    (delivery.downlinks serial).next (delivery.traffic.destined .pulled serial) =
      some msg :=
  Wire.next_of_prefix (sound.traffic.pushing serial).sent_beginning comes

/-- What happens between a client and the server leaves the other clients alone. -/
theorem Sound.client (sound : delivery.Sound) {client : Nat} {outlet : Outlet}
    {wire : Wire NngMsg} (up : Up outlet wire)
    (same : wire.delivered = (delivery.uplinks client).delivered) :
    Sound { delivery with
      clients := Function.update delivery.clients client outlet
      uplinks := Function.update delivery.uplinks client wire } := by
  refine ⟨sound.traffic, fun other => ?_, sound.counted, fun other => ?_, sound.down⟩
  · by_cases equal : other = client
    · subst equal
      simpa using up
    · simpa [equal] using sound.up other
  · by_cases equal : other = client
    · subst equal
      simpa [arrivedFrom, same] using sound.arrived other
    · simpa [arrivedFrom, equal] using sound.arrived other

/-- What happens between the server and a service leaves the other services alone. -/
theorem Sound.service (sound : delivery.Sound) {serial : Nat} {wire : Wire NngMsg}
    {box : Inbox NngMsg}
    (down : Down (delivery.traffic.destined .pulled serial) wire box) :
    Sound { delivery with
      downlinks := Function.update delivery.downlinks serial wire
      boxes := Function.update delivery.boxes serial box } := by
  refine ⟨sound.traffic, sound.up, sound.counted, sound.arrived, fun other => ?_⟩
  by_cases equal : other = serial
  · subst equal
    simpa using down
  · simpa [equal] using sound.down other

theorem Sound.down_step (sound : delivery.Sound) {event : Traffic.Event}
    {traffic : Traffic} (stepped : delivery.traffic.step event = some traffic)
    (serial : Nat) :
    Down (traffic.destined .pulled serial) (delivery.downlinks serial)
      (delivery.boxes serial) := by
  obtain ⟨faithful, attended, conveys, brought⟩ := sound.down serial
  exact ⟨faithful.grow (Traffic.destined_step stepped .pulled serial), attended, conveys,
    brought⟩

theorem Sound.server (sound : delivery.Sound) {event : Traffic.Event} {traffic : Traffic}
    (noPush : isPush event = false) (stepped : delivery.traffic.step event = some traffic) :
    Sound { delivery with traffic := traffic } := by
  have same : traffic.pushes = delivery.traffic.pushes := by
    rw [Traffic.pushes, Traffic.arrivals_step stepped, List.filter_append, List.map_append]
    cases event with
    | arrive kind msg =>
        cases kind <;> simp_all [isPush, Traffic.Event.arrival, Traffic.pushes]
    | _ => simp [Traffic.Event.arrival, Traffic.pushes]
  refine ⟨sound.traffic.step stepped, sound.up, ?_, fun client => ?_,
    sound.down_step stepped⟩
  · exact same ▸ sound.counted
  · rw [arrivedFrom, same]
    exact sound.arrived client

theorem Sound.arrive (sound : delivery.Sound) {client : Nat} {msg : NngMsg}
    {traffic : Traffic} (comes : delivery.nextUp client = some msg)
    (stepped : delivery.traffic.step (.arrive .pulled msg) = some traffic) :
    Sound { delivery with
      traffic := traffic
      origins := delivery.origins ++ [client]
      uplinks := Function.update delivery.uplinks client
        ((delivery.uplinks client).deliver msg) } := by
  have pushes : traffic.pushes = delivery.traffic.pushes ++ [msg] := by
    rw [Traffic.pushes, Traffic.arrivals_step stepped, List.filter_append, List.map_append]
    rfl
  have faithful := (sound.up client).faithful.deliver (sound.nextUp comes)
  refine ⟨sound.traffic.step stepped, fun other => ?_, ?_, fun other => ?_,
    sound.down_step stepped⟩
  · by_cases equal : other = client
    · subst equal
      simpa using Up.mk (sound.up other).carries faithful
    · simpa [equal] using sound.up other
  · simp [pushes, sound.counted]
  · have before := sound.arrived other
    unfold arrivedFrom at before ⊢
    simp only [pushes]
    rw [List.zip_append sound.counted, List.filter_append, List.map_append, before]
    by_cases equal : other = client
    · subst equal
      simp [Wire.deliver]
    · simp [equal, Ne.symm equal]

theorem Sound.step (sound : delivery.Sound) {label : Label}
    (stepped : delivery.step label = some next) : next.Sound := by
  cases label with
  | link client connectors =>
      obtain rfl := Option.some.inj stepped
      obtain ⟨carries, faithful⟩ := sound.up client
      have linked : Up { delivery.clients client with connectors := connectors }
          (delivery.uplinks client) := ⟨carries, faithful⟩
      simpa using sound.client linked rfl
  | push client msg =>
      obtain rfl := Option.some.inj stepped
      simpa using sound.client ((sound.up client).push msg) rfl
  | pushing client progress =>
      obtain ⟨loop, moved, rfl⟩ := Option.map_eq_some_iff.mp stepped
      simpa using sound.client ((sound.up client).pushing moved) rfl
  | arrive client =>
      obtain ⟨msg, comes, stepped⟩ := Option.bind_eq_some_iff.mp stepped
      obtain ⟨traffic, moved, equal⟩ := Option.bind_eq_some_iff.mp stepped
      exact Option.some.inj equal ▸ sound.arrive comes moved
  | loseUp client =>
      obtain ⟨msg, comes, rfl⟩ := Option.map_eq_some_iff.mp stepped
      obtain ⟨carries, faithful⟩ := sound.up client
      simpa using sound.client ⟨carries, faithful.lose (sound.nextUp comes)⟩ rfl
  | server event =>
      simp only [Delivery.step] at stepped
      split at stepped
      · contradiction
      · next noPush =>
          obtain ⟨traffic, moved, rfl⟩ := Option.map_eq_some_iff.mp stepped
          exact sound.server (Bool.eq_false_iff.mpr noPush) moved
  | carry serial =>
      obtain ⟨msg, comes, stepped⟩ := Option.bind_eq_some_iff.mp stepped
      obtain ⟨box, proceeded, equal⟩ := Option.bind_eq_some_iff.mp stepped
      exact Option.some.inj equal ▸
        sound.service ((sound.down serial).carry (sound.nextDown comes) proceeded)
  | loseDown serial =>
      obtain ⟨msg, comes, rfl⟩ := Option.map_eq_some_iff.mp stepped
      obtain ⟨faithful, attended, conveys, brought⟩ := sound.down serial
      simpa using sound.service
        ⟨faithful.lose (sound.nextDown comes), attended, conveys, brought⟩
  | loop serial label =>
      simp only [Delivery.step] at stepped
      split at stepped
      · next barren =>
          obtain ⟨box, moved, rfl⟩ := Option.map_eq_some_iff.mp stepped
          simpa using sound.service ((sound.down serial).loop
            (Option.isNone_iff_eq_none.mp barren) (Inbox.proceed_of_step moved))
      · contradiction
  | pull serial =>
      obtain rfl := Option.some.inj stepped
      simpa using sound.service (sound.down serial).pull

/-! ## Whole runs -/

/-- A request that was written for a URI is for the route of the longest enrolled prefix of
this URI. -/
theorem destination_of_compose {arrival : Arrival} {protocol : MsgProtocol} {uri : Bytes}
    {method : Method} {headers : List (Bytes × Bytes)} {body : Bytes}
    (valid : protocol.isValid)
    (written : (MsgWriter.compose protocol (.request uri method) headers body).result =
      .ok (some arrival.msg.body)) (route : Route) :
    arrival.destination = some route ↔ arrival.services.LongestPrefix uri route := by
  obtain ⟨view, parsed, shown⟩ := MsgWriter.shows_of_compose valid written
  rw [Arrival.destination, parsed, ← Services.route_eq_some_iff, ← shown.startLine.2.2.1]

/-- In every run: the pushes of a client that arrived at the server are among those that
it made, each at most once and in the order in which it made them, and every push that
arrived came from a client.  What a service has pulled, what waits in its box and what is
in the air are pushes for its route, each at most once and in the order of their arrival.
A push that was written with a `MsgWriter` is for the route of the longest enrolled prefix
of the URI that was written, and whoever receives it reads what was written, the values of
its headers without the blanks around them. -/
theorem pushes_reach_their_services (name : Bytes) (openInproc : Bool)
    (labels : List Label) (delivery : Delivery)
    (reached : run step (construct name openInproc) labels = some delivery) :
    (∀ client, (delivery.arrivedFrom client).Sublist
        (delivery.clients client).loop.accepted) ∧
      delivery.origins.length = delivery.traffic.pushes.length ∧
      (∀ serial, ∃ received : List NngMsg,
        (delivery.boxes serial).pulled ++ (delivery.boxes serial).queue.deq ++
            (delivery.boxes serial).loop.inAir = received.map some ∧
          received.Sublist (delivery.traffic.destined .pulled serial)) ∧
      ∀ arrival ∈ delivery.traffic.arrivals, ∀ protocol uri method headers body,
        MsgProtocol.isValid protocol →
        (MsgWriter.compose protocol (.request uri method) headers body).result =
          .ok (some arrival.msg.body) →
        (∀ route, arrival.destination = some route ↔
          arrival.services.LongestPrefix uri route) ∧
        ∃ view, MsgView.parse arrival.msg.body .request = .ok view ∧
          view.Shows protocol (.request uri method) headers body := by
  have sound : delivery.Sound := invariant_of_run Sound (sound_construct name openInproc)
    (fun _ _ _ sound _ stepped => sound.step stepped) (meets_true _ _) reached
  refine ⟨fun client => ?_, sound.counted, fun serial => ?_, ?_⟩
  · rw [sound.arrived]
    exact (sound.up client).faithful.sublist
  · obtain ⟨faithful, _, conveys, brought⟩ := sound.down serial
    refine ⟨(delivery.downlinks serial).delivered, ?_, faithful.sublist⟩
    rw [conveys, brought]
  · intro arrival _ protocol uri method headers body valid written
    exact ⟨destination_of_compose valid written, MsgWriter.shows_of_compose valid written⟩

/-- A service is enrolled at `/a`; two clients push something to it. -/
def errands : List Label :=
  [.server (.directory (.receive 1 10 (Services.enrollment "/a"))),
    .server (.directory (.drain fun _ => .ok)), .loop 0 (.recvStart false false),
    .link 4 [ascii "inproc://server"], .link 5 [ascii "inproc://server"],
    .push 5 ⟨[], ascii "PUT /a/y Tell/0\n\n2"⟩, .pushing 5 (.handOver 0),
    .push 4 ⟨[], ascii "PUT /a/x Tell/0\n\n1"⟩, .pushing 4 (.handOver 0),
    .arrive 4, .arrive 5, .server (.pushing 0 (.handOver 0)), .carry 0, .loop 0 .callback,
    .pull 0]

theorem pushes_reach_their_services_errands :
    ∃ delivery, run step (construct (ascii "server") true) errands = some delivery ∧
      delivery.origins = [4, 5] ∧
      (delivery.boxes 0).pulled = [some ⟨[], ascii "PUT /a/x Tell/0\n\n1"⟩] ∧
      (delivery.arrivedFrom 5).Sublist (delivery.clients 5).loop.accepted := by
  have delivers : (run step (construct (ascii "server") true) errands).map
      (fun delivery => (delivery.origins, (delivery.boxes 0).pulled)) =
        some ([4, 5], [some ⟨[], ascii "PUT /a/x Tell/0\n\n1"⟩]) := by decide +kernel
  obtain ⟨delivery, reached, equal⟩ := Option.map_eq_some_iff.mp delivers
  obtain ⟨origins, pulled⟩ := Prod.mk.inj equal
  have reach := pushes_reach_their_services (ascii "server") true errands delivery reached
  exact ⟨delivery, reached, origins, pulled, reach.1 5⟩

end Delivery

end Telling.Server
