import Telling.Lib.Wire
import Telling.Server.Traffic
import Telling.Service.Responder

/-!
# Requests and their replies

A client's request travels through the server to the service behind its route, and the
service's reply travels back through the server to the client.  Behind each route stands
a service of its own, which answers from its reactor or later.  NNG carries requests and
replies in order, may lose some, and keeps the routing header of a request in the context
that the reply is sent on.
-/

namespace Telling.Service.Responder

open Lib
open Server (NngMsg)

/-- The requests that were taken, in their order. -/
def taken (responder : Responder) : List NngMsg := responder.queries.map Query.msg

/-- The replies that have entered the outbox, in their order. -/
def replies (responder : Responder) : List NngMsg :=
  responder.reply.accepted.map fun item => item.msg.reply

/-- The replies that were handed to the send operation. -/
def sent (responder : Responder) : List NngMsg :=
  responder.reply.aioSend.sent.map fun item => item.msg.reply

/-- The service has given the reply as its response to the request. -/
def Replied (responder : Responder) (request reply : NngMsg) : Prop :=
  ∃ response, responder.Gave response ∧ response.query.msg = request ∧
    response.reply = reply

variable {responder next : Responder}

/-- Requests are taken in the order in which they come. -/
theorem taken_step {label : Label} (stepped : responder.step label = some next) :
    next.taken.Sublist (responder.taken ++ label.brings.toList) := by
  cases logged_of_step stepped with
  | kept served current =>
      rw [taken, queries, served, current]
      exact List.sublist_append_left _ _
  | taken query brings served current =>
      rw [taken, taken, queries, queries, served, current, brings, List.map_append,
        List.map_append, List.append_assoc]
      exact (List.Sublist.refl _).append (List.sublist_append_right _ _)
  | served call _ was _ served current => simp [taken, queries, was, served, current]

/-- No reply is taken back. -/
theorem replies_step {label : Label} (stepped : responder.step label = some next) :
    responder.replies <+: next.replies := by
  apply List.IsPrefix.map
  cases moved_of_step stepped with
  | returned _ handled =>
      exact Io.Exchange.accepted_of_effect (Io.Exchange.effect_handled handled)
  | @rearmed ctx reply _ rearmed =>
      have moved : responder.reply.step prep (.rearm ctx) = some reply := rearmed
      exact Io.Exchange.accepted_of_effect (Io.Exchange.effect_of_step moved)
  | sent moved =>
      exact Io.Exchange.accepted_of_effect (Io.Exchange.effect_of_step moved)
  | ready | expired | dropped | taken | failed | threw | passed | responded =>
      exact List.prefix_rfl

theorem Sound.sent_replies (sound : responder.Sound) : responder.sent <+: responder.replies :=
  sound.sent_beginning.map _

end Telling.Service.Responder

namespace Telling.Server

open Lib
open Io (QueryID)
open Service (Reactor Responder)

structure Circuit where
  traffic : Traffic
  /-- The service behind each route. -/
  responders : Nat → Responder
  /-- The ways of the requests to the services and of the replies back. -/
  requests : Nat → Wire NngMsg := fun _ => {}
  replies : Nat → Wire NngMsg := fun _ => {}

namespace Circuit

inductive Label where
  | server (event : Traffic.Event)
  | request (serial : Nat)
  | loseRequest (serial : Nat)
  | service (serial : Nat) (label : Responder.Label)
  | reply (serial : Nat)
  | loseReply (serial : Nat)

def construct (name : Bytes) (openInproc : Bool) (ctx : Nat → QueryID) : Circuit where
  traffic := .construct name openInproc
  responders serial := .initial (ctx serial)

/-- The event is the arrival of a service's reply. -/
def isReply : Traffic.Event → Bool
  | .arrive .replied _ => true
  | _ => false

/-- The request that NNG is to carry to a service next. -/
def nextRequest (circuit : Circuit) (serial : Nat) : Option NngMsg :=
  (circuit.requests serial).next (circuit.traffic.server.sockets serial).reqSend.aio.sent

/-- The reply that NNG is to carry back to the server next. -/
def nextReply (circuit : Circuit) (serial : Nat) : Option NngMsg :=
  (circuit.replies serial).next (circuit.responders serial).sent

/-- One step.  Services receive nothing but what the server forwards, and the server
gets no other replies than theirs. -/
def step (circuit : Circuit) : Label → Option Circuit
  | .server event =>
      if isReply event then none
      else (circuit.traffic.step event).map fun traffic =>
        { circuit with traffic := traffic }
  | .request serial => do
      let msg ← circuit.nextRequest serial
      let responder ← (circuit.responders serial).step (.received msg)
      some { circuit with
        responders := Function.update circuit.responders serial responder
        requests := Function.update circuit.requests serial
          ((circuit.requests serial).deliver msg) }
  | .loseRequest serial =>
      (circuit.nextRequest serial).map fun _ =>
        { circuit with
          requests := Function.update circuit.requests serial
            (circuit.requests serial).lose }
  | .service serial label =>
      if label.brings.isNone then
        ((circuit.responders serial).step label).map fun responder =>
          { circuit with
            responders := Function.update circuit.responders serial responder }
      else none
  | .reply serial => do
      let msg ← circuit.nextReply serial
      let traffic ← circuit.traffic.step (.arrive .replied msg)
      some { circuit with
        traffic := traffic
        replies := Function.update circuit.replies serial
          ((circuit.replies serial).deliver msg) }
  | .loseReply serial =>
      (circuit.nextReply serial).map fun _ =>
        { circuit with
          replies := Function.update circuit.replies serial (circuit.replies serial).lose }

/-- A service opens contexts with ids of their own. -/
def OpensNew (circuit : Circuit) : Label → Prop
  | .service serial label => (circuit.responders serial).OpensNew label
  | _ => True

instance (circuit : Circuit) : (label : Label) → Decidable (circuit.OpensNew label)
  | .service serial label =>
      inferInstanceAs (Decidable ((circuit.responders serial).OpensNew label))
  | .server _ | .request _ | .loseRequest _ | .reply _ | .loseReply _ => isTrue trivial

/-! ## What a step does -/

/-- One case for each label, with what the step needs and what it leaves. -/
inductive Moved (circuit : Circuit) : Label → Circuit → Prop where
  | server {event : Traffic.Event} {traffic : Traffic} : isReply event = false →
      circuit.traffic.step event = some traffic →
      Moved circuit (.server event) { circuit with traffic := traffic }
  | request {serial : Nat} {msg : NngMsg} {responder : Responder} :
      circuit.nextRequest serial = some msg →
      (circuit.responders serial).step (.received msg) = some responder →
      Moved circuit (.request serial)
        { circuit with
          responders := Function.update circuit.responders serial responder
          requests := Function.update circuit.requests serial
            ((circuit.requests serial).deliver msg) }
  | loseRequest {serial : Nat} {msg : NngMsg} : circuit.nextRequest serial = some msg →
      Moved circuit (.loseRequest serial)
        { circuit with
          requests := Function.update circuit.requests serial
            (circuit.requests serial).lose }
  | service {serial : Nat} {label : Responder.Label} {responder : Responder} :
      label.brings = none → (circuit.responders serial).step label = some responder →
      Moved circuit (.service serial label)
        { circuit with
          responders := Function.update circuit.responders serial responder }
  | reply {serial : Nat} {msg : NngMsg} {traffic : Traffic} :
      circuit.nextReply serial = some msg →
      circuit.traffic.step (.arrive .replied msg) = some traffic →
      Moved circuit (.reply serial)
        { circuit with
          traffic := traffic
          replies := Function.update circuit.replies serial
            ((circuit.replies serial).deliver msg) }
  | loseReply {serial : Nat} {msg : NngMsg} : circuit.nextReply serial = some msg →
      Moved circuit (.loseReply serial)
        { circuit with
          replies := Function.update circuit.replies serial
            (circuit.replies serial).lose }

theorem moved_of_step {circuit next : Circuit} {label : Label}
    (stepped : circuit.step label = some next) : Moved circuit label next := by
  cases label with
  | server event =>
      simp only [step] at stepped
      split at stepped
      · contradiction
      · next noReply =>
          obtain ⟨traffic, moved, rfl⟩ := Option.map_eq_some_iff.mp stepped
          exact .server (Bool.eq_false_iff.mpr noReply) moved
  | request serial =>
      obtain ⟨msg, comes, stepped⟩ := Option.bind_eq_some_iff.mp stepped
      obtain ⟨responder, moved, equal⟩ := Option.bind_eq_some_iff.mp stepped
      exact Option.some.inj equal ▸ .request comes moved
  | loseRequest serial =>
      obtain ⟨msg, comes, rfl⟩ := Option.map_eq_some_iff.mp stepped
      exact .loseRequest comes
  | service serial label =>
      simp only [step] at stepped
      split at stepped
      · next barren =>
          obtain ⟨responder, moved, rfl⟩ := Option.map_eq_some_iff.mp stepped
          exact .service (Option.isNone_iff_eq_none.mp barren) moved
      · contradiction
  | reply serial =>
      obtain ⟨msg, comes, stepped⟩ := Option.bind_eq_some_iff.mp stepped
      obtain ⟨traffic, moved, equal⟩ := Option.bind_eq_some_iff.mp stepped
      exact Option.some.inj equal ▸ .reply comes moved
  | loseReply serial =>
      obtain ⟨msg, comes, rfl⟩ := Option.map_eq_some_iff.mp stepped
      exact .loseReply comes

/-! ## The invariant -/

/-- One route: its service takes requests that were forwarded to it, in their order, and
what comes back are its replies. -/
structure Leg (destined : List NngMsg) (responder : Responder)
    (requests replies : Wire NngMsg) : Prop where
  service : responder.Sound
  forwarded : requests.Faithful destined
  taken : responder.taken.Sublist requests.delivered
  returned : replies.Faithful responder.replies

structure Sound (circuit : Circuit) : Prop where
  traffic : circuit.traffic.Sound
  legs : ∀ serial, Leg (circuit.traffic.destined .requested serial)
    (circuit.responders serial) (circuit.requests serial) (circuit.replies serial)
  replied : ∀ arrival ∈ circuit.traffic.arrivals, arrival.kind = .replied →
    ∃ serial, arrival.msg ∈ (circuit.replies serial).delivered

section Answers

variable {destined : List NngMsg} {responder : Responder} {requests replies : Wire NngMsg}

/-- The replies that came back are responses to requests for the route, at most one to
each of them. -/
theorem Leg.answered (leg : Leg destined responder requests replies) :
    ∃ responses : List Responder.Response,
      replies.delivered = responses.map Responder.Response.reply ∧
      (∀ response ∈ responses, responder.Gave response) ∧
      (responses.map fun response => response.query.msg).Subperm destined ∧
      (responder.calls = [] →
        (responses.map fun response => response.query.msg).Sublist destined) := by
  obtain ⟨items, among, delivered⟩ := List.sublist_map_iff.mp leg.returned.sublist
  have given : (items.map Io.OutboxItem.msg).Sublist responder.responses :=
    (among.trans (List.sublist_append_left _ _)).map _
  have forwarded := leg.taken.trans leg.forwarded.sublist
  have queries := given.map Responder.Response.query
  refine ⟨items.map Io.OutboxItem.msg, by rw [delivered, List.map_map]; rfl,
    fun response member => leg.service.gave (given.subset member), ?_, fun alone => ?_⟩
  · obtain ⟨asked, same, among⟩ := queries.subperm.trans leg.service.answered_subperm
    have messages := same.map Service.Query.msg
    rw [List.map_map] at messages
    exact List.Subperm.trans ⟨_, messages, among.map _⟩ forwarded.subperm
  · have asked := (queries.trans (leg.service.answered_sublist alone)).map Service.Query.msg
    rw [List.map_map] at asked
    exact asked.trans forwarded

end Answers

variable {circuit next : Circuit}

theorem sound_construct (name : Bytes) (openInproc : Bool) (ctx : Nat → QueryID) :
    (construct name openInproc ctx).Sound where
  traffic := Traffic.sound_construct name openInproc
  legs serial := ⟨Responder.sound_initial _, Wire.faithful_empty _, List.nil_sublist _,
    Wire.faithful_empty _⟩
  replied := by simp [construct, Traffic.construct]

theorem Sound.server (sound : Sound circuit) {event : Traffic.Event}
    {traffic : Traffic} (noReply : isReply event = false)
    (stepped : circuit.traffic.step event = some traffic) :
    Sound { circuit with traffic := traffic } := by
  refine ⟨sound.traffic.step stepped, fun serial => ?_, ?_⟩
  · obtain ⟨service, requests, taken, replies⟩ := sound.legs serial
    exact ⟨service, requests.grow (Traffic.destined_step stepped .requested serial), taken,
      replies⟩
  · rw [Traffic.arrivals_step stepped, List.forall_mem_append]
    refine ⟨sound.replied, ?_⟩
    cases event with
    | arrive kind msg => cases kind <;> simp_all [isReply, Traffic.Event.arrival]
    | _ => simp [Traffic.Event.arrival]

/-- A step on one route leaves the others alone. -/
theorem Sound.leg (sound : Sound circuit) {serial : Nat} {responder : Responder}
    {requests replies : Wire NngMsg}
    (leg : Leg (circuit.traffic.destined .requested serial) responder
      requests replies)
    (delivered : (circuit.replies serial).delivered ⊆ replies.delivered) :
    Sound { circuit with
      responders := Function.update circuit.responders serial responder
      requests := Function.update circuit.requests serial requests
      replies := Function.update circuit.replies serial replies } := by
  refine ⟨sound.traffic, fun other => ?_, fun arrival member replied => ?_⟩
  · by_cases same : other = serial
    · subst same
      simpa using leg
    · simpa [same] using sound.legs other
  · obtain ⟨other, came⟩ := sound.replied arrival member replied
    refine ⟨other, ?_⟩
    by_cases same : other = serial
    · subst same
      simpa using delivered came
    · simpa [same] using came

theorem Sound.request (sound : Sound circuit) {serial : Nat} {msg : NngMsg}
    {responder : Responder} (comes : circuit.nextRequest serial = some msg)
    (stepped : (circuit.responders serial).step (.received msg) =
      some responder) :
    Leg (circuit.traffic.destined .requested serial) responder
      ((circuit.requests serial).deliver msg) (circuit.replies serial) := by
  obtain ⟨service, forwarded, taken, returned⟩ := sound.legs serial
  have next := Wire.next_of_prefix (sound.traffic.forwarding serial).sent_beginning comes
  have opensNew : (circuit.responders serial).OpensNew (.received msg) := trivial
  refine ⟨service.step opensNew stepped, forwarded.deliver next, ?_,
    returned.grow (Responder.replies_step stepped)⟩
  exact (Responder.taken_step stepped).trans (taken.append (List.Sublist.refl _))

theorem Sound.service (sound : Sound circuit) {serial : Nat}
    {label : Responder.Label} {responder : Responder}
    (opensNew : (circuit.responders serial).OpensNew label) (barren : label.brings = none)
    (stepped : (circuit.responders serial).step label = some responder) :
    Leg (circuit.traffic.destined .requested serial) responder
      (circuit.requests serial) (circuit.replies serial) := by
  obtain ⟨service, forwarded, taken, returned⟩ := sound.legs serial
  refine ⟨service.step opensNew stepped, forwarded, ?_,
    returned.grow (Responder.replies_step stepped)⟩
  have order := Responder.taken_step stepped
  rw [barren, Option.toList_none, List.append_nil] at order
  exact order.trans taken

/-- The reply that comes next is one of the service. -/
theorem Sound.next_reply (sound : Sound circuit) {serial : Nat} {msg : NngMsg}
    (comes : circuit.nextReply serial = some msg) :
    (circuit.replies serial).next (circuit.responders serial).replies = some msg :=
  Wire.next_of_prefix (sound.legs serial).service.sent_replies comes

theorem Sound.reply (sound : Sound circuit) {serial : Nat} {msg : NngMsg}
    {traffic : Traffic} (comes : circuit.nextReply serial = some msg)
    (stepped : circuit.traffic.step (.arrive .replied msg) = some traffic) :
    Sound { circuit with
      traffic := traffic
      replies := Function.update circuit.replies serial
        ((circuit.replies serial).deliver msg) } := by
  have leg (other : Nat) : Leg (traffic.destined .requested other)
      (circuit.responders other) (circuit.requests other) (circuit.replies other) := by
    obtain ⟨service, forwarded, taken, returned⟩ := sound.legs other
    exact ⟨service, forwarded.grow (Traffic.destined_step stepped .requested other), taken,
      returned⟩
  refine ⟨sound.traffic.step stepped, fun other => ?_, ?_⟩
  · by_cases same : other = serial
    · subst same
      obtain ⟨service, forwarded, taken, returned⟩ := leg other
      simpa using
        Leg.mk service forwarded taken (returned.deliver (sound.next_reply comes))
    · simpa [same] using leg other
  · rw [Traffic.arrivals_step stepped, List.forall_mem_append]
    refine ⟨fun arrival member replied => ?_, fun arrival member _ => ⟨serial, ?_⟩⟩
    · obtain ⟨other, came⟩ := sound.replied arrival member replied
      refine ⟨other, ?_⟩
      by_cases same : other = serial
      · subst same
        simp [Wire.deliver, came]
      · simpa [same] using came
    · obtain rfl := List.mem_singleton.mp member
      simp [Wire.deliver]

theorem Sound.step (sound : Sound circuit) {label : Label}
    (opensNew : circuit.OpensNew label)
    (stepped : circuit.step label = some next) : Sound next := by
  cases moved_of_step stepped with
  | server noReply moved => exact sound.server noReply moved
  | request comes moved =>
      simpa using sound.leg (sound.request comes moved) (List.Subset.refl _)
  | @loseRequest serial msg comes =>
      obtain ⟨service, forwarded, taken, returned⟩ := sound.legs serial
      have next := Wire.next_of_prefix (sound.traffic.forwarding serial).sent_beginning comes
      simpa using sound.leg ⟨service, forwarded.lose next, taken, returned⟩
        (List.Subset.refl _)
  | service barren moved =>
      simpa using sound.leg (sound.service opensNew barren moved) (List.Subset.refl _)
  | reply comes moved => exact sound.reply comes moved
  | @loseReply serial msg comes =>
      obtain ⟨service, forwarded, taken, returned⟩ := sound.legs serial
      have lost := returned.lose (sound.next_reply comes)
      simpa using sound.leg ⟨service, forwarded, taken, lost⟩ (List.Subset.refl _)

/-- A step adds arrivals; a request is among them only when the label is
its arrival. -/
theorem arrivals_of_step {label : Label}
    (stepped : circuit.step label = some next) :
    ∃ more, next.traffic.arrivals = circuit.traffic.arrivals ++ more ∧
      ∀ arrival ∈ more, arrival.kind = .requested →
        label = .server (.arrive .requested arrival.msg) := by
  cases moved_of_step stepped with
  | @server event _ _ moved =>
      refine ⟨event.arrival circuit.traffic, Traffic.arrivals_step moved, ?_⟩
      intro arrival member requested
      cases event with
      | arrive kind msg =>
          obtain rfl := List.mem_singleton.mp member
          rw [← requested]
      | _ => contradiction
  | reply _ moved =>
      refine ⟨_, Traffic.arrivals_step moved, ?_⟩
      intro arrival member requested
      obtain rfl := List.mem_singleton.mp member
      contradiction
  | request | loseRequest | service | loseReply => exact ⟨[], by simp, by simp⟩

/-! ## Whole runs -/

theorem response_header {arrival : Arrival} {reply : NngMsg}
    (requested : arrival.kind = .requested) (response : arrival.response = some reply) :
    reply.header = arrival.msg.header := by
  simp only [Arrival.response, requested] at response
  split at response
  · contradiction
  · split at response
    · contradiction
    · rw [← Option.some.inj response]

theorem Sound.answered (sound : Sound circuit) {arrival : Arrival}
    (member : arrival ∈ circuit.traffic.arrivals) (replied : arrival.kind = .replied) :
    ∃ request ∈ circuit.traffic.arrivals, request.kind = .requested ∧ ∃ route,
      request.Destined route ∧
        (circuit.responders route.serial).Replied request.msg arrival.msg := by
  obtain ⟨serial, came⟩ := sound.replied arrival member replied
  obtain ⟨responses, delivered, gave, among, _⟩ := (sound.legs serial).answered
  rw [delivered] at came
  obtain ⟨response, given, reply⟩ := List.mem_map.mp came
  obtain ⟨request, kept, asked⟩ :=
    List.mem_map.mp (among.subset (List.mem_map_of_mem given))
  obtain ⟨arrived, goes⟩ := List.mem_filter.mp kept
  obtain ⟨requested, route, destination, rfl⟩ :
      request.kind = .requested ∧ ∃ route, request.destination = some route ∧
        route.serial = serial := by
    simpa [Arrival.goesTo] using goes
  refine ⟨request, arrived, requested, route, ?_, response, gave response given, asked.symm,
    reply⟩
  exact (Arrival.destination_eq_some_iff (sound.traffic.earlier request arrived)).mp
    destination

theorem Sound.response_answers (sound : Sound circuit) {reply : NngMsg}
    (member : reply ∈ circuit.traffic.responses) :
    ∃ request ∈ circuit.traffic.arrivals, request.kind = .requested ∧
      reply.header = request.msg.header ∧
      (request.response = some reply ∨ ∃ route, request.Destined route ∧
        (circuit.responders route.serial).Replied request.msg reply) := by
  obtain ⟨arrival, arrived, response⟩ := List.mem_filterMap.mp member
  cases kind : arrival.kind with
  | requested =>
      exact ⟨arrival, arrived, kind, response_header kind response, .inl response⟩
  | replied =>
      obtain rfl : arrival.msg = reply := by simpa [Arrival.response, kind] using response
      obtain ⟨request, asked, requested, route, destined, replied⟩ :=
        sound.answered arrived kind
      refine ⟨request, asked, requested, ?_, .inr ⟨route, destined, replied⟩⟩
      obtain ⟨response, _, query, equal⟩ := replied
      rw [← equal, ← query]
      rfl
  | published | pulled => simp [Arrival.response, kind] at response

/-- A service is enrolled at `/a` and two clients ask it for something.  It answers the
first one later than the second one. -/
def visit : List Label :=
  [.server (.directory (.receive 1 10 (Services.enrollment "/a"))),
    .server (.directory (.drain fun _ => .ok)),
    .server (.arrive .requested ⟨[7], ascii "GET /a/x Tell/0\n\n"⟩),
    .server (.arrive .requested ⟨[8], ascii "GET /a/y Tell/0\n\n"⟩),
    .server (.forwarding 0 (.handOver 0)), .request 0,
    .service 0 (.serve Responder.deferrer), .service 0 (.rearm 2),
    .server (.forwarding 0 (.complete .success)), .server (.forwarding 0 .callback),
    .server (.forwarding 0 (.handOver 1)), .request 0, .service 0 (.serve .greeter),
    .service 0 (.sending (.enqueue 0)), .service 0 (.sending (.handOver 0)), .reply 0,
    .service 0 (.respondTo 1 (some (ascii "late"))), .service 0 (.sending (.enqueue 0)),
    .service 0 (.sending (.complete .success)), .service 0 (.sending .sent),
    .service 0 (.sending (.handOver 1)), .reply 0]

end Circuit

end Telling.Server
