import Telling.Server.Circuit

/-!
# Requests at rest

A reply answers a request; here is the converse.  When everything that was under way has
come to its end, and nothing was lost and no service has given up on the way, every
request has come to the service behind its route, and every response that the service has
given to it has gone out to the client.  What is left are the requests that the services
have put off.
-/

namespace Telling.Service.Responder

open Lib
open Server (NngMsg)

variable {responder next : Responder} {brought : List NngMsg}

theorem aborted_step {label : Label} (stepped : responder.step label = some next)
    (going : next.aborted = false) : responder.aborted = false := by
  cases moved_of_step stepped with
  | dropped | failed => contradiction
  | ready | expired | taken | threw | returned | passed | responded | rearmed | sent =>
      exact going

/-- As long as the service has not given up, it has taken every request that was
brought. -/
def Attentive (responder : Responder) (brought : List NngMsg) : Prop :=
  responder.aborted = false → responder.taken = brought

theorem Attentive.received (attentive : responder.Attentive brought)
    (sound : responder.Sound) {msg : NngMsg}
    (stepped : responder.step (.received msg) = some next) :
    next.Attentive (brought ++ [msg]) := by
  obtain ⟨ctx, armed, rfl | ⟨_, rfl⟩⟩ := receive_cases stepped
  · intro going
    contradiction
  · intro going
    rw [← attentive going]
    simp [taken, queries, take, sound.idle (by simp [armed])]

theorem Attentive.step (attentive : responder.Attentive brought) {label : Label}
    (barren : label.brings = none) (stepped : responder.step label = some next) :
    next.Attentive brought := by
  intro going
  rw [← attentive (aborted_step stepped going)]
  cases logged_of_step stepped with
  | kept served current => rw [taken, taken, queries, queries, served, current]
  | taken query brings =>
      rw [barren] at brings
      contradiction
  | served call _ was _ served current => simp [taken, queries, was, served, current]

/-- The service has come to rest: it has not given up, and all of its responses were
handed to the send operation. -/
def AtRest (responder : Responder) : Prop :=
  responder.aborted = false ∧ responder.reply.claimed = [] ∧
    responder.reply.active.reduceOption = [] ∧ responder.reply.outbox.deq = []

instance (responder : Responder) : Decidable responder.AtRest :=
  inferInstanceAs (Decidable (_ = false ∧ _ = [] ∧ _ = [] ∧ _ = []))

/-- At rest all responses were sent. -/
theorem AtRest.sent (atRest : responder.AtRest) (sound : responder.Sound) :
    responder.sent = responder.replies ∧
      responder.replies = responder.responses.map Response.reply := by
  obtain ⟨_, noneClaimed, noneHeld, noneQueued⟩ := atRest
  constructor
  · have fifo : responder.reply.aioSend.sent ++ responder.reply.active.reduceOption ++
        (responder.reply.outbox.deq.map some).reduceOption = responder.reply.accepted :=
      sound.orderly.fifo
    rw [noneHeld, noneQueued, List.map_nil, List.reduceOption_nil, List.append_nil,
      List.append_nil] at fifo
    rw [Responder.sent, replies, fifo]
  · rw [replies, responses, noneClaimed, List.append_nil, List.map_map]
    rfl

end Telling.Service.Responder

namespace Telling.Server

open Lib
open Io (QueryID SendLoop)
open Service (Query Responder)
open Service.Responder (Call Response)

/-- Everything that was given to the loop has been sent. -/
def Drained (loop : SendLoop NngMsg) : Prop :=
  loop.claimed = [] ∧ loop.queue.deq.reduceOption = []

instance (loop : SendLoop NngMsg) : Decidable (Drained loop) :=
  inferInstanceAs (Decidable (_ ∧ _))

theorem Carries.sent_eq {loop : SendLoop NngMsg} {msgs : List NngMsg}
    (carries : Carries loop msgs) (drained : Drained loop) : loop.aio.sent = msgs := by
  rw [← carries.conveys, conveyed, drained.1, drained.2, List.append_nil, List.append_nil]

namespace Circuit

variable {circuit next : Circuit}

/-- The route has come to rest: what is for it was forwarded, its service has taken it
and the replies are back; nothing was lost and the service has not given up. -/
def SettledAt (circuit : Circuit) (serial : Nat) : Prop :=
  (Drained (circuit.traffic.server.sockets serial).reqSend ∧
      (circuit.requests serial).Exhausted
        (circuit.traffic.server.sockets serial).reqSend.aio.sent) ∧
    (circuit.responders serial).AtRest ∧
    (circuit.replies serial).Exhausted (circuit.responders serial).sent

instance (circuit : Circuit) (serial : Nat) : Decidable (circuit.SettledAt serial) :=
  inferInstanceAs (Decidable (_ ∧ _))

/-- Every route that was constructed has come to rest, and so have the replies. -/
structure AtRest (circuit : Circuit) : Prop where
  settled : ∀ serial < circuit.traffic.server.services.allocated, circuit.SettledAt serial
  replied : Drained circuit.traffic.server.repSend

/-- The services take what is brought to them, and what they send back arrives. -/
structure Complete (circuit : Circuit) : Prop extends Sound circuit where
  attentive : ∀ serial,
    (circuit.responders serial).Attentive (circuit.requests serial).delivered
  returned : ∀ serial, ∀ msg ∈ (circuit.replies serial).delivered,
    ∃ arrival ∈ circuit.traffic.arrivals, arrival.kind = .replied ∧ arrival.msg = msg

theorem Complete.attentive_step (complete : Complete circuit) {label : Label}
    (stepped : circuit.step label = some next) (serial : Nat) :
    (next.responders serial).Attentive (next.requests serial).delivered := by
  have before := complete.attentive serial
  cases moved_of_step stepped with
  | @request other _ _ _ moved =>
      by_cases same : serial = other
      · subst same
        simpa [Wire.deliver] using before.received (complete.legs serial).service moved
      · simpa [same] using before
  | @loseRequest other =>
      by_cases same : serial = other
      · subst same
        simpa [Wire.lose] using before
      · simpa [same] using before
  | @service other _ _ barren moved =>
      by_cases same : serial = other
      · subst same
        simpa using before.step barren moved
      · simpa [same] using before
  | server | reply | loseReply => exact before

/-- A reply is delivered by its arrival at the server. -/
theorem replied_of_step {label : Label} (stepped : circuit.step label = some next)
    (serial : Nat) {msg : NngMsg} (delivered : msg ∈ (next.replies serial).delivered) :
    msg ∈ (circuit.replies serial).delivered ∨
      ∃ arrival ∈ next.traffic.arrivals, arrival.kind = .replied ∧ arrival.msg = msg := by
  cases moved_of_step stepped with
  | @reply other sent _ _ moved =>
      by_cases same : serial = other
      · subst same
        simp only [Function.update_self, Wire.deliver, List.mem_append,
          List.mem_singleton] at delivered
        cases delivered with
        | inl earlier => exact .inl earlier
        | inr new =>
            refine .inr ⟨⟨.replied, sent, circuit.traffic.server.services⟩, ?_, rfl,
              new.symm⟩
            simp only [Traffic.arrivals_step moved, Traffic.Event.arrival]
            exact List.mem_append_right _ List.mem_cons_self
      · simp only [Function.update_of_ne same] at delivered
        exact .inl delivered
  | @loseReply other =>
      by_cases same : serial = other
      · subst same
        simp only [Function.update_self, Wire.lose] at delivered
        exact .inl delivered
      · simp only [Function.update_of_ne same] at delivered
        exact .inl delivered
  | server | request | loseRequest | service => exact .inl delivered

theorem Complete.step (complete : Complete circuit) {label : Label}
    (opensNew : circuit.OpensNew label)
    (stepped : circuit.step label = some next) : Complete next := by
  obtain ⟨more, arrivals, _⟩ := arrivals_of_step stepped
  refine ⟨complete.toSound.step opensNew stepped, complete.attentive_step stepped, ?_⟩
  intro serial msg delivered
  cases replied_of_step stepped serial delivered with
  | inl earlier =>
      obtain ⟨arrival, member, replied⟩ := complete.returned serial msg earlier
      rw [arrivals]
      exact ⟨arrival, List.mem_append_left _ member, replied⟩
  | inr new => exact new

/-! ## At rest -/

/-- What a route has had: its service has taken all the requests for it, each of which has
one response or is outstanding, and all the responses have come back. -/
structure Settled (destined : List NngMsg) (responder : Responder) (replies : Wire NngMsg) :
    Prop where
  taken : responder.taken = destined
  balanced : (responder.queries : Multiset Query) =
    (responder.responses.map Response.query : Multiset Query) + responder.outstanding
  returned : replies.delivered = responder.responses.map Response.reply
  tagged : responder.calls = [] →
    responder.responses = responder.served.filterMap Call.response

theorem Complete.settled (complete : Complete circuit) {serial : Nat}
    (settled : circuit.SettledAt serial) :
    Settled (circuit.traffic.destined .requested serial) (circuit.responders serial)
      (circuit.replies serial) := by
  obtain ⟨⟨drained, forwarded⟩, atRest, returned⟩ := settled
  obtain ⟨service, requests, _, replies⟩ := complete.legs serial
  obtain ⟨sent, responses⟩ := atRest.sent service
  rw [(complete.traffic.forwarding serial).sent_eq drained] at forwarded
  rw [sent] at returned
  refine ⟨?_, service.balanced, ?_, service.responses_eq⟩
  · rw [complete.attentive serial atRest.1, requests.delivered_eq forwarded]
  · rw [replies.delivered_eq returned, responses]

end Circuit

end Telling.Server
