import Mathlib.Algebra.Order.Group.Multiset
import Telling.Io.ReplyOrder
import Telling.Lib.Wire
import Telling.Server.Ingestion
import Telling.Service.Reactor

/-!
# Reactors that answer requests

A `Service` installs its handler in a `Reply` communicator.  The callback of the
communicator receives one request at a time, calls the handler, responds through the tag
and only then receives again.  Here the handler is a reactor.  It may keep state, so that
no two calls of it need be alike, and what it does not answer at once it may answer
later: any thread calls `respondTo` with the id of any query at any time.
-/

namespace Telling.Service

open Lib
open Io (Exchange NngError OutboxItem QueryID Receiver Reply)
open Server (NngMsg)

/-- A request, with the context that it came on. -/
structure Query where
  id : QueryID
  msg : NngMsg
  deriving DecidableEq, Repr

namespace Responder

/-- A response to a query.  It was given through the tag by a reactor, or by a call of
`respondTo`. -/
structure Response where
  query : Query
  body : Bytes
  reactor : Option Reactor

namespace Response

/-- What NNG sends: the context holds the routing header of the request. -/
def reply (response : Response) : NngMsg := ⟨response.query.msg.header, response.body⟩

def item (response : Response) : OutboxItem Response := ⟨response.query.id, response⟩

def tagged (response : Response) : Bool := response.reactor.isSome

end Response

/-- A call of `async_recv`, with the reactor as it stands in this call, and what
`isReady()` and the place of the query were at its end. -/
structure Call where
  query : Query
  reactor : Reactor
  ready : Bool
  outstanding : Bool

namespace Call

/-- The response that the call gives through the tag. -/
def response (call : Call) : Option Response :=
  if call.ready && call.outstanding then
    (call.reactor.recvReplying call.query.msg.body).dest.map fun body =>
      ⟨call.query, body, some call.reactor⟩
  else none

/-- An exception leaves the callback: that of the handler, or that of `respondTo` on a
communicator that is not ready or for a query that was answered meanwhile. -/
def Escapes (call : Call) : Prop :=
  (call.reactor.recvReplying call.query.msg.body).thrown.isSome ∨
    (call.reactor.recvReplying call.query.msg.body).dest.isSome ∧
      (call.ready && call.outstanding) = false

end Call

end Responder

open Responder (Response Call)

/-- A `Reply` communicator with a reactor for a handler. -/
structure Responder where
  reply : Reply Response
  /-- The query that `async_recv` is called for. -/
  current : Option Query := none
  /-- The request that came last on each context.  NNG keeps its routing header there. -/
  contexts : QueryID → NngMsg := fun _ => ⟨[], []⟩
  served : List Call := []
  /-- The calls of `respondTo`, without those of the callback. -/
  calls : List (QueryID × Option Bytes) := []
  /-- A receive has failed or has found no handler. -/
  aborted : Bool := false

namespace Responder

/-- A service that listens, after `initialize`. -/
def initial (ctx : QueryID) : Responder where
  reply := { ready := true, handler := true, receiver := .armed ctx }

inductive Label where
  | ready (value : Bool)
  | expire
  | received (msg : NngMsg)
  | failed (result : NngError)
  | serve (reactor : Reactor)
  | respondTo (id : QueryID) (body : Option Bytes)
  | rearm (ctx : QueryID)
  | sending (sending : Reply.Sending)

/-- `ServiceHandler::async_prep(Replying)` leaves the message as it is. -/
def prep (_ : QueryID) (msg : Option Response) : Option Response := msg

/-- The query whose context has the id. -/
def onContext (responder : Responder) (id : QueryID) : Query := ⟨id, responder.contexts id⟩

/-- `_aioReceived` up to the call of `async_recv`.  Without a handler the message is
dropped. -/
def receive (responder : Responder) (msg : NngMsg) : Option Responder :=
  match responder.reply.receiver with
  | .armed ctx =>
      (responder.reply.aioReceived .success).map fun reply =>
        if responder.reply.handler then
          { responder with
            reply := reply
            current := some ⟨ctx, msg⟩
            contexts := Function.update responder.contexts ctx msg }
        else { responder with reply := reply, aborted := true }
  | _ => none

/-- `_aioReceived` from the call of `async_recv` to the claim of the query. -/
def serve (responder : Responder) (reactor : Reactor) : Option Responder :=
  match responder.reply.receiver, responder.current with
  | .handling _, some query =>
      let handled := reactor.recvReplying query.msg.body
      let reply :=
        match handled.thrown with
        | some _ => some { responder.reply with receiver := .stopped }
        | none => responder.reply.handled prep (handled.dest.map fun body =>
            ⟨query, body, some reactor⟩)
      reply.map fun reply =>
        { responder with
          reply := reply
          current := none
          served := responder.served ++ [⟨query, reactor, responder.reply.ready,
            decide (query.id ∈ responder.reply.unresponded)⟩] }
  | _, _ => none

/-- `Service::respondTo`, up to the claim of the query.  The message may be null. -/
def respondTo (responder : Responder) (id : QueryID) (body : Option Bytes) : Responder :=
  { responder with
    reply := (responder.reply.respondTo prep id (body.map fun body =>
      ⟨responder.onContext id, body, none⟩)).toOption.getD responder.reply
    calls := responder.calls ++ [(id, body)] }

/-- One step.  The handler expires only outside the callback, and the callback receives
again after its own response has reached the outbox. -/
def step (responder : Responder) : Label → Option Responder
  | .ready value =>
      some { responder with reply := { responder.reply with ready := value } }
  | .expire =>
      match responder.reply.receiver with
      | .stopped | .armed _ =>
          some { responder with reply := { responder.reply with handler := false } }
      | _ => none
  | .received msg => responder.receive msg
  | .failed result =>
      if result = .success then none
      else (responder.reply.aioReceived result).map fun reply =>
        { responder with reply := reply, aborted := true }
  | .serve reactor => responder.serve reactor
  | .respondTo id body => some (responder.respondTo id body)
  | .rearm ctx =>
      if responder.reply.claimed.all fun item => !item.msg.tagged then
        (responder.reply.rearm ctx).map fun reply => { responder with reply := reply }
      else none
  | .sending sending =>
      (responder.reply.step prep sending.label).map fun reply =>
        { responder with reply := reply }

/-- A new context does not have the id of one that is open. -/
def OpensNew (responder : Responder) : Label → Prop
  | .rearm ctx => ctx ∉ responder.reply.unresponded
  | _ => True

instance (responder : Responder) : (label : Label) → Decidable (responder.OpensNew label)
  | .rearm _ => inferInstanceAs (Decidable (_ ∉ _))
  | .ready _ | .expire | .received _ | .failed _ | .serve _ | .respondTo _ _ | .sending _ =>
      isTrue trivial

/-! ## Queries and responses -/

/-- The queries for which `async_recv` was called, in the order of the calls. -/
def queries (responder : Responder) : List Query :=
  responder.served.map Call.query ++ responder.current.toList

/-- The responses that were given, the ones in the outbox first. -/
def responses (responder : Responder) : List Response :=
  (responder.reply.accepted ++ responder.reply.claimed).map OutboxItem.msg

/-- The queries without a response. -/
def outstanding (responder : Responder) : Multiset Query :=
  responder.reply.unresponded.val.map responder.onContext

/-- Where a response comes from: a call of the reactor, or a call of `respondTo` with the
id of the query. -/
def Gave (responder : Responder) (response : Response) : Prop :=
  (∃ call ∈ responder.served, call.response = some response) ∨
    response.reactor = none ∧
      (response.query.id, some response.body) ∈ responder.calls

/-! ## What a call of the reactor does -/

/-- When `_handle` throws, it has left no reply. -/
theorem dest_of_thrown {reactor : Reactor} {msg : Bytes}
    (thrown : (reactor.recvReplying msg).thrown.isSome) :
    (reactor.recvReplying msg).dest = none := by
  have caught (ran : List Handler) (exception : Exception)
      (thrown : (reactor.caught ⟨true⟩ ran exception).thrown.isSome) :
      (reactor.caught ⟨true⟩ ran exception).dest = none := by
    unfold Reactor.caught at thrown ⊢
    cases written : exception.reply reactor.uriPrefix with
    | ok reply => simp [written] at thrown
    | error failure => simp
  unfold Reactor.recvReplying Reactor.handle at thrown ⊢
  cases parsed : Msg.MsgView.parse msg .request with
  | error failure =>
      rw [parsed] at thrown
      exact caught _ _ thrown
  | ok request =>
      rw [parsed] at thrown
      dsimp only at thrown ⊢
      split at thrown
      · next inside =>
          rw [if_pos inside]
          unfold Reactor.dispatch at thrown ⊢
          cases served : handlerOf request.method with
          | none => rfl
          | some handler =>
              rw [served] at thrown
              dsimp only at thrown ⊢
              cases reaction : reactor.react handler request with
              | replies reply => simp [reaction] at thrown
              | defers => rfl
              | throws exception =>
                  rw [reaction] at thrown
                  exact caught _ _ thrown
              | terminates => rfl
      · next outside =>
          rw [if_neg outside]
          exact caught _ _ thrown

theorem Call.query_of_response {call : Call} {response : Response}
    (responds : call.response = some response) :
    response.query = call.query ∧ response.reactor = some call.reactor := by
  unfold Call.response at responds
  split at responds
  · obtain ⟨body, _, rfl⟩ := Option.map_eq_some_iff.mp responds
    exact ⟨rfl, rfl⟩
  · contradiction

variable {responder next : Responder} {response : Response}

/-- The receiver stops without having received anything. -/
def abort (responder : Responder) : Responder :=
  { responder with
    reply := { responder.reply with receiver := .stopped }
    aborted := true }

/-- A request has come on the context, and `async_recv` is called for it. -/
def take (responder : Responder) (ctx : QueryID) (msg : NngMsg) : Responder :=
  { responder with
    reply := { responder.reply with
      unresponded := insert ctx responder.reply.unresponded
      receiver := .handling ctx }
    current := some ⟨ctx, msg⟩
    contexts := Function.update responder.contexts ctx msg }

theorem receive_cases {msg : NngMsg} (stepped : responder.receive msg = some next) :
    ∃ ctx, responder.reply.receiver = .armed ctx ∧
      (next = responder.abort ∨
        responder.reply.handler = true ∧ next = responder.take ctx msg) := by
  unfold receive at stepped
  split at stepped
  · next ctx armed =>
      refine ⟨ctx, armed, ?_⟩
      cases live : responder.reply.handler with
      | false =>
          simp only [Reply.aioReceived, armed, live, Bool.not_false, if_true,
            Bool.false_eq_true, if_false, Option.map_some, Option.some.injEq] at stepped
          exact .inl (stepped ▸ live ▸ rfl)
      | true =>
          simp only [Reply.aioReceived, armed, live, Bool.not_true, if_true,
            Bool.false_eq_true, if_false, Option.map_some, Option.some.injEq] at stepped
          exact .inr ⟨rfl, stepped ▸ live ▸ rfl⟩
  · contradiction

/-- A receive that fails stops the receiver. -/
theorem step_failed {result : NngError} (stepped : responder.step (.failed result) = some next) :
    ∃ ctx, responder.reply.receiver = .armed ctx ∧ next = responder.abort := by
  simp only [step] at stepped
  split at stepped
  · contradiction
  · next failure =>
      obtain ⟨reply, received, rfl⟩ := Option.map_eq_some_iff.mp stepped
      cases armed : responder.reply.receiver with
      | armed ctx =>
          have stops : reply = { responder.reply with receiver := .stopped } := by
            cases result with
            | success => exact absurd rfl failure
            | _ => simpa [Reply.aioReceived, armed] using received.symm
          rw [stops]
          exact ⟨ctx, rfl, rfl⟩
      | _ => simp [Reply.aioReceived, armed] at received

/-- The query is claimed by a response. -/
def claim (responder : Responder) (response : Response) : Responder :=
  { responder with
    reply := { responder.reply with
      unresponded := responder.reply.unresponded.erase response.query.id
      claimed := responder.reply.claimed ++ [response.item] } }

/-- The callback has come to the end of a call of `async_recv`. -/
def conclude (responder : Responder) (receiver : Receiver) (call : Call) : Responder :=
  { responder with
    reply := { responder.reply with receiver := receiver }
    current := none
    served := responder.served ++ [call] }

/-- After a call the query is claimed by its response, or it stays as it was. -/
inductive Served (responder : Responder) (call : Call) : Responder → Prop where
  | answered {response : Response} : call.response = some response →
      response.query.id ∈ responder.reply.unresponded →
      Served responder call ((responder.claim response).conclude .returning call)
  | unanswered {receiver : Receiver} : call.response = none →
      receiver = .returning ∨ receiver = .stopped ∧ call.Escapes →
      Served responder call (responder.conclude receiver call)

/-- How the callback ends a call of `async_recv` that has returned: without a response,
with one that claims the query, or with one that is refused. -/
theorem handled_cases {reply after : Reply Response} {id : QueryID}
    {given : Option Response} (handling : reply.receiver = .handling id)
    (live : reply.handler = true) (handled : reply.handled prep given = some after) :
    given = none ∧ after = { reply with receiver := .returning } ∨
      (∃ response, given = some response ∧ reply.ready = true ∧ id ∈ reply.unresponded ∧
        after = { reply with
          unresponded := reply.unresponded.erase id
          claimed := reply.claimed ++ [⟨id, response⟩]
          receiver := .returning }) ∨
      given.isSome ∧ (reply.ready && decide (id ∈ reply.unresponded)) = false ∧
        after = { reply with receiver := .stopped } := by
  cases given with
  | none =>
      simp only [Reply.handled, handling, Option.some.injEq] at handled
      exact .inl ⟨rfl, handled.symm⟩
  | some response =>
      by_cases accepts : reply.ready = true ∧ id ∈ reply.unresponded
      · obtain ⟨ready, outstanding⟩ := accepts
        have claims := Reply.respondTo_of_outstanding ready live
          (rfl : prep id (some response) = some response) outstanding
        simp only [Reply.handled, handling, claims, Option.some.injEq] at handled
        exact .inr (.inl ⟨response, rfl, ready, outstanding, handled.symm⟩)
      · have refuses : ∃ error, reply.respondTo prep id (some response) = .error error := by
          by_cases ready : reply.ready = true
          · have answered : id ∉ reply.unresponded :=
              fun outstanding => accepts ⟨ready, outstanding⟩
            exact ⟨.inval, by simp [Reply.respondTo, ready, live, prep, answered]⟩
          · exact ⟨.closed, by simp [Reply.respondTo, ready]⟩
        obtain ⟨error, refused⟩ := refuses
        simp only [Reply.handled, handling, refused, Option.some.injEq] at handled
        exact .inr (.inr ⟨rfl, by simpa using accepts, handled.symm⟩)

/-! ## What a step does -/

/-- The call of `async_recv` for the query, as it will be logged. -/
def calling (responder : Responder) (query : Query) (reactor : Reactor) : Call :=
  ⟨query, reactor, responder.reply.ready, decide (query.id ∈ responder.reply.unresponded)⟩

/-- One case for each way that a step returns. -/
inductive Moved (responder : Responder) : Label → Responder → Prop where
  | ready {value : Bool} : Moved responder (.ready value)
      { responder with reply := { responder.reply with ready := value } }
  | expired : (∀ id, responder.reply.receiver ≠ .handling id) → Moved responder .expire
      { responder with reply := { responder.reply with handler := false } }
  | dropped {ctx : QueryID} {msg : NngMsg} : responder.reply.receiver = .armed ctx →
      Moved responder (.received msg) responder.abort
  | taken {ctx : QueryID} {msg : NngMsg} : responder.reply.receiver = .armed ctx →
      responder.reply.handler = true →
      Moved responder (.received msg) (responder.take ctx msg)
  | failed {ctx : QueryID} {result : NngError} : responder.reply.receiver = .armed ctx →
      Moved responder (.failed result) responder.abort
  | threw {query : Query} {reactor : Reactor} : responder.current = some query →
      (reactor.recvReplying query.msg.body).thrown.isSome →
      Moved responder (.serve reactor)
        (responder.conclude .stopped (responder.calling query reactor))
  | returned {query : Query} {reactor : Reactor} {reply : Reply Response} :
      responder.current = some query →
      responder.reply.handled prep ((reactor.recvReplying query.msg.body).dest.map
        fun body => ⟨query, body, some reactor⟩) = some reply →
      Moved responder (.serve reactor)
        { responder with
          reply := reply
          current := none
          served := responder.served ++ [responder.calling query reactor] }
  | passed {id : QueryID} {body : Option Bytes} : Moved responder (.respondTo id body)
      { responder with calls := responder.calls ++ [(id, body)] }
  | responded {id : QueryID} {body : Bytes} : id ∈ responder.reply.unresponded →
      Moved responder (.respondTo id (some body))
        { responder.claim ⟨responder.onContext id, body, none⟩ with
          calls := responder.calls ++ [(id, some body)] }
  | rearmed {ctx : QueryID} {reply : Reply Response} :
      (responder.reply.claimed.all fun item => !item.msg.tagged) →
      responder.reply.rearm ctx = some reply →
      Moved responder (.rearm ctx) { responder with reply := reply }
  | sent {sending : Reply.Sending} {reply : Reply Response} :
      responder.reply.step prep sending.label = some reply →
      Moved responder (.sending sending) { responder with reply := reply }

theorem moved_of_serve {reactor : Reactor} (stepped : responder.serve reactor = some next) :
    Moved responder (.serve reactor) next := by
  unfold serve at stepped
  split at stepped
  · next id query _ current =>
      obtain ⟨reply, concluded, rfl⟩ := Option.map_eq_some_iff.mp stepped
      split at concluded
      · next failure thrown =>
          obtain rfl := Option.some.inj concluded
          exact .threw current (by rw [thrown]; rfl)
      · exact .returned current concluded
  · contradiction

theorem moved_of_respondTo (responder : Responder) (id : QueryID) (body : Option Bytes) :
    Moved responder (.respondTo id body) (responder.respondTo id body) := by
  unfold respondTo
  cases returned : responder.reply.respondTo prep id (body.map fun body =>
      ⟨responder.onContext id, body, none⟩) with
  | error error => exact .passed
  | ok responded =>
      rcases Reply.respondTo_eq_ok returned with rfl | ⟨prepared, given, outstanding, rfl⟩
      · exact .passed
      · obtain ⟨text, rfl, rfl⟩ := Option.map_eq_some_iff.mp given
        exact .responded outstanding

theorem moved_of_step {label : Label} (stepped : responder.step label = some next) :
    Moved responder label next := by
  cases label with
  | ready value => exact Option.some.inj stepped ▸ .ready
  | expire =>
      have outside : ∀ id, responder.reply.receiver ≠ .handling id := by
        intro id handling
        simp [step, handling] at stepped
      simp only [step] at stepped
      split at stepped
      · exact Option.some.inj stepped ▸ .expired outside
      · exact Option.some.inj stepped ▸ .expired outside
      · contradiction
  | received msg =>
      obtain ⟨ctx, armed, rfl | ⟨live, rfl⟩⟩ := receive_cases stepped
      · exact .dropped armed
      · exact .taken armed live
  | failed result =>
      obtain ⟨ctx, armed, rfl⟩ := step_failed stepped
      exact .failed armed
  | serve reactor => exact moved_of_serve stepped
  | respondTo id body => exact Option.some.inj stepped ▸ moved_of_respondTo responder id body
  | rearm ctx =>
      simp only [step] at stepped
      split at stepped
      · next handedOn =>
          obtain ⟨reply, rearmed, rfl⟩ := Option.map_eq_some_iff.mp stepped
          exact .rearmed handedOn rearmed
      · contradiction
  | sending sending =>
      obtain ⟨reply, sent, rfl⟩ := Option.map_eq_some_iff.mp stepped
      exact .sent sent

/-- The message that a receive brings. -/
def Label.brings : Label → Option NngMsg
  | .received msg => some msg
  | _ => none

/-- What a step does to the logs: nothing but perhaps a call of `respondTo`, or a request
is taken, or the one that was taken is served. -/
inductive Logged (responder : Responder) (label : Label) (next : Responder) : Prop where
  | kept (served : next.served = responder.served)
      (current : next.current = responder.current) (calls : responder.calls <+: next.calls)
  | taken (query : Query) (brings : label.brings = some query.msg)
      (served : next.served = responder.served) (current : next.current = some query)
      (calls : next.calls = responder.calls)
  | served (call : Call) (serves : label = .serve call.reactor)
      (was : responder.current = some call.query)
      (place : call.outstanding = decide (call.query.id ∈ responder.reply.unresponded))
      (served : next.served = responder.served ++ [call]) (current : next.current = none)
      (calls : next.calls = responder.calls)

theorem logged_of_step {label : Label} (stepped : responder.step label = some next) :
    Logged responder label next := by
  cases moved_of_step stepped with
  | @taken ctx msg => exact .taken ⟨ctx, msg⟩ rfl rfl rfl rfl
  | threw current | returned current => exact .served _ rfl current rfl rfl rfl rfl
  | passed | responded => exact .kept rfl rfl (List.prefix_append _ _)
  | ready | expired | dropped | failed | rearmed | sent =>
      exact .kept rfl rfl List.prefix_rfl

/-! ## The invariant -/

/-- Every query is outstanding or has one response, on its own context; the responses
given through the tags are those of the reactor's calls, in their order. -/
structure Sound (responder : Responder) : Prop where
  orderly : responder.reply.view.Orderly
  balanced : (responder.queries : Multiset Query) =
    (responder.responses.map Response.query : Multiset Query) + responder.outstanding
  own : ∀ item ∈ responder.reply.accepted ++ responder.reply.claimed,
    item = item.msg.item
  tagged : responder.responses.filter Response.tagged =
    responder.served.filterMap Call.response
  later : ∀ response ∈ responder.responses, response.reactor = none →
    (response.query.id, some response.body) ∈ responder.calls
  single : (responder.reply.claimed.filter fun item => item.msg.tagged).length ≤ 1
  claimed : responder.reply.claimed.filter (fun item => item.msg.tagged) ≠ [] →
    responder.reply.receiver = .returning
  live : ∀ id, responder.reply.receiver = .handling id → responder.reply.handler = true
  current : ∀ id, responder.reply.receiver = .handling id →
    responder.current = some (responder.onContext id)
  idle : (∀ id, responder.reply.receiver ≠ .handling id) → responder.current = none
  fresh : ∀ ctx, responder.reply.receiver = .armed ctx → ctx ∉ responder.reply.unresponded
  goesOn : responder.reply.receiver = .stopped →
    responder.aborted = true ∨ ∃ call ∈ responder.served, call.Escapes

theorem sound_initial (ctx : QueryID) : (initial ctx).Sound where
  orderly := Turnstile.Orderly.empty
  balanced := by simp [initial, queries, responses, outstanding]
  own := by simp [initial]
  tagged := rfl
  later := by simp [initial, responses]
  single := by simp [initial]
  claimed := by simp [initial]
  live := by simp [initial]
  current := by simp [initial]
  idle := by simp [initial]
  fresh := by simp [initial]
  goesOn := by simp [initial]

theorem Sound.gave (sound : responder.Sound) (given : response ∈ responder.responses) :
    responder.Gave response := by
  cases giver : response.reactor with
  | none => exact .inr ⟨giver, sound.later response given giver⟩
  | some reactor =>
      have tagged : response ∈ responder.responses.filter Response.tagged :=
        List.mem_filter.mpr ⟨given, by simp [Response.tagged, giver]⟩
      rw [sound.tagged] at tagged
      exact .inl (List.mem_filterMap.mp tagged)

/-- Without calls of `respondTo` there are no other responses than the reactor's. -/
theorem Sound.responses_eq (sound : responder.Sound) (alone : responder.calls = []) :
    responder.responses = responder.served.filterMap Call.response := by
  rw [← sound.tagged, List.filter_eq_self.mpr]
  intro response given
  by_contra untagged
  have later := sound.later response given (by simpa [Response.tagged] using untagged)
  rw [alone] at later
  contradiction

theorem Sound.handling_of_current (sound : responder.Sound) {query : Query}
    (current : responder.current = some query) :
    responder.reply.receiver = .handling query.id := by
  cases receiver : responder.reply.receiver with
  | handling id =>
      rw [sound.current id receiver, Option.some.injEq] at current
      rw [← current]
      rfl
  | _ => simp [sound.idle (by simp [receiver])] at current

theorem responded_sublist (served : List Call) :
    ((served.filterMap Call.response).map Response.query).Sublist
      (served.map Call.query) := by
  rw [List.map_filterMap, ← List.filterMap_eq_map]
  apply filterMap_sublist_filterMap
  intro call query responds
  obtain ⟨response, given, rfl⟩ := Option.map_eq_some_iff.mp responds
  exact congrArg some (Call.query_of_response given).1.symm

/-- No query has two responses. -/
theorem Sound.answered_subperm (sound : responder.Sound) :
    (responder.responses.map Response.query).Subperm responder.queries := by
  rw [← Multiset.coe_le, sound.balanced]
  exact Multiset.le_add_right _ _

theorem Sound.answered_sublist (sound : responder.Sound) (alone : responder.calls = []) :
    (responder.responses.map Response.query).Sublist responder.queries := by
  rw [sound.responses_eq alone]
  exact (responded_sublist responder.served).trans (List.sublist_append_left _ _)

/-! ### Receiving -/

theorem Sound.abort (sound : responder.Sound) {ctx : QueryID}
    (armed : responder.reply.receiver = .armed ctx) : responder.abort.Sound where
  orderly := sound.orderly
  balanced := sound.balanced
  own := sound.own
  tagged := sound.tagged
  later := sound.later
  single := sound.single
  claimed nonempty := by simpa [armed] using sound.claimed nonempty
  live := by simp [Responder.abort]
  current := by simp [Responder.abort]
  idle _ := sound.idle (by simp [armed])
  fresh := by simp [Responder.abort]
  goesOn := by simp [Responder.abort]

/-- The query that came is outstanding, and so are those that were. -/
theorem outstanding_take {ctx : QueryID} (new : ctx ∉ responder.reply.unresponded)
    (msg : NngMsg) :
    (responder.take ctx msg).outstanding = ⟨ctx, msg⟩ ::ₘ responder.outstanding := by
  have others : responder.reply.unresponded.val.map (responder.take ctx msg).onContext =
      responder.outstanding := by
    refine Multiset.map_congr rfl fun id member => ?_
    have other : id ≠ ctx := by
      rintro rfl
      exact new member
    simp [take, onContext, Function.update_of_ne other]
  have first : (responder.take ctx msg).onContext ctx = ⟨ctx, msg⟩ := by
    simp [take, onContext]
  have inserted : (responder.take ctx msg).reply.unresponded.val =
      ctx ::ₘ responder.reply.unresponded.val := Finset.insert_val_of_notMem new
  rw [outstanding, inserted, Multiset.map_cons, first, others]

theorem Sound.take (sound : responder.Sound) {ctx : QueryID}
    (armed : responder.reply.receiver = .armed ctx) (live : responder.reply.handler = true)
    (msg : NngMsg) : (responder.take ctx msg).Sound where
  orderly := sound.orderly
  balanced := by
    have before := sound.balanced
    rw [queries, sound.idle (by simp [armed]), Option.toList_none, List.append_nil] at before
    have after : (responder.take ctx msg).queries =
        responder.served.map Call.query ++ [⟨ctx, msg⟩] := rfl
    rw [after, ← Multiset.coe_add, before, outstanding_take (sound.fresh ctx armed),
      add_assoc, Multiset.coe_singleton, add_comm _ {_}, Multiset.singleton_add]
    rfl
  own := sound.own
  tagged := sound.tagged
  later := sound.later
  single := sound.single
  claimed nonempty := by simpa [armed] using sound.claimed nonempty
  live _ _ := live
  current id handling := by
    obtain rfl := Receiver.handling.inj handling
    simp [Responder.take, onContext]
  idle outside := absurd rfl (outside ctx)
  fresh := by simp [Responder.take]
  goesOn := by simp [Responder.take]

theorem Sound.rearm (sound : responder.Sound) {ctx : QueryID} {reply : Reply Response}
    (opensNew : ctx ∉ responder.reply.unresponded)
    (handedOn : responder.reply.claimed.all fun item => !item.msg.tagged)
    (stepped : responder.reply.rearm ctx = some reply) :
    Sound { responder with reply := reply } := by
  have none : responder.reply.claimed.filter (fun item => item.msg.tagged) = [] := by
    simpa using handedOn
  cases returning : responder.reply.receiver with
  | returning =>
      simp only [Reply.rearm, returning, Option.some.injEq] at stepped
      subst stepped
      refine ⟨sound.orderly, sound.balanced, sound.own, sound.tagged, sound.later,
        sound.single, fun nonempty => absurd none nonempty, by simp, by simp,
        fun _ => sound.idle (by simp [returning]), ?_, by simp⟩
      intro other armed
      exact Receiver.armed.inj armed ▸ opensNew
  | _ => simp [Reply.rearm, returning] at stepped

/-! ### Responding -/

theorem outstanding_claim (outstanding : response.query.id ∈ responder.reply.unresponded)
    (own : response.query = responder.onContext response.query.id) :
    response.query ::ₘ (responder.claim response).outstanding = responder.outstanding := by
  unfold Responder.outstanding claim
  rw [Finset.erase_val]
  nth_rewrite 1 [own]
  exact (Multiset.map_cons _ _ _).symm.trans
    (congrArg _ (Multiset.cons_erase (Finset.mem_val.mpr outstanding)))

theorem responses_claim (responder : Responder) (response : Response) :
    (responder.claim response).responses = responder.responses ++ [response] := by
  simp [responses, claim, Response.item]

/-- A claim moves its query from the outstanding ones to the answered ones. -/
theorem balanced_claim (sound : responder.Sound)
    (outstanding : response.query.id ∈ responder.reply.unresponded)
    (own : response.query = responder.onContext response.query.id) :
    (responder.queries : Multiset Query) =
      ((responder.claim response).responses.map Response.query : Multiset Query) +
        (responder.claim response).outstanding := by
  rw [sound.balanced, ← outstanding_claim outstanding own, responses_claim, List.map_append,
    ← Multiset.coe_add, add_assoc]
  rfl

theorem own_claim (sound : responder.Sound) (response : Response) :
    ∀ item ∈ (responder.claim response).reply.accepted ++
      (responder.claim response).reply.claimed, item = item.msg.item := by
  intro item member
  rw [claim, ← List.append_assoc, List.mem_append, List.mem_singleton] at member
  rcases member with earlier | rfl
  · exact sound.own item earlier
  · rfl

theorem Sound.passed (sound : responder.Sound) (id : QueryID) (body : Option Bytes) :
    Sound { responder with calls := responder.calls ++ [(id, body)] } where
  orderly := sound.orderly
  balanced := sound.balanced
  own := sound.own
  tagged := sound.tagged
  later response given untagged :=
    List.mem_append_left _ (sound.later response given untagged)
  single := sound.single
  claimed := sound.claimed
  live := sound.live
  current := sound.current
  idle := sound.idle
  fresh := sound.fresh
  goesOn := sound.goesOn

theorem Sound.responded (sound : responder.Sound) {id : QueryID} (body : Bytes)
    (outstanding : id ∈ responder.reply.unresponded) :
    Sound { responder.claim ⟨responder.onContext id, body, none⟩ with
      calls := responder.calls ++ [(id, some body)] } := by
  let response : Response := ⟨responder.onContext id, body, none⟩
  have balanced := @balanced_claim responder response sound outstanding rfl
  have noMore : (responder.claim response).reply.claimed.filter
      (fun item => item.msg.tagged) =
        responder.reply.claimed.filter fun item => item.msg.tagged := by
    simp [claim, response, Response.item, Response.tagged]
  refine ⟨sound.orderly, balanced, own_claim sound response, ?_, ?_, ?_, ?_, sound.live,
    sound.current, sound.idle, ?_, sound.goesOn⟩
  · refine (congrArg _ (responses_claim responder response)).trans ?_
    rw [List.filter_append, sound.tagged]
    simp [response, Response.tagged, claim]
  · intro other given byCall
    rcases List.mem_append.mp (responses_claim responder response ▸ given) with
      earlier | new
    · exact List.mem_append_left _ (sound.later other earlier byCall)
    · obtain rfl := List.mem_singleton.mp new
      exact List.mem_append_right _ List.mem_cons_self
  · exact noMore ▸ sound.single
  · exact fun nonempty => sound.claimed (noMore ▸ nonempty)
  · exact fun ctx armed member => sound.fresh ctx armed (Finset.mem_of_mem_erase member)

theorem queries_conclude {query : Query} (current : responder.current = some query)
    (receiver : Receiver) {call : Call} (calls : call.query = query) :
    (responder.conclude receiver call).queries = responder.queries := by
  simp [queries, conclude, current, calls]

theorem responses_conclude (responder : Responder) (receiver : Receiver) (call : Call) :
    (responder.conclude receiver call).responses = responder.responses := rfl

/-- After a call the query is claimed by its response, or it stays as it was. -/
theorem served_of_moved {query : Query} {reactor : Reactor}
    (handling : responder.reply.receiver = .handling query.id)
    (current : responder.current = some query) (live : responder.reply.handler = true)
    (moved : Moved responder (.serve reactor) next) :
    Served responder (responder.calling query reactor) next := by
  cases moved with
  | threw was thrown =>
      obtain rfl := Option.some.inj (was.symm.trans current)
      exact .unanswered (by simp [Call.response, calling, dest_of_thrown thrown])
        (.inr ⟨rfl, .inl thrown⟩)
  | returned was handled =>
      obtain rfl := Option.some.inj (was.symm.trans current)
      rcases handled_cases handling live handled with
        ⟨silent, rfl⟩ | ⟨response, given, ready, outstanding, rfl⟩ | ⟨given, closed, rfl⟩
      · rw [Option.map_eq_none_iff] at silent
        exact .unanswered (by simp [Call.response, calling, silent]) (.inl rfl)
      · obtain ⟨body, replied, rfl⟩ := Option.map_eq_some_iff.mp given
        refine @Served.answered responder _ ⟨_, body, some reactor⟩ ?_ outstanding
        simp [Call.response, calling, ready, outstanding, replied]
      · rw [Option.isSome_map] at given
        refine .unanswered ?_ (.inr ⟨rfl, .inr ⟨given, closed⟩⟩)
        simp only [Call.response, calling, closed]
        rfl

/-- While a query is handled, no response of the callback waits for the outbox. -/
theorem Sound.none_tagged (sound : responder.Sound) {id : QueryID}
    (handling : responder.reply.receiver = .handling id) :
    responder.reply.claimed.filter (fun item => item.msg.tagged) = [] := by
  by_contra nonempty
  simpa [handling] using sound.claimed nonempty

theorem Sound.answered (sound : responder.Sound) {id : QueryID} {call : Call}
    (handling : responder.reply.receiver = .handling id)
    (asked : call.query = responder.onContext id) (responds : call.response = some response)
    (outstanding : response.query.id ∈ responder.reply.unresponded) :
    ((responder.claim response).conclude .returning call).Sound := by
  obtain ⟨answers, giver⟩ := Call.query_of_response responds
  have own : response.query = responder.onContext response.query.id := by
    rw [answers, asked]
    rfl
  have tagged : response.tagged = true := by simp [Response.tagged, giver]
  refine ⟨sound.orderly, ?_, own_claim sound response, ?_, ?_, ?_, fun _ => rfl,
    by simp [conclude], by simp [conclude], fun _ => rfl, by simp [conclude],
    by simp [conclude]⟩
  · rw [@queries_conclude (responder.claim response) _ (sound.current id handling) _ _ asked]
    exact balanced_claim sound outstanding own
  · rw [responses_conclude, responses_claim, List.filter_append, sound.tagged]
    simp [tagged, conclude, claim, responds]
  · intro other given untagged
    rcases List.mem_append.mp (responses_claim responder _ ▸ given) with earlier | new
    · exact sound.later other earlier untagged
    · obtain rfl := List.mem_singleton.mp new
      rw [giver] at untagged
      contradiction
  · simp [conclude, claim, sound.none_tagged handling, Response.item, tagged]

theorem Sound.unanswered (sound : responder.Sound) {id : QueryID} {call : Call}
    {receiver : Receiver} (handling : responder.reply.receiver = .handling id)
    (asked : call.query = responder.onContext id) (silent : call.response = none)
    (ends : receiver = .returning ∨ receiver = .stopped ∧ call.Escapes) :
    (responder.conclude receiver call).Sound := by
  have outside : ∀ other, receiver ≠ .handling other := by
    rcases ends with rfl | ⟨rfl, _⟩ <;> simp
  refine ⟨sound.orderly, ?_, sound.own, ?_, sound.later, sound.single,
    fun nonempty => absurd (sound.none_tagged handling) nonempty,
    fun other handled => absurd handled (outside other),
    fun other handled => absurd handled (outside other), fun _ => rfl, ?_, ?_⟩
  · rw [queries_conclude (sound.current id handling) _ asked]
    exact sound.balanced
  · rw [responses_conclude, sound.tagged]
    simp [conclude, silent]
  · intro ctx armed
    rcases ends with rfl | ⟨rfl, _⟩ <;> simp [conclude] at armed
  · intro stopped
    rcases ends with rfl | ⟨_, escapes⟩
    · simp [conclude] at stopped
    · exact .inr ⟨call, List.mem_append_right _ List.mem_cons_self, escapes⟩

theorem Sound.serve (sound : responder.Sound) {reactor : Reactor}
    (moved : Moved responder (.serve reactor) next) : next.Sound := by
  obtain ⟨query, current⟩ : ∃ query, responder.current = some query := by
    cases moved with
    | threw current | returned current => exact ⟨_, current⟩
  have handling := sound.handling_of_current current
  have asked : query = responder.onContext query.id :=
    Option.some.inj (current.symm.trans (sound.current _ handling))
  cases served_of_moved handling current (sound.live _ handling) moved with
  | answered responds outstanding =>
      exact sound.answered handling asked responds outstanding
  | unanswered silent ends => exact sound.unanswered handling asked silent ends

theorem Sound.sending (sound : responder.Sound) {sending : Reply.Sending}
    {reply : Reply Response} (stepped : responder.reply.step prep sending.label = some reply) :
    Sound { responder with reply := reply } := by
  obtain ⟨_, handler, receiver, unresponded, items⟩ := Reply.Sending.frame stepped
  have noCall : Exchange.call responder.reply
      (sending.label : Reply.Label Response) = [] := by cases sending <;> rfl
  obtain ⟨order, fewer⟩ := Exchange.filter_of_effect (fun item => item.msg.tagged)
    (Exchange.effect_of_step stepped) noCall sound.single
  have same : ({ responder with reply := reply } : Responder).responses.Perm
      responder.responses := items.map _
  refine ⟨Exchange.orderly_step sound.orderly stepped, ?_, ?_, ?_, ?_,
    fewer.trans sound.single, ?_, ?_, ?_, ?_, ?_, ?_⟩
  · rw [outstanding, unresponded, Multiset.coe_eq_coe.mpr (same.map Response.query)]
    exact sound.balanced
  · exact fun item member => sound.own item (items.mem_iff.mp member)
  · refine Eq.trans ?_ sound.tagged
    rw [responses, responses, List.filter_map, List.filter_map]
    exact congrArg _ order
  · exact fun response given => sound.later response (same.mem_iff.mp given)
  · intro nonempty
    refine receiver.trans (sound.claimed fun empty => nonempty ?_)
    rw [empty] at fewer
    exact List.length_eq_zero_iff.mp (Nat.le_zero.mp fewer)
  · exact fun id handling => handler.trans (sound.live id (receiver ▸ handling))
  · exact fun id handling => sound.current id (receiver ▸ handling)
  · exact fun outside => sound.idle fun id handling => outside id (receiver.trans handling)
  · intro ctx armed
    rw [unresponded]
    exact sound.fresh ctx (receiver ▸ armed)
  · exact fun stopped => sound.goesOn (receiver ▸ stopped)

theorem Sound.step (sound : responder.Sound) {label : Label}
    (opensNew : responder.OpensNew label)
    (stepped : responder.step label = some next) : next.Sound := by
  cases moved_of_step stepped with
  | ready =>
      exact ⟨sound.orderly, sound.balanced, sound.own, sound.tagged, sound.later,
        sound.single, sound.claimed, sound.live, sound.current, sound.idle, sound.fresh,
        sound.goesOn⟩
  | expired outside =>
      exact ⟨sound.orderly, sound.balanced, sound.own, sound.tagged, sound.later,
        sound.single, sound.claimed, fun id handling => absurd handling (outside id),
        sound.current, sound.idle, sound.fresh, sound.goesOn⟩
  | dropped armed => exact sound.abort armed
  | taken armed live => exact sound.take armed live _
  | failed armed => exact sound.abort armed
  | threw | returned => exact sound.serve (moved_of_step stepped)
  | passed => exact sound.passed _ _
  | responded outstanding => exact sound.responded _ outstanding
  | rearmed handedOn rearmed => exact sound.rearm opensNew handedOn rearmed
  | sent sent => exact sound.sending sent

theorem sound_of_run {ctx : QueryID} {labels : List Label} {final : Responder}
    (opensNew : Meets step OpensNew (initial ctx) labels)
    (reached : run step (initial ctx) labels = some final) : final.Sound :=
  invariant_of_run Sound (sound_initial ctx)
    (fun _ _ _ sound opensNew stepped => sound.step opensNew stepped) opensNew reached

theorem Sound.sent_beginning (sound : responder.Sound) :
    responder.reply.aioSend.sent <+: responder.reply.accepted := by
  have fifo := sound.orderly.fifo
  rw [List.append_assoc] at fifo
  exact ⟨_, fifo⟩

/-! ## Whole runs -/

/-- In every run each query is outstanding or has exactly one response, which goes out on
its context and was given for it by a call of the reactor or of `respondTo`.  The
responses are sent in the order of the outbox, and those given through the tags enter it
in the order of the requests.  The communicator stops to receive only because a receive
failed, the handler expired, or an exception left the callback. -/
theorem queries_are_answered_once (ctx : QueryID) (labels : List Label) (final : Responder)
    (opensNew : Meets step OpensNew (initial ctx) labels)
    (reached : run step (initial ctx) labels = some final) :
    (final.queries : Multiset Query) =
        (final.responses.map Response.query : Multiset Query) + final.outstanding ∧
      (∀ item ∈ final.reply.accepted ++ final.reply.claimed,
        item.ctx = item.msg.query.id ∧ final.Gave item.msg) ∧
      final.reply.aioSend.sent <+: final.reply.accepted ∧
      final.responses.filter Response.tagged = final.served.filterMap Call.response ∧
      (final.calls = [] → final.responses = final.served.filterMap Call.response) ∧
      (final.reply.receiver = .stopped →
        final.aborted = true ∨ ∃ call ∈ final.served, call.Escapes) := by
  have sound := sound_of_run opensNew reached
  refine ⟨sound.balanced, fun item member => ⟨?_, ?_⟩, sound.sent_beginning, sound.tagged,
    sound.responses_eq, sound.goesOn⟩
  · exact congrArg OutboxItem.ctx (sound.own item member)
  · exact sound.gave (List.mem_map_of_mem member)

/-- A reactor that answers GET later. -/
def deferrer : Reactor where
  uriPrefix := ascii "/a"
  allowed := fun _ => ⟨2⟩
  overrides
    | .get => some fun _ => .defers
    | _ => none
  implementsGet := rfl

/-- The first request is deferred; when the second one comes the handler answers at once,
and the response to the first one follows. -/
def twoRequests : List Label :=
  [.received ⟨[1], ascii "GET /a Tell/0\n\n"⟩, .serve deferrer, .rearm 2,
    .received ⟨[2], ascii "GET /a Tell/0\n\n"⟩, .serve .greeter,
    .respondTo 1 (some (ascii "late")), .sending (.enqueue 0), .sending (.enqueue 0),
    .rearm 3, .received ⟨[3], ascii "CONNECT /a Tell/0\n\n"⟩, .serve .greeter]

theorem queries_are_answered_once_twoRequests :
    ∃ final, run step (initial 1) twoRequests = some final ∧
      final.responses.map Response.reply =
        [⟨[2], ascii "Tell/0 200 OK\n\nhello"⟩, ⟨[1], ascii "late"⟩] ∧
      final.outstanding = {⟨3, ⟨[3], ascii "CONNECT /a Tell/0\n\n"⟩⟩} ∧
      (final.queries : Multiset Query) =
        (final.responses.map Response.query : Multiset Query) + final.outstanding := by
  have summary : (run step (initial 1) twoRequests).map (fun final =>
      (final.responses.map Response.reply, final.outstanding)) =
        some ([⟨[2], ascii "Tell/0 200 OK\n\nhello"⟩, ⟨[1], ascii "late"⟩],
          {⟨3, ⟨[3], ascii "CONNECT /a Tell/0\n\n"⟩⟩}) := by
    decide +kernel
  obtain ⟨final, reached, equal⟩ := Option.map_eq_some_iff.mp summary
  obtain ⟨responses, outstanding⟩ := Prod.mk.inj equal
  have once := queries_are_answered_once 1 twoRequests final (by decide +kernel) reached
  exact ⟨final, reached, responses, outstanding, once.1⟩

end Responder

end Telling.Service
