import Telling.Service.Responder

/-!
# Reactors that answer at once

When the handlers of a reactor reply or throw and nobody else responds, no request of a
ready communicator is left behind: each has its response before the next one is received.
-/

namespace Telling.Service.Responder

open Lib
open Io (OutboxItem QueryID)

variable {responder next : Responder}

/-- A call that answers on a ready communicator, with its query outstanding. -/
theorem response_of_answers {call : Call}
    (accepted : (call.ready && call.outstanding) = true)
    (answers : call.reactor.Answers call.query.msg.body) :
    ∃ body, (call.reactor.recvReplying call.query.msg.body).dest = some body ∧
      call.response = some ⟨call.query, body, some call.reactor⟩ := by
  obtain ⟨body, replied⟩ := Option.isSome_iff_exists.mp answers.replies
  exact ⟨body, replied, by simp [Call.response, accepted, replied]⟩

theorem not_escapes_of_answers {call : Call}
    (accepted : (call.ready && call.outstanding) = true)
    (answers : call.reactor.Answers call.query.msg.body) : ¬call.Escapes := by
  simp [Call.Escapes, answers.returns, accepted]

/-- When nobody else responds, the query that is handled is outstanding. -/
theorem Sound.outstanding_of_handling (sound : responder.Sound)
    (alone : responder.calls = []) {id : QueryID}
    (handling : responder.reply.receiver = .handling id) :
    id ∈ responder.reply.unresponded := by
  have fewer := (responded_sublist responder.served).count_le (responder.onContext id)
  have counted := congrArg (Multiset.count (responder.onContext id)) sound.balanced
  rw [queries, sound.current id handling, sound.responses_eq alone, Multiset.count_add,
    Multiset.coe_count, Multiset.coe_count, List.count_append, Option.toList_some,
    List.count_singleton_self] at counted
  have present : responder.onContext id ∈ responder.outstanding := by
    rw [← Multiset.count_pos]
    omega
  obtain ⟨other, member, same⟩ := Multiset.mem_map.mp present
  obtain rfl : other = id := congrArg Query.id same
  exact member

/-- When nobody else responds, every call finds its query outstanding. -/
def Undisturbed (responder : Responder) : Prop :=
  responder.calls = [] → ∀ call ∈ responder.served, call.outstanding = true

theorem Sound.undisturbed (sound : responder.Sound) (undisturbed : responder.Undisturbed)
    {label : Label} (stepped : responder.step label = some next) : next.Undisturbed := by
  intro alone
  cases logged_of_step stepped with
  | kept served _ calls =>
      rw [served]
      exact undisturbed (List.prefix_nil.mp (alone ▸ calls))
  | taken query _ served _ calls =>
      rw [served]
      exact undisturbed (calls ▸ alone)
  | served call _ was place served _ calls =>
      rw [served, List.forall_mem_append, List.forall_mem_singleton, place,
        decide_eq_true_eq]
      rw [calls] at alone
      exact ⟨undisturbed alone,
        sound.outstanding_of_handling alone (sound.handling_of_current was)⟩

theorem undisturbed_of_run {ctx : QueryID} {labels : List Label} {final : Responder}
    (opensNew : Meets step OpensNew (initial ctx) labels)
    (reached : run step (initial ctx) labels = some final) : final.Undisturbed :=
  (invariant_of_run (fun responder => responder.Sound ∧ responder.Undisturbed)
    ⟨sound_initial ctx, by simp [Undisturbed, initial]⟩
    (fun _ _ _ kept opensNew stepped =>
      ⟨kept.1.step opensNew stepped, kept.1.undisturbed kept.2 stepped⟩)
    opensNew reached).2

/-- When all calls have answered and nobody else has, only the query that is handled is
outstanding. -/
theorem Sound.handling_of_outstanding (sound : responder.Sound)
    (answered : responder.responses.map Response.query = responder.served.map Call.query)
    {id : QueryID} (outstanding : id ∈ responder.reply.unresponded) :
    responder.reply.receiver = .handling id := by
  have rest : (responder.current.toList : Multiset Query) = responder.outstanding := by
    have balanced := sound.balanced
    rw [queries, answered, ← Multiset.coe_add] at balanced
    exact add_left_cancel balanced
  have present : responder.onContext id ∈ responder.outstanding :=
    Multiset.mem_map_of_mem _ outstanding
  rw [← rest, Multiset.mem_coe, Option.mem_toList] at present
  exact sound.handling_of_current present

/-- When every call responds and nobody else does, the responses are those to the
requests, in their order. -/
theorem Sound.answered_eq (sound : responder.Sound) (alone : responder.calls = [])
    (responds : ∀ call ∈ responder.served, call.response.isSome) :
    responder.responses.map Response.query = responder.served.map Call.query := by
  rw [sound.responses_eq alone, List.map_filterMap, ← List.filterMap_eq_map]
  refine List.filterMap_congr fun call member => ?_
  obtain ⟨response, given⟩ := Option.isSome_iff_exists.mp (responds call member)
  simp [given, (Call.query_of_response given).1]

/-- They have the contexts and routing headers of the requests. -/
theorem Sound.headers_eq (sound : responder.Sound)
    (answered : responder.responses.map Response.query =
      responder.served.map Call.query) :
    (responder.reply.accepted ++ responder.reply.claimed).map
        (fun item => (item.ctx, item.msg.reply.header)) =
      responder.served.map (fun call => (call.query.id, call.query.msg.header)) := by
  calc (responder.reply.accepted ++ responder.reply.claimed).map
        (fun item => (item.ctx, item.msg.reply.header))
      = (responder.responses.map Response.query).map fun query =>
          (query.id, query.msg.header) := by
        rw [responses, List.map_map, List.map_map]
        refine List.map_congr_left fun item member => ?_
        rw [sound.own item member]
        rfl
    _ = responder.served.map (fun call => (call.query.id, call.query.msg.header)) := by
        rw [answered, List.map_map]
        rfl

/-- A reactor whose handlers reply or throw answers every request of a run in which nobody
else responds, as long as the communicator is ready and the requests are answerable: one
response for each request, in their order and with their contexts and routing headers.
Only the request that is being handled is outstanding, and the communicator goes on unless
a receive fails or the handler expires. -/
theorem answerable_requests_are_answered (ctx : QueryID) (labels : List Label)
    (final : Responder) (opensNew : Meets step OpensNew (initial ctx) labels)
    (reached : run step (initial ctx) labels = some final) (alone : final.calls = [])
    (answerable : ∀ call ∈ final.served, call.ready = true ∧ call.reactor.Obliging ∧
      call.reactor.Answerable call.query.msg.body) :
    (final.reply.accepted ++ final.reply.claimed).map
        (fun item => (item.ctx, item.msg.reply.header)) =
        final.served.map (fun call => (call.query.id, call.query.msg.header)) ∧
      (∀ item ∈ final.reply.accepted ++ final.reply.claimed, ∃ call ∈ final.served,
        item.ctx = call.query.id ∧ call.reactor.Answers call.query.msg.body ∧
        (call.reactor.recvReplying call.query.msg.body).dest =
          some item.msg.reply.body) ∧
      (∀ id ∈ final.reply.unresponded, final.reply.receiver = .handling id) ∧
      (final.reply.receiver = .stopped → final.aborted = true) := by
  have sound := sound_of_run opensNew reached
  have undisturbed := undisturbed_of_run opensNew reached alone
  have accepts : ∀ call ∈ final.served, (call.ready && call.outstanding) = true :=
    fun call member => by simp [(answerable call member).1, undisturbed call member]
  have answers : ∀ call ∈ final.served, call.reactor.Answers call.query.msg.body :=
    fun call member =>
      (call.reactor.answers_iff (answerable call member).2.1 _).mpr
        (answerable call member).2.2
  have responds : ∀ call ∈ final.served, ∃ body,
      (call.reactor.recvReplying call.query.msg.body).dest = some body ∧
      call.response = some ⟨call.query, body, some call.reactor⟩ :=
    fun call member => response_of_answers (accepts call member) (answers call member)
  have answered : final.responses.map Response.query = final.served.map Call.query := by
    refine sound.answered_eq alone fun call member => ?_
    obtain ⟨body, _, response⟩ := responds call member
    rw [response]
    rfl
  refine ⟨sound.headers_eq answered, ?_, fun id => sound.handling_of_outstanding answered, ?_⟩
  · intro item member
    have given : item.msg ∈ final.responses := List.mem_map_of_mem member
    rw [sound.responses_eq alone] at given
    obtain ⟨call, served, response⟩ := List.mem_filterMap.mp given
    obtain ⟨body, replied, answer⟩ := responds call served
    have same : item.msg = ⟨call.query, body, some call.reactor⟩ :=
      Option.some.inj (response.symm.trans answer)
    refine ⟨call, served, ?_, answers call served, ?_⟩
    · rw [sound.own item member, same]
      rfl
    · rw [same]
      exact replied
  · intro stopped
    refine (sound.goesOn stopped).resolve_right ?_
    rintro ⟨call, served, escapes⟩
    exact not_escapes_of_answers (accepts call served) (answers call served) escapes

/-- A GET request for the greeter and a message that does not parse. -/
def answeredRequests : List Label :=
  [.received ⟨[1], ascii "GET /a Tell/0\n\n"⟩, .serve .greeter, .sending (.enqueue 0),
    .rearm 2, .received ⟨[2], ascii "?"⟩, .serve .greeter]

theorem greeter_answerable_get :
    Reactor.greeter.Answerable (ascii "GET /a Tell/0\n\n") := by
  intro request reaches
  have method : (Msg.MsgView.parse (ascii "GET /a Tell/0\n\n") .request).map
      Msg.MsgView.methodString = .ok (ascii "GET") := by decide +kernel
  rw [reaches.parsed] at method
  have get := Except.ok.inj method
  have parsed : Msg.Method.parse (ascii "GET") = .get := by decide +kernel
  refine ⟨?_, ?_, ?_⟩
  · rw [get]
    decide +kernel
  · rw [get]
    decide +kernel
  · intro handler exception served thrown
    rw [Msg.MsgView.method, get, parsed] at served
    obtain rfl := Option.some.inj served
    contradiction

theorem greeter_answerable_garbage : Reactor.greeter.Answerable (ascii "?") := by
  intro request reaches
  have refused : (Msg.MsgView.parse (ascii "?") .request).toOption.isNone := by decide +kernel
  simp [reaches.parsed, Except.toOption] at refused

/-- The reactors of the calls are those of the run. -/
theorem serve_mem_of_run {ctx : QueryID} {labels : List Label} {final : Responder}
    (reached : run step (initial ctx) labels = some final) :
    ∀ call ∈ final.served, .serve call.reactor ∈ labels := by
  refine run_induction (fun labels responder => ∀ call ∈ responder.served,
    .serve call.reactor ∈ labels) (by simp [initial]) ?_ (meets_true _ labels) reached
  intro labels responder label next _ among _ stepped
  have earlier : ∀ call ∈ responder.served, .serve call.reactor ∈ labels ++ [label] :=
    fun call member => List.mem_append_left _ (among call member)
  cases logged_of_step stepped with
  | kept served => exact served ▸ earlier
  | taken _ _ served => exact served ▸ earlier
  | served call serves _ _ served =>
      rw [served, List.forall_mem_append, List.forall_mem_singleton]
      exact ⟨earlier, List.mem_append_right _ (serves ▸ List.mem_cons_self)⟩

theorem answerable_requests_are_answered_get :
    ∃ final, run step (initial 1) answeredRequests = some final ∧
      (final.reply.accepted ++ final.reply.claimed).map
        (fun item => (item.ctx, item.msg.reply.header)) = [(1, [1]), (2, [2])] := by
  have summary : (run step (initial 1) answeredRequests).map (fun final =>
      (final.calls, final.served.map fun call => (call.query, call.ready))) =
        some ([], [(⟨1, ⟨[1], ascii "GET /a Tell/0\n\n"⟩⟩, true),
          (⟨2, ⟨[2], ascii "?"⟩⟩, true)]) := by decide +kernel
  obtain ⟨final, reached, equal⟩ := Option.map_eq_some_iff.mp summary
  obtain ⟨alone, served⟩ := Prod.mk.inj equal
  have answered := answerable_requests_are_answered 1 answeredRequests final
    (by decide +kernel) reached alone fun call member => by
      have greets : call.reactor = .greeter := by
        simpa [answeredRequests] using serve_mem_of_run reached call member
      have logged : (call.query, call.ready) ∈ final.served.map fun call =>
        (call.query, call.ready) := List.mem_map_of_mem member
      rw [served] at logged
      rw [greets]
      refine ⟨?_, Reactor.greeter_obliging, ?_⟩ <;>
        rcases List.mem_pair.mp logged with same | same <;>
        obtain ⟨query, ready⟩ := Prod.mk.inj same
      · exact ready
      · exact ready
      · exact query ▸ greeter_answerable_get
      · exact query ▸ greeter_answerable_garbage
  refine ⟨final, reached, answered.1.trans ?_⟩
  have pairs := congrArg (List.map fun entry => (entry.1.id, entry.1.msg.header)) served
  rw [List.map_map] at pairs
  exact pairs

end Telling.Service.Responder
