import Telling.Io.Reply

/-!
# Receiving again

After the handler's `async_recv`, `_aioReceived` responds through the tag and then
starts the next receive.  A response through the tag is a call of `respondTo`, which
throws when the query was answered already or when `async_prep` throws; the exception
leaves the callback before the next receive is started.

`async_prep` is the user's and may do something else in each call, so that what it does
is part of the labels here.
-/

namespace Telling.Io

open Lib

universe u

/-- What `async_prep` does with a response: it leaves a message or none, or throws. -/
inductive Prepared (Message : Type u) where
  | left (msg : Option Message)
  | thrown
  deriving DecidableEq, Repr

/-- What leaves `respondTo` instead of a return. -/
inductive RespondFailure where
  | nng (error : NngError)
  | handler
  deriving DecidableEq, Repr

namespace Reply

variable {Message : Type u}

/-- `Reply::respondTo` up to the claim of the query, with what `async_prep` does if it
is called. -/
def respond (reply : Reply Message) (queryID : QueryID) :
    Prepared Message → Except RespondFailure (Reply Message)
  | .left msg => (reply.respondTo (fun _ _ => msg) queryID msg).mapError .nng
  | .thrown =>
      if !reply.ready then .error (.nng .closed)
      else if !reply.handler then .ok reply
      else .error .handler

/-- The part of `_aioReceived` after `async_recv`, up to the next receive.  The response
in the tag, if any, comes with what `async_prep` does with it. -/
def respondThroughTag (reply : Reply Message) (response : Option (Prepared Message)) :
    Option (Reply Message) :=
  match reply.receiver with
  | .handling queryID =>
      match response with
      | none => some { reply with receiver := .returning }
      | some prepared =>
          match reply.respond queryID prepared with
          | .ok responded => some { responded with receiver := .returning }
          | .error _ => some { reply with receiver := .stopped }
  | _ => none

end Reply

/-- A communicator with the queries that calls of `respondTo` have claimed since the
last one was received. -/
structure Receiving (Message : Type u) where
  reply : Reply Message := {}
  claims : List QueryID := []

namespace Receiving

variable {Message : Type u}

inductive Label (Message : Type u) where
  | ready (value : Bool)
  | initializeWith (expired : Bool) (ctx : QueryID)
  | expire
  | received (result : NngError)
  | respondTo (queryID : QueryID) (prepared : Prepared Message)
  | returned (response : Option (Prepared Message))
  | rearm (ctx : QueryID)
  | enqueue (index : Nat)
  | handOver (index : Nat)
  | complete (result : NngError)
  | sent
  deriving DecidableEq, Repr

/-- A call of `respondTo` by the handler or by any other thread. -/
def respondTo (state : Receiving Message) (queryID : QueryID)
    (prepared : Prepared Message) : Receiving Message :=
  match state.reply.respond queryID prepared with
  | .error _ => state
  | .ok reply =>
      { reply
        claims := if queryID ∈ state.reply.unresponded ∧ queryID ∉ reply.unresponded
          then state.claims ++ [queryID] else state.claims }

/-- A step that no response is part of. -/
def withReply (state : Receiving Message) (reply : Option (Reply Message)) :
    Option (Receiving Message) :=
  reply.map ({ state with reply := · })

/-- One step.  The handler expires only outside the callback, which keeps it alive. -/
def step (state : Receiving Message) : Label Message → Option (Receiving Message)
  | .ready value => some { state with reply := { state.reply with ready := value } }
  | .initializeWith expired ctx =>
      state.withReply (some ((state.reply.initializeWith expired ctx).toOption.getD
        state.reply))
  | .expire =>
      match state.reply.receiver with
      | .stopped | .armed _ =>
          state.withReply (some { state.reply with handler := false })
      | _ => none
  | .received result => (state.reply.aioReceived result).map (⟨·, []⟩)
  | .respondTo queryID prepared => some (state.respondTo queryID prepared)
  | .returned response => state.withReply (state.reply.respondThroughTag response)
  | .rearm ctx => state.withReply (state.reply.rearm ctx)
  | .enqueue index => state.withReply (state.reply.enqueue index)
  | .handOver index => state.withReply (state.reply.handOver index)
  | .complete result =>
      state.withReply ((state.reply.aioSend.complete result).map fun aio =>
        { state.reply with aioSend := aio })
  | .sent => state.withReply state.reply.aioSent

/-- A communicator is about to receive again: whatever context `make_ctx` opens, a
receive is started on it, and the request that this receive brings is delivered. -/
def ReceivesAgain (reply : Reply Message) : Prop :=
  ∀ ctx, ∃ armed delivered, reply.rearm ctx = some armed ∧ armed.receiver = .armed ctx ∧
    armed.aioReceived .success = some delivered ∧ delivered.receiver = .handling ctx ∧
    ctx ∈ delivered.unresponded

/-- When `async_recv` returns on a ready communicator, no exception leaves the callback
and the next request will be received. -/
def Rearms (state : Receiving Message) : Label Message → Prop
  | .returned response => state.reply.ready →
      ∀ after, state.reply.respondThroughTag response = some after → ReceivesAgain after
  | _ => True

/-- A response through the tag that `async_prep` lets through is the first to the query
since it was received, and `async_prep` does not throw. -/
def Answerable (state : Receiving Message) : Label Message → Prop
  | .returned (some prepared) => state.reply.ready →
      ∀ queryID, state.reply.receiver = .handling queryID →
        prepared ≠ .thrown ∧ (prepared ≠ .left none → queryID ∉ state.claims)
  | _ => True

/-! ## The steps of the communicator are among these -/

/-- A step of the communicator whose `async_prep` is a function that never throws. -/
def lift (prep : QueryID → Option Message → Option Message) (reply : Reply Message) :
    Reply.Label Message → Label Message
  | .ready value => .ready value
  | .initializeWith expired ctx => .initializeWith expired ctx
  | .received result => .received result
  | .handled responseMsg =>
      match reply.receiver with
      | .handling queryID =>
          .returned (responseMsg.map fun msg => .left (prep queryID (some msg)))
      | _ => .returned none
  | .rearm ctx => .rearm ctx
  | .respondTo queryID msg => .respondTo queryID (.left (prep queryID msg))
  | .enqueue index => .enqueue index
  | .handOver index => .handOver index
  | .complete result => .complete result
  | .sent => .sent

theorem respond_left (prep : QueryID → Option Message → Option Message)
    (reply : Reply Message) (queryID : QueryID) (msg : Option Message) :
    reply.respond queryID (.left (prep queryID msg)) =
      (reply.respondTo prep queryID msg).mapError .nng := rfl

theorem respondTo_lift (prep : QueryID → Option Message → Option Message)
    (state : Receiving Message) (queryID : QueryID) (msg : Option Message) :
    (state.respondTo queryID (.left (prep queryID msg))).reply =
      (state.reply.respondTo prep queryID msg).toOption.getD state.reply := by
  rw [respondTo, respond_left]
  cases state.reply.respondTo prep queryID msg <;> rfl

theorem respondThroughTag_lift (prep : QueryID → Option Message → Option Message)
    {reply : Reply Message} {queryID : QueryID}
    (handling : reply.receiver = .handling queryID) (responseMsg : Option Message) :
    reply.respondThroughTag
        (responseMsg.map fun msg => .left (prep queryID (some msg))) =
      reply.handled prep responseMsg := by
  cases responseMsg with
  | none => simp [Reply.respondThroughTag, Reply.handled, handling]
  | some msg =>
      simp only [Reply.respondThroughTag, Reply.handled, handling, Option.map_some,
        respond_left]
      cases reply.respondTo prep queryID (some msg) <;> rfl

/-- Every step of the communicator is one of these steps. -/
theorem step_lift (prep : QueryID → Option Message → Option Message)
    (state : Receiving Message) (label : Reply.Label Message) :
    (state.step (lift prep state.reply label)).map Receiving.reply =
      state.reply.step prep label := by
  have kept : ∀ reply : Option (Reply Message),
      (state.withReply reply).map Receiving.reply = reply := by
    intro reply
    cases reply <;> rfl
  cases label with
  | ready value => rfl
  | initializeWith expired ctx => rfl
  | received result =>
      simp only [lift, step, Reply.step, Option.map_map]
      exact congrFun Option.map_id _
  | handled responseMsg =>
      cases place : state.reply.receiver with
      | handling queryID =>
          simp only [lift, place, step, kept, respondThroughTag_lift prep place, Reply.step]
      | stopped | armed | returning =>
          simp [lift, place, step, kept, Reply.step, Reply.respondThroughTag, Reply.handled]
  | rearm ctx => exact kept _
  | respondTo queryID msg => exact congrArg some (respondTo_lift prep state queryID msg)
  | enqueue index => exact kept _
  | handOver index => exact kept _
  | complete result => exact kept _
  | sent => exact kept _

/-! ## What responses change -/

section Responses

variable {reply next : Reply Message} {queryID : QueryID} {prepared : Prepared Message}

/-- A call of `respondTo` that returns either did nothing or claimed its query. -/
theorem respond_eq_ok (returned : reply.respond queryID prepared = .ok next) :
    next = reply ∨ ∃ msg, queryID ∈ reply.unresponded ∧
      next = { reply with
        unresponded := reply.unresponded.erase queryID
        claimed := reply.claimed ++ [⟨queryID, msg⟩] } := by
  cases prepared with
  | thrown =>
      simp only [Reply.respond] at returned
      split at returned
      · contradiction
      · split at returned
        · exact Or.inl (Except.ok.inj returned).symm
        · contradiction
  | left msg =>
      cases called : reply.respondTo (fun _ _ => msg) queryID msg with
      | error error => simp [Reply.respond, called, Except.mapError] at returned
      | ok after =>
          simp only [Reply.respond, called, Except.mapError, Except.ok.injEq] at returned
          subst returned
          rcases Reply.respondTo_eq_ok called with same | ⟨prepared, _, outstanding, claims⟩
          · exact Or.inl same
          · exact Or.inr ⟨prepared, outstanding, claims⟩

/-- When `respondTo` returns, on a ready communicator with a live handler. -/
theorem respond_returns_iff (ready : reply.ready = true) (live : reply.handler = true) :
    (∃ next, reply.respond queryID prepared = .ok next) ↔
      prepared ≠ .thrown ∧ (prepared ≠ .left none → queryID ∈ reply.unresponded) := by
  cases prepared with
  | thrown => simp [Reply.respond, ready, live]
  | left msg =>
      cases msg with
      | none => simp [Reply.respond, Reply.respondTo, ready, live, Except.mapError]
      | some msg =>
          by_cases outstanding : queryID ∈ reply.unresponded
          · simp [Reply.respond, Reply.respondTo, ready, live, Except.mapError, outstanding]
          · simp [Reply.respond, Reply.respondTo, ready, live, Except.mapError, outstanding]

theorem receivesAgain_of_returning (live : reply.handler = true)
    (returning : reply.receiver = .returning) : ReceivesAgain reply := by
  intro ctx
  refine ⟨{ reply with receiver := .armed ctx },
    { reply with
      receiver := .handling ctx
      unresponded := insert ctx reply.unresponded }, ?_, rfl, ?_, rfl, ?_⟩
  · simp [Reply.rearm, returning]
  · simp [Reply.aioReceived, live]
  · exact Finset.mem_insert_self ctx _

theorem not_receivesAgain_of_stopped (stopped : reply.receiver = .stopped) :
    ¬ReceivesAgain reply := by
  intro again
  obtain ⟨armed, _, rearmed, -⟩ := again 0
  simp [Reply.rearm, stopped] at rearmed

/-- The callback receives again exactly when its response, if there is one, returns. -/
theorem receivesAgain_iff (live : reply.handler = true)
    (handling : reply.receiver = .handling queryID)
    (response : Option (Prepared Message)) :
    (∀ after, reply.respondThroughTag response = some after → ReceivesAgain after) ↔
      ∀ prepared ∈ response, ∃ next, reply.respond queryID prepared = .ok next := by
  cases response with
  | none =>
      simp only [Reply.respondThroughTag, handling, Option.some.injEq, forall_eq',
        Option.not_mem_none, false_imp_iff, implies_true, iff_true]
      exact receivesAgain_of_returning live rfl
  | some prepared =>
      simp only [Option.mem_some_iff, forall_eq']
      cases called : reply.respond queryID prepared with
      | error failure =>
          have escaped : reply.respondThroughTag (some prepared) =
              some { reply with receiver := .stopped } := by
            simp [Reply.respondThroughTag, handling, called]
          refine iff_of_false (fun again => ?_) (by simp)
          exact not_receivesAgain_of_stopped rfl (again _ escaped)
      | ok responded =>
          refine iff_of_true ?_ ⟨responded, rfl⟩
          simp only [Reply.respondThroughTag, handling, called, Option.some.injEq,
            forall_eq']
          have liveToo : responded.handler = true := by
            rcases respond_eq_ok called with rfl | ⟨msg, _, rfl⟩ <;> exact live
          exact receivesAgain_of_returning liveToo rfl

end Responses

/-! ## Runs -/

/-- The invariant: while the handler is being called for a query, it is alive, and the
query is outstanding unless a call of `respondTo` has claimed it since. -/
structure Tied (state : Receiving Message) : Prop where
  live : ∀ queryID, state.reply.receiver = .handling queryID → state.reply.handler = true
  outstanding_iff : ∀ queryID, state.reply.receiver = .handling queryID →
    (queryID ∈ state.reply.unresponded ↔ queryID ∉ state.claims)

variable {state next : Receiving Message}

/-- Outside `async_recv` there is nothing to show. -/
theorem tied_of_outside (outside : ∀ queryID, state.reply.receiver ≠ .handling queryID) :
    state.Tied :=
  ⟨fun queryID handling => absurd handling (outside queryID),
    fun queryID handling => absurd handling (outside queryID)⟩

/-- A step of the sending side keeps the invariant. -/
theorem Tied.frame (tied : state.Tied) {reply : Reply Message}
    (receiver : reply.receiver = state.reply.receiver)
    (handler : reply.handler = state.reply.handler)
    (unresponded : reply.unresponded = state.reply.unresponded) :
    Tied { state with reply } := by
  constructor
  · intro queryID handling
    exact handler.trans (tied.live queryID (receiver.symm.trans handling))
  · intro queryID handling
    rw [← tied.outstanding_iff queryID (receiver.symm.trans handling)]
    exact unresponded ▸ Iff.rfl

theorem Tied.respondTo (tied : state.Tied) (queryID : QueryID)
    (prepared : Prepared Message) : (state.respondTo queryID prepared).Tied := by
  unfold Receiving.respondTo
  cases called : state.reply.respond queryID prepared with
  | error failure => exact tied
  | ok reply =>
      rcases respond_eq_ok called with rfl | ⟨msg, outstanding, rfl⟩
      · simpa using tied
      · refine ⟨tied.live, fun other handling => ?_⟩
        have before := tied.outstanding_iff other handling
        by_cases same : other = queryID
        · simp [same, outstanding]
        · simp [outstanding, Finset.mem_erase, same, before]

theorem Tied.received (result : NngError) {reply : Reply Message}
    (stepped : state.reply.aioReceived result = some reply) :
    Tied ⟨reply, []⟩ := by
  simp only [Reply.aioReceived] at stepped
  split at stepped
  · split at stepped
    · cases stepped
      exact ⟨by simp, by simp⟩
    · next live =>
        split at stepped
        · cases stepped
          refine ⟨fun _ _ => by simpa using live, fun other handling => ?_⟩
          cases handling
          simp
        · cases stepped
          exact ⟨by simp, by simp⟩
  · contradiction

theorem outside_of_respondThroughTag {reply after : Reply Message}
    {response : Option (Prepared Message)}
    (stepped : reply.respondThroughTag response = some after) (queryID : QueryID) :
    after.receiver ≠ .handling queryID := by
  simp only [Reply.respondThroughTag] at stepped
  split at stepped
  · split at stepped
    · cases stepped
      simp
    · split at stepped <;>
      · cases stepped
        simp
  · contradiction

theorem Tied.enqueue (tied : state.Tied) {index : Nat} {reply : Reply Message}
    (stepped : state.reply.enqueue index = some reply) : Tied { state with reply } := by
  simp only [Reply.enqueue] at stepped
  split at stepped
  · contradiction
  · split at stepped <;>
    · cases stepped
      exact tied.frame rfl rfl rfl

theorem Tied.handOver (tied : state.Tied) {index : Nat} {reply : Reply Message}
    (stepped : state.reply.handOver index = some reply) : Tied { state with reply } := by
  simp only [Reply.handOver] at stepped
  split at stepped
  · contradiction
  · cases stepped
    exact tied.frame rfl rfl rfl

theorem Tied.sent (tied : state.Tied) {reply : Reply Message}
    (stepped : state.reply.aioSent = some reply) : Tied { state with reply } := by
  simp only [Reply.aioSent] at stepped
  split at stepped
  · contradiction
  · split at stepped
    · split at stepped
      · cases stepped
        exact tied.frame rfl rfl rfl
      · contradiction
    · cases stepped
      exact tied.frame rfl rfl rfl

theorem Tied.initializeWith (tied : state.Tied) (expired : Bool) (ctx : QueryID) :
    Tied { state with
      reply := (state.reply.initializeWith expired ctx).toOption.getD state.reply } := by
  unfold Reply.initializeWith
  split
  · exact tied
  · split
    · exact tied
    · exact tied_of_outside (by simp [Except.toOption])

theorem Tied.step (tied : state.Tied) {label : Label Message}
    (stepped : state.step label = some next) : next.Tied := by
  cases label with
  | ready value =>
      cases stepped
      exact tied.frame rfl rfl rfl
  | initializeWith expired ctx =>
      cases stepped
      exact tied.initializeWith expired ctx
  | expire =>
      simp only [Receiving.step] at stepped
      split at stepped
      · next place =>
          cases stepped
          exact tied_of_outside (by simp [place])
      · next place =>
          cases stepped
          exact tied_of_outside (by simp [place])
      · contradiction
  | received result =>
      obtain ⟨reply, taken, rfl⟩ := Option.map_eq_some_iff.mp stepped
      exact .received result taken
  | respondTo queryID prepared =>
      cases stepped
      exact tied.respondTo queryID prepared
  | returned response =>
      obtain ⟨reply, taken, rfl⟩ := Option.map_eq_some_iff.mp stepped
      exact tied_of_outside (outside_of_respondThroughTag taken)
  | rearm ctx =>
      obtain ⟨reply, taken, rfl⟩ := Option.map_eq_some_iff.mp stepped
      simp only [Reply.rearm] at taken
      split at taken
      · cases taken
        exact tied_of_outside (by simp)
      · contradiction
  | enqueue index =>
      obtain ⟨reply, taken, rfl⟩ := Option.map_eq_some_iff.mp stepped
      exact tied.enqueue taken
  | handOver index =>
      obtain ⟨reply, taken, rfl⟩ := Option.map_eq_some_iff.mp stepped
      exact tied.handOver taken
  | complete result =>
      obtain ⟨reply, taken, rfl⟩ := Option.map_eq_some_iff.mp stepped
      obtain ⟨aio, -, rfl⟩ := Option.map_eq_some_iff.mp taken
      exact tied.frame rfl rfl rfl
  | sent =>
      obtain ⟨reply, taken, rfl⟩ := Option.map_eq_some_iff.mp stepped
      exact tied.sent taken

theorem Tied.rearms_iff (tied : state.Tied) {label : Label Message}
    (stepped : state.step label = some next) :
    state.Rearms label ↔ state.Answerable label := by
  cases label with
  | returned response =>
      obtain ⟨reply, taken, rfl⟩ := Option.map_eq_some_iff.mp stepped
      cases place : state.reply.receiver with
      | stopped | armed | returning => simp [Reply.respondThroughTag, place] at taken
      | handling queryID =>
          have live := tied.live queryID place
          have claims := tied.outstanding_iff queryID place
          cases response with
          | none =>
              refine iff_of_true (fun _ => ?_) trivial
              exact (receivesAgain_iff live place none).mpr (by simp)
          | some prepared =>
              refine imp_congr_right fun ready => ?_
              rw [receivesAgain_iff live place]
              simp only [Option.mem_some_iff, forall_eq', place, Receiver.handling.injEq,
                respond_returns_iff ready live, claims]
  | _ => exact Iff.rfl

/-- In every run, whatever the handler and other threads do: each time `async_recv`
returns on a ready communicator, no exception leaves the callback and the next request
is received, exactly when each response through the tag meets `Answerable`. -/
theorem rearms_iff_answerable {labels : List (Label Message)} {final : Receiving Message}
    (reached : run step {} labels = some final) :
    Meets step Rearms {} labels ↔ Meets step Answerable {} labels :=
  meets_iff_meets Tied (fun _ _ _ tied stepped => tied.rearms_iff stepped)
    (fun _ _ _ tied _ stepped => tied.step stepped) (tied_of_outside (by simp)) reached

/-- The handler answers another query with `respondTo` and its own through the tag. -/
theorem rearms_after_mixed_responses :
    ∃ final : Receiving Nat,
      run step {} [.ready true, .initializeWith false 1, .received .success,
        .returned none, .rearm 2, .received .success, .respondTo 1 (.left (some 10)),
        .returned (some (.left (some 20)))] = some final ∧
      Meets step Rearms {} [.ready true, .initializeWith false 1, .received .success,
        .returned none, .rearm 2, .received .success, .respondTo 1 (.left (some 10)),
        .returned (some (.left (some 20)))] := by
  refine ⟨_, rfl, (rearms_iff_answerable rfl).mpr ?_⟩
  simp [Meets, Answerable, step, withReply, Reply.initializeWith, Reply.aioReceived,
    Reply.respondThroughTag, Reply.rearm, respondTo, Reply.respond, Reply.respondTo,
    Except.toOption, Except.mapError]

/-- The handler answers its query with `respondTo` and then through the tag, or its
`async_prep` throws: nothing is received any more. -/
theorem stops_after_second_response :
    (run step ({} : Receiving Nat) [.ready true, .initializeWith false 1,
        .received .success, .respondTo 1 (.left (some 10)),
        .returned (some (.left (some 20)))]).map (·.reply.receiver) = some .stopped ∧
    (run step ({} : Receiving Nat) [.ready true, .initializeWith false 1,
        .received .success, .returned (some .thrown)]).map (·.reply.receiver) =
      some .stopped ∧
    ¬Meets step Rearms ({} : Receiving Nat) [.ready true, .initializeWith false 1,
        .received .success, .respondTo 1 (.left (some 10)),
        .returned (some (.left (some 20)))] := by
  refine ⟨by decide, by decide, fun meets => ?_⟩
  have last := (meets.2 _ rfl).2 _ rfl |>.2 _ rfl |>.2 _ rfl
  exact not_receivesAgain_of_stopped rfl (last.1 rfl _ rfl)

end Receiving

end Telling.Io
