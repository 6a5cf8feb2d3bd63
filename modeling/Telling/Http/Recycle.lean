import Telling.Http.Pool

/-!
# Recycled actions

The outputs of a query are determined by the action that serves it and by the
results of its operations.  An idle action keeps the completion record of its
last query, which is not cleared before the next request has been written; it
behaves like a new action exactly when that record is blank.
-/

namespace Telling.Http

open Lib Msg

namespace Action

/-- The outputs of an action for a series of completions, up to the one that
returns it to the pool. -/
def serve : Action → List Completion → List Output
  | _, [] => []
  | action, completion :: completions =>
      if (action.callback completion).1.state = .idle then
        (action.callback completion).2
      else
        (action.callback completion).2 ++
          serve (action.callback completion).1 completions

/-- The outputs of an action for a query that it is started for. -/
def queryTrace (action : Action) (req : Bytes) (completions : List Completion) :
    List Output :=
  .connect :: (action.start req).serve completions

/-- A completion record of which no branch of the callback can tell that it is
not new. -/
def Blank (record : MsgCompletion) : Prop :=
  record.complete = false ∧ record.implicit = true

instance (record : MsgCompletion) : Decidable (Blank record) :=
  inferInstanceAs (Decidable (_ ∧ _))

/-! ## Actions that behave alike -/

/-- Two actions that no completion can tell apart: before the first read their
completion records are both blank, from then on they are the same. -/
structure Alike (left right : Action) : Prop where
  state : left.state = right.state
  conn : left.conn = right.conn
  req : left.req = right.req
  res : left.res = right.res
  early : left.state ≠ .recv →
    Blank left.resCompletion ∧ Blank right.resCompletion
  late : left.state = .recv → left.resCompletion = right.resCompletion ∧
    left.recvCount = right.recvCount ∧ left.iov = right.iov

/-- The same for actions on which the callback is working. -/
structure WorkingAlike (left right : Working) : Prop where
  action : Alike left.action right.action
  outputs : left.outputs = right.outputs
  disconnect : left.disconnect = right.disconnect

variable {left right : Action}

/-- The flags that the callback reads agree. -/
theorem Alike.flags (alike : Alike left right) :
    left.resCompletion.complete = right.resCompletion.complete ∧
      left.resCompletion.implicit = right.resCompletion.implicit := by
  by_cases recv : left.state = .recv
  · rw [(alike.late recv).1]
    exact ⟨rfl, rfl⟩
  · obtain ⟨leftBlank, rightBlank⟩ := alike.early recv
    exact ⟨leftBlank.1.trans rightBlank.1.symm,
      leftBlank.2.trans rightBlank.2.symm⟩

theorem Alike.received (alike : Alike left right) (recv : left.state = .recv)
    (data : Bytes) :
    WorkingAlike (left.received data) (right.received data) := by
  obtain ⟨record, recvCount, iov⟩ := alike.late recv
  have notEarly : ∀ {proposition : Prop}, left.state ≠ .recv → proposition :=
    fun other => absurd recv other
  simp only [Action.received, alike.res, recvCount, iov]
  split
  · exact ⟨⟨alike.state, alike.conn, alike.req, rfl, notEarly,
      fun _ => ⟨rfl, rfl, rfl⟩⟩, rfl, rfl⟩
  · exact ⟨⟨alike.state, alike.conn, alike.req, rfl, notEarly,
      fun _ => ⟨record, rfl, rfl⟩⟩, rfl, rfl⟩

theorem Alike.fails (alike : Alike left right) {completion : Completion} :
    left.Fails completion ↔ right.Fails completion := by
  rw [Fails, Fails, alike.flags.2]

theorem Alike.react (alike : Alike left right) (completion : Completion) :
    WorkingAlike (left.react completion) (right.react completion) := by
  cases live : completion.live with
  | false =>
      rw [react_of_dead live, react_of_dead live]
      exact ⟨alike, rfl, rfl⟩
  | true =>
      by_cases fails : left.Fails completion
      · rw [react_of_fails live fails, react_of_fails live (alike.fails.mp fails)]
        exact ⟨⟨alike.state, alike.conn, alike.req, alike.res,
          fun _ => ⟨⟨rfl, rfl⟩, ⟨rfl, rfl⟩⟩,
          fun recv => ⟨rfl, (alike.late recv).2⟩⟩, rfl, rfl⟩
      by_cases success : completion.result = .success
      · cases state : left.state with
        | connect =>
            rw [react_connect live success state,
              react_connect live success (alike.state.symm.trans state)]
            exact ⟨⟨alike.state, rfl, alike.req, alike.res, alike.early,
              alike.late⟩, rfl, rfl⟩
        | send =>
            rw [react_send live success state,
              react_send live success (alike.state.symm.trans state)]
            exact ⟨⟨alike.state, alike.conn, rfl, alike.res, alike.early,
              alike.late⟩, rfl, rfl⟩
        | recv =>
            rw [react_recv live success state,
              react_recv live success (alike.state.symm.trans state)]
            exact alike.received state completion.data
        | idle =>
            rw [react_idle live success state,
              react_idle live success (alike.state.symm.trans state)]
            exact ⟨alike, rfl, rfl⟩
      · rw [react_of_closed live success fails,
          react_of_closed live success (alike.fails.not.mp fails)]
        exact ⟨alike, rfl, rfl⟩

theorem WorkingAlike.finish {left right : Working}
    (alike : WorkingAlike left right) (live : Bool) :
    WorkingAlike (Action.finish left live) (Action.finish right live) := by
  obtain ⟨action, outputs, disconnect⟩ := alike
  obtain ⟨complete, implicit⟩ := action.flags
  unfold Action.finish
  simp only [outputs, disconnect, complete, implicit, action.res, action.conn]
  split
  · exact ⟨⟨action.state, rfl, rfl, rfl, action.early, action.late⟩, rfl, rfl⟩
  · exact ⟨action, outputs, disconnect⟩

/-- The last part of the callback starts the same operation; the actions stay
alike unless they return to the pool. -/
theorem WorkingAlike.advance {left right : Working}
    (alike : WorkingAlike left right) :
    (Action.advance left).2 = (Action.advance right).2 ∧
      (Action.advance left).1.state = (Action.advance right).1.state ∧
      ((Action.advance left).1.state ≠ .idle →
        Alike (Action.advance left).1 (Action.advance right).1) := by
  obtain ⟨action, outputs, disconnect⟩ := alike
  cases leftDisconnect : left.disconnect with
  | true =>
      rw [advance_disconnect leftDisconnect,
        advance_disconnect (disconnect ▸ leftDisconnect)]
      exact ⟨outputs, rfl, fun busy => absurd rfl busy⟩
  | false =>
      have rightDisconnect := disconnect.symm.trans leftDisconnect
      cases state : left.action.state with
      | idle =>
          rw [advance_idle leftDisconnect state,
            advance_idle rightDisconnect (action.state.symm.trans state)]
          exact ⟨outputs, action.state, fun busy => absurd state busy⟩
      | connect =>
          rw [advance_connect leftDisconnect state,
            advance_connect rightDisconnect (action.state.symm.trans state),
            action.conn, action.req, outputs]
          exact ⟨rfl, rfl, fun _ => ⟨rfl, action.conn, action.req, action.res,
            fun _ => action.early (by simp [state]), by simp⟩⟩
      | send =>
          rw [advance_send leftDisconnect state,
            advance_send rightDisconnect (action.state.symm.trans state),
            action.conn, outputs]
          exact ⟨rfl, rfl, fun _ => ⟨rfl, action.conn, action.req, rfl, by simp,
            fun _ => ⟨rfl, rfl, rfl⟩⟩⟩
      | recv =>
          obtain ⟨record, recvCount, _⟩ := action.late state
          rw [advance_recv leftDisconnect state,
            advance_recv rightDisconnect (action.state.symm.trans state),
            action.conn, action.res, recvCount, outputs]
          exact ⟨rfl, action.state, fun _ => ⟨action.state, action.conn,
            action.req, rfl, fun other => absurd state other,
            fun _ => ⟨record, recvCount, rfl⟩⟩⟩

theorem Alike.callback (alike : Alike left right) (completion : Completion) :
    (left.callback completion).2 = (right.callback completion).2 ∧
      (left.callback completion).1.state = (right.callback completion).1.state ∧
      ((left.callback completion).1.state ≠ .idle →
        Alike (left.callback completion).1 (right.callback completion).1) :=
  ((alike.react completion).finish completion.live).advance

theorem Alike.serve (completions : List Completion) :
    {left right : Action} → Alike left right →
      left.serve completions = right.serve completions := by
  induction completions with
  | nil => intro left right _; rfl
  | cons completion completions ih =>
      intro left right alike
      obtain ⟨outputs, state, stays⟩ := alike.callback completion
      simp only [Action.serve, ← state, outputs]
      split
      · rfl
      · next busy => rw [ih (stays busy)]

/-! ## Recycled and new actions -/

/-- A clean action with a blank record serves every query like a new action. -/
theorem queryTrace_of_blank {action : Action} (clean : action.Clean)
    (blank : Blank action.resCompletion) (req : Bytes)
    (completions : List Completion) :
    action.queryTrace req completions = fresh.queryTrace req completions := by
  have alike : Alike (action.start req) (fresh.start req) :=
    ⟨rfl, clean.conn, rfl, clean.res, fun _ => ⟨blank, ⟨rfl, rfl⟩⟩,
      by simp [start]⟩
  rw [queryTrace, queryTrace, alike.serve]

/-- A stale record shows at once: either the first success already delivers a
response, or the loss of the connection is taken for the end of one. -/
theorem queryTrace_of_stale {action : Action}
    (stale : ¬Blank action.resCompletion) (req : Bytes) :
    ∃ completion, action.queryTrace req [completion] ≠
      fresh.queryTrace req [completion] := by
  cases complete : action.resCompletion.complete with
  | true =>
      refine ⟨⟨.success, 0, [], true⟩, fun equal => ?_⟩
      have recycled : (action.start req).callback ⟨.success, 0, [], true⟩ = _ :=
        callback_ends (react_connect rfl rfl rfl) (.inr complete)
      have new : (fresh.start req).callback ⟨.success, 0, [], true⟩ = _ :=
        (callback_continues (react_connect rfl rfl rfl) rfl rfl).trans
          (advance_connect rfl rfl)
      simp [queryTrace, serve, recycled, new, parting, complete, cleaned] at equal
  | false =>
      have notImplicit : action.resCompletion.implicit = false := by
        by_contra implicit
        exact stale ⟨complete, by simpa using implicit⟩
      refine ⟨⟨.closed, 0, [], true⟩, fun equal => ?_⟩
      have failing : (action.start req).Fails ⟨.closed, 0, [], true⟩ :=
        ⟨by simp, by simp [notImplicit]⟩
      have recycled : (action.start req).callback ⟨.closed, 0, [], true⟩ = _ :=
        callback_ends (react_of_fails rfl failing) (.inl rfl)
      have new : (fresh.start req).callback ⟨.closed, 0, [], true⟩ = _ :=
        (callback_continues (react_of_closed rfl (by simp)
          fun fails => fails.2 ⟨rfl, rfl⟩) rfl rfl).trans (advance_connect rfl rfl)
      simp [queryTrace, serve, recycled, new, fail, cleaned] at equal

/-- A response that comes after outputs without one, of which the last reports
that the request was sent, comes after that report. -/
theorem sent_mem_of_split (head : List Output) {tail before after : List Output}
    {msg : Option Bytes} (none : ∀ response, .recv response ∉ head)
    (split : head ++ .sent :: tail = before ++ .recv msg :: after) :
    .sent ∈ before := by
  rcases List.append_eq_append_iff.mp split with
    ⟨between, rfl, rest⟩ | ⟨between, rfl, rest⟩
  · cases between with
    | nil => simp at rest
    | cons first between =>
        rw [List.cons_append, List.cons.injEq] at rest
        simp [← rest.1]
  · cases between with
    | nil => simp at rest
    | cons first between =>
        rw [List.cons_append, List.cons.injEq] at rest
        exact absurd (by simp [← rest.1]) (none msg)

/-- A trace without a response does not contain one. -/
theorem queryTrace_ne {action : Action} {req : Bytes}
    {completions : List Completion} {before after : List Output}
    {msg : Option Bytes}
    (none : .recv msg ∉ (action.start req).serve completions) :
    action.queryTrace req completions ≠ before ++ .recv msg :: after := by
  intro trace
  have present : .recv msg ∈ action.queryTrace req completions := by simp [trace]
  rcases List.mem_cons.mp present with equal | later
  · simp at equal
  · exact none later

section FirstOperations

variable {action : Action} {first : Completion} (rest : List Completion)

theorem serve_dead (dead : first.live = false) :
    action.serve (first :: rest) = [] := by
  simp [serve, callback_ends (react_of_dead dead) (.inl rfl), dead]

theorem serve_connect (state : action.state = .connect)
    (blank : Blank action.resCompletion) (live : first.live)
    (success : first.result = .success) :
    ∃ (next : Action) (operation : Output), next.state = .send ∧
      Blank next.resCompletion ∧ operation.isTerminal = false ∧
      action.serve (first :: rest) =
        .connOpen first.conn :: operation :: next.serve rest := by
  have connected : action.callback first = _ :=
    (callback_continues (react_connect live success state) rfl blank.1).trans
      (advance_connect rfl state)
  refine ⟨(action.callback first).1,
    .write (some first.conn) (action.req.getD []), ?_, ?_, rfl, ?_⟩
  · rw [connected]
  · rw [connected]
    exact blank
  · rw [serve, connected, if_neg (by simp)]
    rfl

theorem serve_send (state : action.state = .send)
    (blank : Blank action.resCompletion) (live : first.live)
    (success : first.result = .success) :
    ∃ tail, action.serve (first :: rest) = .sent :: tail := by
  have written : action.callback first = _ :=
    (callback_continues (react_send live success state) rfl blank.1).trans
      (advance_send rfl state)
  rw [serve, written, if_neg (by simp)]
  exact ⟨_, rfl⟩

end FirstOperations

/-- An action with a blank record whose first two operations succeed delivers a
response only after its request was written. -/
theorem sent_before_recv {action : Action} {req : Bytes}
    {completions : List Completion} (blank : Blank action.resCompletion)
    (success : ∀ completion ∈ completions.take 2, completion.result = .success)
    {before after : List Output} {msg : Option Bytes}
    (trace : action.queryTrace req completions = before ++ .recv msg :: after) :
    .sent ∈ before := by
  cases completions with
  | nil => exact absurd trace (queryTrace_ne (by simp [serve]))
  | cons first completions =>
      cases live : first.live with
      | false => exact absurd trace (queryTrace_ne (by simp [serve_dead completions live]))
      | true =>
          obtain ⟨sending, operation, state, sendingBlank, quiet, served⟩ :=
            serve_connect completions (start_state action req) blank live
              (success first (by simp))
          have notRecv : ∀ response, .recv response ≠ operation := by
            rintro response rfl
            simp [Output.isTerminal] at quiet
          cases completions with
          | nil =>
              refine absurd trace (queryTrace_ne ?_)
              rw [served]
              simp [serve, notRecv]
          | cons second completions =>
              cases secondLive : second.live with
              | false =>
                  refine absurd trace (queryTrace_ne ?_)
                  simp [served, serve_dead completions secondLive, notRecv]
              | true =>
                  obtain ⟨tail, sent⟩ := serve_send completions state
                    sendingBlank secondLive (success second (by simp))
                  rw [queryTrace, served, sent] at trace
                  refine sent_mem_of_split
                    [.connect, .connOpen first.conn, operation] ?_ trace
                  simp [notRecv]

end Action

namespace HttpClient

/-! ## Outputs of a query in a run of the client -/

/-- The outputs of one query, in order. -/
def outputsOf (client : HttpClient) (query : Nat) : List Output :=
  (client.log.filter fun entry => decide (entry.1 = query)).map Prod.snd

/-- The completions that a run delivers to one action. -/
def deliveries (index : Nat) : List Label → List Completion
  | [] => []
  | .request _ :: labels => deliveries index labels
  | .complete other completion :: labels =>
      if other = index then completion :: deliveries index labels
      else deliveries index labels

variable {client : HttpClient}

/-- A callback adds its outputs to the query that its action serves. -/
theorem outputsOf_complete (client : HttpClient) (index : Nat)
    (completion : Completion) (query : Nat) :
    (client.complete index completion).outputsOf query =
      client.outputsOf query ++ if client.serving index = query then
        ((client.actions index).callback completion).2 else [] := by
  obtain ⟨_, _, _, _, log⟩ := complete_frame client index completion
  rw [outputsOf, log, List.filter_append, List.map_append, List.filter_map]
  split
  · next same => simp [outputsOf, same, Function.comp_def]
  · next other => simp [outputsOf, other, Function.comp_def]

/-- A request adds an output to the new query only. -/
theorem outputsOf_request (pooled : client.Pooled) (prep : Prep) {query : Nat}
    (earlier : query < client.accepted) :
    (client.request prep).outputsOf query = client.outputsOf query := by
  have reserved := pooled.reserve
  cases prep with
  | thrown | declined =>
      simp only [outputsOf]
      exact congrArg (fun log => List.map Prod.snd
        (List.filter (fun entry => decide (entry.1 = query)) log)) reserved.log
  | accepted req =>
      have different : client.reserve.2.accepted ≠ query := by
        rw [reserved.accepted]
        exact Nat.ne_of_gt earlier
      have logEq : (client.request (.accepted req)).log = client.log ++
          [(client.reserve.2.accepted, .connect)] := by
        rw [← reserved.log]
        rfl
      simp [outputsOf, logEq, different]

theorem request_accepted (client : HttpClient) (req : Bytes) :
    client.request (.accepted req) =
      client.reserve.2.launch client.reserve.1 req := rfl

/-- What a request means for the queries before it. -/
theorem request_frame (pooled : client.Pooled) (prep : Prep) :
    client.accepted ≤ (client.request prep).accepted ∧
      (∀ index ∈ (client.request prep).active, index ∈ client.active ∨
        client.accepted ≤ (client.request prep).serving index) ∧
      ∀ index ∈ client.active, index ∈ (client.request prep).active ∧
        (client.request prep).serving index = client.serving index ∧
        (client.request prep).actions index = client.actions index := by
  have reserved := pooled.reserve
  cases prep with
  | thrown | declined =>
      refine ⟨reserved.accepted.ge, ?_, ?_⟩
      · intro index member
        exact .inl (reserved.active ▸ member)
      · intro index member
        exact ⟨(reserved.active ▸ member : index ∈ client.reserve.2.active),
          congrFun reserved.serving index, reserved.actions index member⟩
  | accepted req =>
      rw [request_accepted]
      generalize client.reserve.1 = taken at reserved ⊢
      generalize client.reserve.2 = after at reserved ⊢
      have old : ∀ index ∈ client.active, index ≠ taken := by
        rintro index member rfl
        rw [← reserved.active] at member
        exact reserved.outside (List.mem_append_left _ member)
      refine ⟨reserved.accepted.ge.trans (Nat.le_succ _), ?_, ?_⟩
      · intro index member
        simp only [launch, List.mem_cons, reserved.active] at member
        rcases member with rfl | earlier
        · refine .inr ?_
          simp only [launch, Function.update_self]
          exact reserved.accepted.ge
        · exact .inl earlier
      · intro index member
        simp only [launch, Function.update_of_ne (old index member),
          List.mem_cons, reserved.active, reserved.serving]
        exact ⟨.inr member, trivial, reserved.actions index member⟩

/-- A query whose action returned to the pool gets no more outputs. -/
theorem outputsOf_of_returned {query : Nat} {labels : List Label} :
    {client final : HttpClient} → client.Pooled → query < client.accepted →
    client.Returned query → run step client labels = some final →
    final.outputsOf query = client.outputsOf query := by
  induction labels with
  | nil =>
      intro client final _ _ _ reached
      rw [Option.some.inj reached]
  | cons label labels ih =>
      intro client final pooled accepted returned reached
      obtain ⟨next, stepped, rest⟩ := run_cons_eq_some.mp reached
      have pooledNext := pooled.step stepped
      cases label with
      | request prep =>
          obtain rfl := Option.some.inj stepped
          obtain ⟨more, new, old⟩ := request_frame pooled prep
          rw [ih pooledNext (accepted.trans_le more) ?_ rest,
            outputsOf_request pooled prep accepted]
          intro index member
          rcases new index member with earlier | later
          · rw [(old index earlier).2.1]
            exact returned index earlier
          · exact Nat.ne_of_gt (accepted.trans_le later)
      | complete index completion =>
          obtain ⟨active, rfl⟩ := step_complete stepped
          obtain ⟨_, acceptedEq, serving, _, _⟩ :=
            complete_frame client index completion
          rw [ih pooledNext (acceptedEq ▸ accepted) ?_ rest, outputsOf_complete,
            if_neg (returned index active), List.append_nil]
          intro other member
          rw [serving]
          exact returned other (mem_active_of_complete member)

/-- In a run, the outputs of the query of an active action are those that the
action gives for the completions delivered to it. -/
theorem outputsOf_run {index : Nat} {labels : List Label} :
    {client final : HttpClient} → client.Pooled → index ∈ client.active →
    run step client labels = some final →
    final.outputsOf (client.serving index) =
      client.outputsOf (client.serving index) ++
        (client.actions index).serve (deliveries index labels) := by
  induction labels with
  | nil =>
      intro client final _ _ reached
      rw [Option.some.inj reached, deliveries, Action.serve, List.append_nil]
  | cons label labels ih =>
      intro client final pooled active reached
      obtain ⟨next, stepped, rest⟩ := run_cons_eq_some.mp reached
      have pooledNext := pooled.step stepped
      cases label with
      | request prep =>
          obtain rfl := Option.some.inj stepped
          obtain ⟨activeNext, serving, action⟩ :=
            (request_frame pooled prep).2.2 index active
          have later := ih pooledNext activeNext rest
          rw [serving, action,
            outputsOf_request pooled prep (pooled.served index active)] at later
          exact later
      | complete other completion =>
          obtain ⟨otherActive, rfl⟩ := step_complete stepped
          obtain ⟨_, accepted, serving, actions, _⟩ :=
            complete_frame client other completion
          by_cases same : other = index
          · subst same
            rw [deliveries, if_pos rfl, Action.serve]
            split
            · next idle =>
              rw [outputsOf_of_returned pooledNext
                (accepted ▸ pooled.served other active)
                (pooled.returned_of_idle active idle) rest, outputsOf_complete, if_pos rfl]
            · next busy =>
              have activeNext : other ∈
                  (client.complete other completion).active := by
                rw [(complete_of_busy busy).1]
                exact active
              have later := ih pooledNext activeNext rest
              rw [serving, actions, Function.update_self, outputsOf_complete,
                if_pos rfl, List.append_assoc] at later
              exact later
          · have activeNext : index ∈ (client.complete other completion).active :=
              active_of_complete_ne active (Ne.symm same)
            have later := ih pooledNext activeNext rest
            rw [serving, actions, Function.update_of_ne (Ne.symm same),
              outputsOf_complete,
              if_neg (pooled.serving_ne otherActive active same),
              List.append_nil] at later
            rw [deliveries, if_neg same]
            exact later

/-- The outputs of a query that is accepted in a given state are those of the
action that is taken for it. -/
theorem outputsOf_accepted {req : Bytes} {labels : List Label}
    {final : HttpClient} (pooled : client.Pooled)
    (reached : run step (client.request (.accepted req)) labels = some final) :
    final.outputsOf client.accepted =
      (client.reserve.2.actions client.reserve.1).queryTrace req
        (deliveries client.reserve.1 labels) := by
  have reserved := pooled.reserve
  have pooledNext := pooled.request (.accepted req)
  rw [request_accepted] at reached pooledNext
  generalize client.reserve.1 = taken at reserved reached pooledNext ⊢
  generalize client.reserve.2 = after at reserved reached pooledNext ⊢
  have serving : (after.launch taken req).serving taken = client.accepted := by
    simp [launch, reserved.accepted]
  have first : (after.launch taken req).outputsOf client.accepted =
      [.connect] := by
    have none : after.log.filter
        (fun entry => decide (entry.1 = client.accepted)) = [] := by
      refine List.filter_eq_nil_iff.mpr fun entry member => ?_
      have earlier := pooled.logged entry (reserved.log ▸ member)
      simp [Nat.ne_of_lt earlier]
    simp [outputsOf, launch, List.filter_append, none, reserved.accepted]
  have outputs := outputsOf_run pooledNext
    (show taken ∈ (after.launch taken req).active by simp [launch]) reached
  rw [serving, first] at outputs
  simpa [launch, Action.queryTrace] using outputs

/-- The action that is taken from a pool that is not empty. -/
theorem reserve_recycled {index : Nat} {rest : List Nat}
    (waiting : client.idle = index :: rest) :
    client.reserve.1 = index ∧
      (client.reserve.2.actions index).resCompletion =
        (client.actions index).resCompletion := by
  simp [reserve, allocate, waiting]

/-- After every history, whatever the handler and the peers did, the next query
is served by a recycled action as by a new one exactly when the completion record
left in the action is blank; and then a response is delivered only after the
request was written, if the first two operations succeed. -/
theorem recycled_iff_blank (history : List Label) (client : HttpClient)
    (reached : run step initial history = some client) (index : Nat)
    (rest : List Nat) (waiting : client.idle = index :: rest) :
    ((∀ req labels final,
        run step (client.request (.accepted req)) labels = some final →
        final.outputsOf client.accepted =
          Action.fresh.queryTrace req (deliveries index labels)) ↔
      Action.Blank (client.actions index).resCompletion) ∧
    (Action.Blank (client.actions index).resCompletion →
      ∀ req labels final,
        run step (client.request (.accepted req)) labels = some final →
        (∀ completion ∈ (deliveries index labels).take 2,
          completion.result = .success) →
        ∀ before msg after,
          final.outputsOf client.accepted = before ++ .recv msg :: after →
          .sent ∈ before) := by
  have pooled : client.Pooled := invariant_of_run Pooled pooled_initial
    (fun _ _ _ pooled _ stepped => pooled.step stepped)
    (meets_true initial history) reached
  obtain ⟨taken, record⟩ := reserve_recycled waiting
  have clean := pooled.reserve.clean
  rw [taken] at clean
  refine ⟨⟨fun alike => ?_, fun blank req labels final continued => ?_⟩, ?_⟩
  · by_contra stale
    rw [← record] at stale
    obtain ⟨completion, differs⟩ := Action.queryTrace_of_stale stale []
    have active : index ∈ (client.request (.accepted [])).active := by
      rw [request_accepted, ← taken]
      exact List.mem_cons_self
    have continued : run step (client.request (.accepted []))
        [.complete index completion] =
          some ((client.request (.accepted [])).complete index completion) := by
      simp [run, step, active]
    have outputs := outputsOf_accepted pooled continued
    rw [alike _ _ _ continued, taken] at outputs
    simp only [deliveries, if_true] at outputs
    exact differs outputs.symm
  · rw [outputsOf_accepted pooled continued, taken,
      Action.queryTrace_of_blank clean (record ▸ blank)]
  · intro blank req labels final continued success before msg after split
    rw [outputsOf_accepted pooled continued, taken] at split
    exact Action.sent_before_recv (record ▸ blank) success split

/-- A query that fails while it connects leaves a blank record behind. -/
def failedVisit : List Label :=
  [.request (.accepted (ascii "GET /")), .complete 0 ⟨.timedout, 0, [], true⟩]

/-- The next query is served as by a new action. -/
theorem recycled_iff_blank_failedVisit :
    ∃ client, run step initial failedVisit = some client ∧
      ∀ req labels final,
        run step (client.request (.accepted req)) labels = some final →
        final.outputsOf client.accepted =
          Action.fresh.queryTrace req (deliveries 0 labels) := by
  have summary : (run step initial failedVisit).map (fun client =>
      (client.idle, (client.actions 0).resCompletion)) =
        some ([0], .empty) := by
    decide +kernel
  obtain ⟨client, reached, equal⟩ := Option.map_eq_some_iff.mp summary
  obtain ⟨waiting, record⟩ := Prod.mk.inj equal
  refine ⟨client, reached, ?_⟩
  refine (recycled_iff_blank failedVisit client reached 0 [] waiting).1.mpr ?_
  rw [record]
  exact ⟨rfl, rfl⟩

/-- A query whose response is complete. -/
def completeVisit : List Label :=
  [.request (.accepted (ascii "GET / HTTP/1.1\r\n\r\n")),
    .complete 0 ⟨.success, 5, [], true⟩, .complete 0 ⟨.success, 0, [], true⟩,
    .complete 0 ⟨.success, 0,
      ascii "HTTP/1.1 200 OK\r\nContent-Length: 2\r\n\r\nhi", true⟩]

/-- The next query is ended with an empty response as soon as it is connected,
where a new action writes the request. -/
theorem recycled_answers_early :
    ∃ client final, run step initial completeVisit = some client ∧
      client.idle = [0] ∧
      run step (client.request (.accepted (ascii "GET /a HTTP/1.1\r\n\r\n")))
        [.complete 0 ⟨.success, 6, [], true⟩] = some final ∧
      final.outputsOf client.accepted =
        [.connect, .connOpen 6, .recv none, .connClose 6] ∧
      Action.fresh.queryTrace (ascii "GET /a HTTP/1.1\r\n\r\n")
          (deliveries 0 [.complete 0 ⟨.success, 6, [], true⟩]) =
        [.connect, .connOpen 6,
          .write (some 6) (ascii "GET /a HTTP/1.1\r\n\r\n")] := by
  have summary : (run step initial completeVisit).map (fun client =>
      (client.idle, (run step
        (client.request (.accepted (ascii "GET /a HTTP/1.1\r\n\r\n")))
        [.complete 0 ⟨.success, 6, [], true⟩]).map fun final =>
          final.outputsOf client.accepted)) =
      some ([0], some [.connect, .connOpen 6, .recv none, .connClose 6]) := by
    decide +kernel
  obtain ⟨client, reached, equal⟩ := Option.map_eq_some_iff.mp summary
  obtain ⟨waiting, served⟩ := Prod.mk.inj equal
  obtain ⟨final, continued, outputs⟩ := Option.map_eq_some_iff.mp served
  exact ⟨client, final, reached, waiting, continued, outputs, by decide +kernel⟩

end HttpClient

end Telling.Http
