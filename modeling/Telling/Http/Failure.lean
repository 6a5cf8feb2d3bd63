import Telling.Http.Pool

/-!
# Operations that fail

An operation that fails should end its query.  The callback passes over the error
of a closed connection when the completion record gives no length, and goes on as
if the operation had succeeded.  A new query has such a record before anything
was received, so a connection attempt that fails this way is followed by a write
on no connection, and a response that ends with its connection by one read after
the other.
-/

namespace Telling.Http

open Lib Msg

/-- Operations on a connection. -/
def Output.isIo : Output → Bool
  | .connect | .write _ _ | .read _ _ => true
  | _ => false

namespace Action

variable {action : Action} {completion : Completion}

/-- The bytes of the response that were received so far. -/
def receivedBytes (action : Action) : Bytes :=
  (action.res.getD []).take action.recvCount

/-- They contain the header of the response. -/
def HeaderReceived (action : Action) : Prop :=
  (parseMsg .reset action.receivedBytes .reply).thrown = none

instance (action : Action) : Decidable action.HeaderReceived :=
  inferInstanceAs (Decidable (_ = none))

/-- The peer closed the connection behind a response of implicit length. -/
structure ClosedByPeer (action : Action) (completion : Completion) : Prop where
  live : completion.live
  state : action.state = .recv
  closed : isClosed completion.result
  implicit : action.resCompletion.implicit
  header : action.HeaderReceived

/-- The callback takes the error for the end of a response of implicit length, and
the query does not end with the bytes received. -/
def PassesOver (action : Action) (completion : Completion) : Prop :=
  completion.live ∧ isClosed completion.result ∧ action.resCompletion.implicit ∧
    (action.resCompletion.complete →
      action.state = .recv ∧ action.HeaderReceived ∧
        action.res ≠ some action.receivedBytes)

/-- The calls made when an action ends start no operation. -/
theorem isIo_parting (action : Action) (live : Bool) :
    ∀ output ∈ action.parting live, output.isIo = false := by
  intro output member
  rcases List.mem_append.mp member with delivered | closed
  · split at delivered
    · rw [List.mem_singleton.mp delivered]
      rfl
    · simp at delivered
  · split at closed
    · split at closed
      · rw [List.mem_singleton.mp closed]
        rfl
      · simp at closed
    · simp at closed

/-- The calls made when an action with a complete response ends: the response is
handed over, and what follows closes the connection. -/
theorem parting_of_complete {action : Action} (complete : action.resCompletion.complete) :
    ∃ closings, action.parting true = .recv action.res :: closings ∧
      ∀ output ∈ closings, ∃ conn, output = .connClose conn := by
  cases connected : action.conn with
  | none => exact ⟨[], by simp [parting, complete, connected], by simp⟩
  | some conn =>
      exact ⟨[.connClose conn], by simp [parting, complete, connected], by simp⟩

/-- An action that goes on starts an operation. -/
theorem advance_isIo {working : Working} (connected : working.disconnect = false)
    (busy : working.action.state ≠ .idle) :
    ∃ operation ∈ (advance working).2, operation.isIo = true := by
  cases state : working.action.state with
  | idle => exact absurd state busy
  | connect =>
      rw [advance_connect connected state]
      exact ⟨_, List.mem_append_right _ List.mem_cons_self, rfl⟩
  | send =>
      rw [advance_send connected state]
      exact ⟨_, List.mem_append_right _ List.mem_cons_self, rfl⟩
  | recv =>
      rw [advance_recv connected state]
      exact ⟨_, List.mem_append_right _ List.mem_cons_self, rfl⟩

/-- The error of a closed connection that the callback does not treat as one. -/
theorem not_fails_of_closed (closed : isClosed completion.result)
    (implicit : action.resCompletion.implicit) : ¬action.Fails completion :=
  fun fails => fails.2 ⟨closed, implicit⟩

/-- Then a query whose record says that the response is complete is answered with
the whole buffer. -/
theorem callback_of_closed (live : completion.live)
    (failed : completion.result ≠ .success) (closed : isClosed completion.result)
    (implicit : action.resCompletion.implicit)
    (complete : action.resCompletion.complete) :
    action.callback completion = (action.cleaned, action.parting true) := by
  have reacted := react_of_closed live failed (not_fails_of_closed closed implicit)
  rw [callback_ends reacted (.inr complete), live]
  rfl

end Action

namespace HttpClient

variable {client : HttpClient} {index : Nat} {completion : Completion}

/-- A callback ends the query of its action: it starts no operation, the action
moves to the pool, and a response that the peer ended by closing the connection is
delivered. -/
structure EndsQuery (client : HttpClient) (index : Nat) (completion : Completion) :
    Prop where
  noIo : ∀ output ∈ ((client.actions index).callback completion).2,
    output.isIo = false
  state : ((client.complete index completion).actions index).state = .idle
  active : (client.complete index completion).active = client.active.erase index
  idle : (client.complete index completion).idle = client.idle ++ [index]
  delivered : (client.actions index).ClosedByPeer completion →
    .recv (some (client.actions index).receivedBytes) ∈
        ((client.actions index).callback completion).2 ∧
      ∀ error, .error error ∉ ((client.actions index).callback completion).2

/-- What a callback that leaves its action idle does to the containers. -/
theorem endsQuery_of_idle
    (idle : ((client.actions index).callback completion).1.state = .idle)
    (noIo : ∀ output ∈ ((client.actions index).callback completion).2,
      output.isIo = false)
    (delivered : (client.actions index).ClosedByPeer completion →
      .recv (some (client.actions index).receivedBytes) ∈
          ((client.actions index).callback completion).2 ∧
        ∀ error, .error error ∉ ((client.actions index).callback completion).2) :
    client.EndsQuery index completion := by
  refine ⟨noIo, ?_, ?_, ?_, delivered⟩
  · simp [complete, idle]
  · simp [complete, idle]
  · simp [complete, idle]

/-- A query that the callback treats as failed, or that has lost its handler, is
over. -/
theorem endsQuery_of_disconnect
    (disconnect : ((client.actions index).react completion).disconnect)
    (silent : ∀ output ∈ ((client.actions index).react completion).outputs,
      output.isIo = false)
    (notClosed : ¬(client.actions index).ClosedByPeer completion) :
    client.EndsQuery index completion := by
  have ended := Action.callback_ends
    (rfl : (client.actions index).react completion = _) (.inl disconnect)
  apply endsQuery_of_idle
  · rw [ended]
    rfl
  · intro output member
    rw [ended] at member
    rcases List.mem_append.mp member with early | late
    · exact silent output early
    · exact Action.isIo_parting _ _ output late
  · exact fun closed => absurd closed notClosed

theorem endsQuery_of_complete (live : completion.live)
    (failed : completion.result ≠ .success) (closed : isClosed completion.result)
    (implicit : (client.actions index).resCompletion.implicit)
    (complete : (client.actions index).resCompletion.complete) :
    client.EndsQuery index completion ↔
      ((client.actions index).state = .recv →
        (client.actions index).HeaderReceived →
        (client.actions index).res = some (client.actions index).receivedBytes) := by
  have called := Action.callback_of_closed live failed closed implicit complete
  obtain ⟨closings, parted, closes⟩ := Action.parting_of_complete complete
  constructor
  · intro ends state header
    have member := (ends.delivered ⟨live, state, closed, implicit, header⟩).1
    rw [called, parted, List.mem_cons] at member
    rcases member with equal | other
    · exact (Output.recv.inj equal).symm
    · obtain ⟨conn, equal⟩ := closes _ other
      contradiction
  · intro whole
    apply endsQuery_of_idle
    · rw [called]
      rfl
    · rw [called]
      exact Action.isIo_parting _ _
    · intro byPeer
      rw [called, parted, whole byPeer.state byPeer.header]
      refine ⟨List.mem_cons_self, fun error member => ?_⟩
      rcases List.mem_cons.mp member with equal | other
      · contradiction
      · obtain ⟨conn, equal⟩ := closes _ other
        contradiction

/-- A failed operation ends its query exactly when the callback does not pass over
the error. -/
theorem failure_ends_iff (client : HttpClient) (index : Nat) (completion : Completion)
    (busy : (client.actions index).state ≠ .idle)
    (failed : completion.result ≠ .success) :
    client.EndsQuery index completion ↔
      ¬(client.actions index).PassesOver completion := by
  cases live : completion.live with
  | false =>
      refine iff_of_true (endsQuery_of_disconnect ?_ ?_ ?_) ?_
      · rw [Action.react_of_dead live]
      · rw [Action.react_of_dead live]
        simp
      · exact fun closed => absurd closed.live (by simp [live])
      · exact fun passes => absurd passes.1 (by simp [live])
  | true =>
      by_cases fails : (client.actions index).Fails completion
      · have reacted := Action.react_of_fails live fails
        refine iff_of_true (endsQuery_of_disconnect ?_ ?_ ?_) ?_
        · rw [reacted]
          rfl
        · rw [reacted]
          simp [Action.fail, Output.isIo]
        · exact fun closed => fails.2 ⟨closed.closed, closed.implicit⟩
        · exact fun passes => fails.2 ⟨passes.2.1, passes.2.2.1⟩
      · obtain ⟨closed, implicit⟩ : isClosed completion.result ∧
            (client.actions index).resCompletion.implicit := by
          by_contra other
          exact fails ⟨failed, other⟩
        cases complete : (client.actions index).resCompletion.complete with
        | true =>
            rw [endsQuery_of_complete live failed closed implicit complete]
            simp [Action.PassesOver, live, closed, implicit, complete]
        | false =>
            -- Nothing tells the rest of the callback that the operation failed.
            refine iff_of_false (fun ends => ?_) (not_not.mpr ?_)
            · have reacted := Action.react_of_closed live failed fails
              have called := Action.callback_continues reacted rfl complete
              obtain ⟨operation, member, isIo⟩ := Action.advance_isIo
                (rfl : (Action.Working.mk (client.actions index) [] false).disconnect =
                  false) busy
              rw [← called] at member
              simp [ends.noIo operation member] at isIo
            · exact ⟨live, closed, implicit, by simp [complete]⟩

/-- A query whose response announced its length. -/
def interrupted : List Label :=
  [.request (.accepted (ascii "GET / HTTP/1.1\r\n\r\n")),
    .complete 0 ⟨.success, 5, [], true⟩, .complete 0 ⟨.success, 0, [], true⟩,
    .complete 0 ⟨.success, 0,
      ascii "HTTP/1.1 200 OK\r\nContent-Length: 9\r\n\r\nhi", true⟩]

/-- It is over when the connection is closed early. -/
theorem failure_ends_interrupted :
    ∃ client, run step initial interrupted = some client ∧
      (client.actions 0).state = .recv ∧
      client.EndsQuery 0 ⟨.connshut, 0, [], true⟩ := by
  have summary : (run step initial interrupted).map (fun client =>
      ((client.actions 0).state, (client.actions 0).resCompletion.implicit)) =
        some (.recv, false) := by
    decide +kernel
  obtain ⟨client, reached, equal⟩ := Option.map_eq_some_iff.mp summary
  obtain ⟨state, explicit⟩ := Prod.mk.inj equal
  refine ⟨client, reached, state, ?_⟩
  refine (failure_ends_iff client 0 ⟨.connshut, 0, [], true⟩ ?_ ?_).mpr ?_
  · simp [state]
  · simp
  · intro passes
    exact absurd passes.2.2.1 (by simp [explicit])

/-- A response without a length. -/
def unmeasured : List Label :=
  [.request (.accepted (ascii "GET / HTTP/1.1\r\n\r\n")),
    .complete 0 ⟨.success, 5, [], true⟩, .complete 0 ⟨.success, 0, [], true⟩,
    .complete 0 ⟨.success, 0, ascii "HTTP/1.1 200 OK\r\n\r\nhi", true⟩]

/-- A connection attempt that fails with a closed connection is followed by a write
on no connection; a response without a length is not delivered when the peer
closes the connection, but read on. -/
theorem failure_passed_over :
    (∃ client, run step initial [.request (.accepted (ascii "GET /"))] = some client ∧
      ((client.actions 0).callback ⟨.closed, 0, [], true⟩).2 =
        [.write none (ascii "GET /")] ∧
      ¬client.EndsQuery 0 ⟨.closed, 0, [], true⟩) ∧
    ∃ client, run step initial unmeasured = some client ∧
      ((client.actions 0).callback ⟨.connshut, 0, [], true⟩).2 =
        [.read (some 5) ⟨21, 4096⟩] ∧
      ¬client.EndsQuery 0 ⟨.connshut, 0, [], true⟩ := by
  have attempt : (run step initial [.request (.accepted (ascii "GET /"))]).map
      (fun client => ((client.actions 0).callback ⟨.closed, 0, [], true⟩).2) =
        some [.write none (ascii "GET /")] := by
    decide +kernel
  have response : (run step initial unmeasured).map
      (fun client => ((client.actions 0).callback ⟨.connshut, 0, [], true⟩).2) =
        some [.read (some 5) ⟨21, 4096⟩] := by
    decide +kernel
  constructor
  · obtain ⟨client, reached, outputs⟩ := Option.map_eq_some_iff.mp attempt
    refine ⟨client, reached, outputs, fun ends => ?_⟩
    exact absurd (ends.noIo _ (outputs ▸ List.mem_cons_self)) (by simp [Output.isIo])
  · obtain ⟨client, reached, outputs⟩ := Option.map_eq_some_iff.mp response
    refine ⟨client, reached, outputs, fun ends => ?_⟩
    exact absurd (ends.noIo _ (outputs ▸ List.mem_cons_self)) (by simp [Output.isIo])

end HttpClient

end Telling.Http
