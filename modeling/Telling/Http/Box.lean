import Telling.Http.Terminal
import Telling.Io.RequestBox

/-!
# HttpClient_Box

`HttpClient` under a box keeps a ledger as well: an active action stands for a query
on the ledger.  A query that fails makes two terminal calls in one callback; its
promise is set by the first and forgotten, so the second finds nothing.
-/

namespace Telling.Http

open Lib Io Msg

/-- The calls that the delegate of a box has a use for. -/
def Output.call? : Output → Option (Call (Option Bytes))
  | .connOpen _ => some .opened
  | .sent => some .sent
  | .recv msg => some (.recv msg)
  | .error status => some (.error status)
  | .responseProgress _ _ | .connClose _ | .connect | .write _ _ | .read _ _ => none

namespace Action

variable {action : Action} {completion : Completion}

theorem react_queryID (action : Action) (completion : Completion) :
    (action.react completion).action.queryID = action.queryID := by
  unfold react received fail
  split
  · rfl
  split
  · cases action.state with
    | recv =>
        simp only
        split <;> rfl
    | connect | send | idle => rfl
  split
  · split <;> rfl
  · rfl

theorem finish_queryID (working : Working) (live : Bool) :
    (finish working live).action.queryID = working.action.queryID := by
  unfold finish
  simp only
  split <;> rfl

theorem advance_queryID (working : Working) :
    (advance working).1.queryID = working.action.queryID := by
  cases disconnect : working.disconnect with
  | true => rw [advance_disconnect disconnect]
  | false =>
      cases state : working.action.state with
      | connect => rw [advance_connect disconnect state]
      | send => rw [advance_send disconnect state]
      | recv => rw [advance_recv disconnect state]
      | idle => rw [advance_idle disconnect state]

/-- A query keeps its id. -/
theorem callback_queryID (action : Action) (completion : Completion) :
    (action.callback completion).1.queryID = action.queryID := by
  rw [callback, advance_queryID, finish_queryID, react_queryID]

theorem outcomesOf_eq_nil_iff (outputs : List Output) :
    outcomesOf (outputs.filterMap Output.call?) = [] ↔ terminals outputs = 0 := by
  simp only [outcomesOf, terminals, List.filterMap_filterMap,
    List.filterMap_eq_nil_iff, List.countP_eq_zero]
  refine forall₂_congr fun output _ => ?_
  cases output <;> simp [Output.call?, Call.outcome?, Output.isTerminal]

/-- A callback makes a terminal call exactly when its action becomes idle. -/
theorem callback_idle_iff (live : completion.live) (busy : action.state ≠ .idle) :
    (action.callback completion).1.state = .idle ↔
      terminals (action.callback completion).2 ≠ 0 := by
  by_cases fails : action.Fails completion
  · obtain ⟨idle, two⟩ := callback_of_fails live fails
    simp [idle, two]
  · rcases callback_of_not_fails live busy fails with ⟨idle, one⟩ | ⟨goesOn, none⟩
    · simp [idle, one]
    · simp [goesOn, none]

end Action

namespace HttpClient

/-- What a step of `HttpClient` tells the handler. -/
def told (client : HttpClient) : Label → Told (Option Bytes)
  | .request prep =>
      let (index, reserved) := client.reserve
      match prep with
      | .thrown => .nothing
      | .declined => .declined (reserved.actions index).queryID.toNat
      | .accepted _ =>
          .started client.accepted (reserved.actions index).queryID.toNat
  | .complete index completion =>
      .calls (client.serving index) (client.actions index).queryID.toNat
        (((client.actions index).callback completion).2.filterMap Output.call?)

/-- The client of `HttpClient_Box`.  The box owns its delegate, whose `async_prep`
does not throw and leaves the message as it is. -/
def boxed : Client HttpClient Label (Option Bytes) where
  step := fun client label =>
    match label with
    | .request .thrown => none
    | label => client.liveStep label
  told := told
  what := fun connected sent =>
    if connected then
      if sent then "HTTP response reception" else "HTTP request transmission"
    else "HTTP connection establishment"

/-- The queries of the active actions. -/
def ledger (client : HttpClient) : Ledger where
  accepted := client.accepted
  live := { entry | ∃ index ∈ client.active, client.serving index = entry.1 ∧
    (client.actions index).queryID.toNat = entry.2 }

variable {client next : HttpClient}

/-- Steps that concern no active action leave the ledger as it is. -/
theorem ledger_eq (accepted : next.accepted = client.accepted)
    (active : next.active = client.active) (serving : next.serving = client.serving)
    (queryID : ∀ index ∈ client.active,
      (next.actions index).queryID = (client.actions index).queryID) :
    next.ledger = client.ledger := by
  rw [ledger, ledger, accepted, active, serving]
  congr 1
  ext ⟨query, id⟩
  refine exists_congr fun index => and_congr_right fun member => ?_
  rw [queryID index member]

theorem ledger_launch {index : Nat} {req : Bytes} (outside : index ∉ client.active) :
    (client.launch index req).ledger = ⟨client.accepted + 1,
      insert (client.accepted, (client.actions index).queryID.toNat)
        client.ledger.live⟩ := by
  have old : ∀ other ∈ client.active, other ≠ index := by
    rintro other active rfl
    exact outside active
  refine congrArg₂ Ledger.mk rfl ?_
  ext ⟨query, queryID⟩
  constructor
  · rintro ⟨other, member, serves, carries⟩
    rcases List.mem_cons.mp member with rfl | active
    · left
      simp only [launch, Function.update_self] at serves carries
      exact Prod.ext serves.symm carries.symm
    · right
      simp only [launch, Function.update_of_ne (old other active)] at serves carries
      exact ⟨other, active, serves, carries⟩
  · rintro (equal | ⟨other, active, serves, carries⟩)
    · obtain ⟨rfl, rfl⟩ := Prod.mk.inj equal
      refine ⟨index, List.mem_cons_self, ?_, ?_⟩ <;> simp [launch, Action.start]
    · refine ⟨other, List.mem_cons_of_mem _ active, ?_, ?_⟩ <;>
        simpa [launch, Function.update_of_ne (old other active)]

theorem Pooled.request_recorded (pooled : client.Pooled) {prep : Prep}
    (returns : prep ≠ .thrown) :
    Ledger.Step client.ledger (client.told (.request prep))
      (client.request prep).ledger := by
  have reserved := pooled.reserve
  have same : client.reserve.2.ledger = client.ledger := by
    refine ledger_eq reserved.accepted reserved.active reserved.serving ?_
    intro index active
    rw [reserved.actions index active]
  cases prep with
  | thrown => exact absurd rfl returns
  | declined =>
      change Ledger.Step client.ledger (.declined _) client.reserve.2.ledger
      rw [same]
      exact .declined _ _
  | accepted req =>
      have launched : (client.reserve.2.launch client.reserve.1 req).ledger = _ :=
        ledger_launch (fun member =>
          reserved.outside (List.mem_append_left _ member))
      rw [reserved.accepted, same] at launched
      change Ledger.Step client.ledger (.started client.accepted
          (client.reserve.2.actions client.reserve.1).queryID.toNat)
        (client.reserve.2.launch client.reserve.1 req).ledger
      rw [launched]
      exact .started client.ledger _

theorem Pooled.complete_recorded {index : Nat} {completion : Completion}
    (pooled : client.Pooled) (active : index ∈ client.active)
    (live : completion.live) :
    Ledger.Step client.ledger (client.told (.complete index completion))
      (client.complete index completion).ledger := by
  obtain ⟨_, accepted, serving, actions, _⟩ := complete_frame client index completion
  have queryID : ∀ other, ((client.complete index completion).actions other).queryID =
      (client.actions other).queryID := by
    intro other
    rw [actions]
    by_cases same : other = index
    · rw [same, Function.update_self, Action.callback_queryID]
    · rw [Function.update_of_ne same]
  have onLedger : (client.serving index, (client.actions index).queryID.toNat) ∈
      client.ledger.live := ⟨index, active, rfl, rfl⟩
  have terminal := Action.callback_idle_iff live (pooled.busy index active)
  by_cases idle : ((client.actions index).callback completion).1.state = .idle
  · have gone : (client.complete index completion).ledger = ⟨client.ledger.accepted,
        client.ledger.live \
          {(client.serving index, (client.actions index).queryID.toNat)}⟩ := by
      refine congrArg₂ Ledger.mk accepted ?_
      ext ⟨query, id⟩
      simp only [ledger, Set.mem_ofPred_eq, serving, queryID,
        (complete_of_idle idle).1, pooled.mem_erase]
      constructor
      · rintro ⟨other, ⟨different, member⟩, rfl, rfl⟩
        refine ⟨⟨other, member, rfl, rfl⟩, fun equal => different ?_⟩
        exact pooled.injective other member index active (Prod.mk.inj equal).1
      · rintro ⟨⟨other, member, rfl, rfl⟩, different⟩
        refine ⟨other, ⟨?_, member⟩, rfl, rfl⟩
        rintro rfl
        exact different rfl
    rw [gone]
    exact .ends _ _ _ _ onLedger
      (mt (Action.outcomesOf_eq_nil_iff _).mp (terminal.mp idle))
  · rw [ledger_eq accepted (complete_of_busy idle).1 serving fun other _ => queryID other]
    exact .goesOn _ _ _ _ onLedger
      ((Action.outcomesOf_eq_nil_iff _).mpr (not_not.mp (mt terminal.mpr idle)))

theorem boxed_request {prep : Prep}
    (stepped : boxed.step client (.request prep) = some next) :
    prep ≠ .thrown ∧ client.request prep = next := by
  cases prep with
  | thrown => simp [boxed] at stepped
  | declined | accepted _ => exact ⟨Prep.noConfusion, Option.some.inj stepped⟩

/-- `HttpClient` under a box keeps its ledger. -/
theorem boxed_keeps : boxed.Keeps Pooled ledger where
  kept := by
    intro client label next pooled stepped
    cases label with
    | request prep =>
        obtain ⟨-, rfl⟩ := boxed_request stepped
        exact pooled.request prep
    | complete index completion =>
        obtain ⟨-, active, rfl⟩ := liveStep_complete stepped
        exact pooled.complete active
  recorded := by
    intro client label next pooled stepped
    cases label with
    | request prep =>
        obtain ⟨returns, rfl⟩ := boxed_request stepped
        exact pooled.request_recorded returns
    | complete index completion =>
        obtain ⟨live, active, rfl⟩ := liveStep_complete stepped
        exact pooled.complete_recorded active live

/-- A new `HttpClient_Box`. -/
def box : Box HttpClient (Option Bytes) where
  client := initial

theorem box_coherent : box.Coherent Pooled ledger where
  client := pooled_initial
  desk := by
    have empty : initial.ledger = ⟨0, ∅⟩ := by
      refine congrArg₂ Ledger.mk rfl ?_
      ext entry
      simp [initial]
    change Desk.Kept initial.ledger {}
    rw [empty]
    exact Desk.kept_initial

end HttpClient

/-! ## Both boxes -/

section Boxes

universe u

variable {Message : Type u}

/-- In every run of `Request_Box` and of `HttpClient_Box` in which no `async_prep`
runs and no query ends between the two parts of its `request()`, and in which ids
whose promises are in use are not given out again, every `request()` that started its
query returns a future, which is set once, to the response or error of that query.
After a single step outside this condition, callers that go on at once can break
this. -/
theorem ownFutures_of_undisturbed :
    (∀ (labels : List (Box.BoxLabel (Request.Label Message)))
        (final : Box (Request Message) Message),
      Meets (Box.step Request.boxed) (Box.Undisturbed Request.boxed) Request.box
        labels →
      run (Box.step Request.boxed) Request.box labels = some final →
      final.OwnFutures ∧ ∀ label next, ¬Box.Undisturbed Request.boxed final label →
        Box.step Request.boxed final label = some next →
        Box.Endangered Request.boxed next) ∧
    (∀ (labels : List (Box.BoxLabel HttpClient.Label))
        (final : Box HttpClient (Option Bytes)),
      Meets (Box.step HttpClient.boxed) (Box.Undisturbed HttpClient.boxed)
        HttpClient.box labels →
      run (Box.step HttpClient.boxed) HttpClient.box labels = some final →
      final.OwnFutures ∧ ∀ label next, ¬Box.Undisturbed HttpClient.boxed final label →
        Box.step HttpClient.boxed final label = some next →
        Box.Endangered HttpClient.boxed next) := by
  constructor
  · intro labels final undisturbed reached
    exact Box.futures_of_keeps Request.boxed_keeps Request.box_coherent undisturbed
      reached
  · intro labels final undisturbed reached
    exact Box.futures_of_keeps HttpClient.boxed_keeps HttpClient.box_coherent
      undisturbed reached

/-- Two requests one after the other; the first is answered before the second is
made, and the second fails. -/
def orderlyRequests : List (Box.BoxLabel (Request.Label Nat)) :=
  [.client (.request true true 7 (.accepted 70)), .getFuture 0,
    .client (.complete 0 ⟨.success, 0, true⟩), .client (.commit 0),
    .client (.complete 0 ⟨.success, 71, true⟩), .client (.commit 0),
    .client (.request true true 9 (.accepted 90)), .getFuture 1,
    .client (.complete 0 ⟨.timedout, 0, true⟩)]

/-- A request over HTTP whose connection attempt times out. -/
def orderlyHttpRequest : List (Box.BoxLabel HttpClient.Label) :=
  [.client (.request (.accepted (ascii "GET /"))), .getFuture 0,
    .client (.complete 0 ⟨.timedout, 0, [], true⟩)]

theorem ownFutures_of_undisturbed_orderly :
    (∃ final, run (Box.step Request.boxed) Request.box orderlyRequests = some final ∧
      final.OwnFutures ∧ final.futures = [0, 1] ∧
      final.resolutions 0 = [.value 71] ∧
      final.resolutions 1 =
        [.exception ⟨.timedout, "Request could not be sent."⟩]) ∧
    (∃ final, run (Box.step HttpClient.boxed) HttpClient.box orderlyHttpRequest =
        some final ∧
      final.OwnFutures ∧ final.futures = [0] ∧ final.resolutions 0 =
        [.exception ⟨.timedout, "HTTP connection establishment"⟩]) := by
  constructor
  · have summary : (run (Box.step Request.boxed) Request.box orderlyRequests).map
        (fun final => (final.futures, final.resolutions 0, final.resolutions 1)) =
        some ([0, 1], [.value 71],
          [.exception ⟨.timedout, "Request could not be sent."⟩]) := by
      decide +kernel
    obtain ⟨final, reached, equal⟩ := Option.map_eq_some_iff.mp summary
    have own := (ownFutures_of_undisturbed.1 orderlyRequests final
      (by decide +kernel) reached).1
    exact ⟨final, reached, own, by simpa using equal⟩
  · have summary : (run (Box.step HttpClient.boxed) HttpClient.box
        orderlyHttpRequest).map (fun final => (final.futures, final.resolutions 0)) =
        some ([0], [.exception ⟨.timedout, "HTTP connection establishment"⟩]) := by
      decide +kernel
    obtain ⟨final, reached, equal⟩ := Option.map_eq_some_iff.mp summary
    have own := ((@ownFutures_of_undisturbed Nat).2 orderlyHttpRequest final
      (by decide +kernel) reached).1
    exact ⟨final, reached, own, by simpa using equal⟩

/-- The second request is made before the first has called `getFuture`. -/
def overlappingRequests : List (Box.BoxLabel (Request.Label Nat)) :=
  [.client (.request true true 7 (.accepted 70)),
    .client (.request true true 9 (.accepted 90)), .getFuture 0]

/-- The first query is answered before its `getFuture`, and the second is served by
the same action. -/
def overtakenRequest : List (Box.BoxLabel (Request.Label Nat)) :=
  [.client (.request true true 7 (.accepted 70)),
    .client (.complete 0 ⟨.success, 0, true⟩), .client (.commit 0),
    .client (.complete 0 ⟨.success, 71, true⟩), .client (.commit 0),
    .client (.request true true 9 (.accepted 90)), .getFuture 0, .getFuture 1,
    .client (.complete 0 ⟨.success, 0, true⟩), .client (.commit 0),
    .client (.complete 0 ⟨.success, 91, true⟩)]

/-- The connection attempt fails before `getFuture`. -/
def overtakenHttpRequest : List (Box.BoxLabel HttpClient.Label) :=
  [.client (.request (.accepted (ascii "GET /"))),
    .client (.complete 0 ⟨.timedout, 0, [], true⟩), .getFuture 0]

/-- Overlapping requests and early responses: a `request()` throws although its query
was started, or returns the future of another query. -/
theorem futures_lost :
    (∃ final, run (Box.step Request.boxed) Request.box overlappingRequests =
        some final ∧ final.started = [0, 1] ∧
      final.threw = [(0, .nng ⟨.internal, "Inconsistent Query ID"⟩)]) ∧
    (∃ final, run (Box.step Request.boxed) Request.box overtakenRequest =
        some final ∧ final.futures = [0] ∧
      final.threw = [(1, .nng ⟨.internal, "Inconsistent Query ID"⟩)] ∧
      final.outcomes 0 = [.response 71] ∧ final.resolutions 0 = [.value 91]) ∧
    (∃ final, run (Box.step HttpClient.boxed) HttpClient.box overtakenHttpRequest =
        some final ∧ final.started = [0] ∧
      final.threw = [(0, .nng ⟨.internal, "Inconsistent Query ID"⟩)]) := by
  refine ⟨?_, ?_, ?_⟩
  · have summary : (run (Box.step Request.boxed) Request.box overlappingRequests).map
        (fun final => (final.started, final.threw)) =
        some ([0, 1], [(0, .nng ⟨.internal, "Inconsistent Query ID"⟩)]) := by
      decide +kernel
    obtain ⟨final, reached, equal⟩ := Option.map_eq_some_iff.mp summary
    exact ⟨final, reached, by simpa using equal⟩
  · have summary : (run (Box.step Request.boxed) Request.box overtakenRequest).map
        (fun final => ((final.futures, final.threw),
          (final.outcomes 0, final.resolutions 0))) =
        some (([0], [(1, .nng ⟨.internal, "Inconsistent Query ID"⟩)]),
          ([.response 71], [.value 91])) := by
      decide +kernel
    obtain ⟨final, reached, equal⟩ := Option.map_eq_some_iff.mp summary
    exact ⟨final, reached, by simpa [and_assoc] using equal⟩
  · have summary : (run (Box.step HttpClient.boxed) HttpClient.box
        overtakenHttpRequest).map (fun final => (final.started, final.threw)) =
        some ([0], [(0, .nng ⟨.internal, "Inconsistent Query ID"⟩)]) := by
      decide +kernel
    obtain ⟨final, reached, equal⟩ := Option.map_eq_some_iff.mp summary
    exact ⟨final, reached, by simpa using equal⟩

end Boxes

end Telling.Http
