import Telling.Http.Pool

/-!
# Terminal events of HTTP queries

A query ends with `async_recv` or `async_error`.  The callback's error branch
empties the completion record, which the shared delivery code then reads as a
response of implicit length, so a query that fails gets both.  Every query gets
exactly one terminal event in the runs in which no completion takes this branch,
and in no others.
-/

namespace Telling.Http

open Lib Msg

namespace Action

variable {action : Action} {completion : Completion}

/-- The number of terminal events among some outputs. -/
def terminals (outputs : List Output) : Nat := outputs.countP Output.isTerminal

theorem terminals_of_none {outputs : List Output}
    (none : ∀ output ∈ outputs, output.isTerminal = false) :
    terminals outputs = 0 :=
  List.countP_eq_zero.mpr fun output member => by simp [none output member]

/-- A live handler gets one terminal event with the message that is turned
over. -/
theorem terminals_parting
    (delivers : action.resCompletion.complete ∨ action.resCompletion.implicit) :
    terminals (action.parting true) = 1 := by
  have condition : ((action.resCompletion.complete ||
      action.resCompletion.implicit) && true) = true := by
    rcases delivers with complete | implicit
    · simp [complete]
    · simp [implicit]
  unfold parting
  rw [if_pos condition]
  cases action.conn <;> rfl

/-- The error branch is followed by the delivery of whatever was received. -/
theorem callback_of_fails (live : completion.live)
    (fails : action.Fails completion) :
    (action.callback completion).1.state = .idle ∧
      terminals (action.callback completion).2 = 2 := by
  rw [callback_ends (react_of_fails live fails) (.inl rfl), live]
  have delivered :
      terminals ((action.fail completion.result).action.parting true) = 1 :=
    terminals_parting (.inr rfl)
  refine ⟨rfl, ?_⟩
  rw [terminals] at delivered ⊢
  rw [List.countP_append, delivered]
  rfl

/-- What the first part of the callback leaves when nothing failed. -/
theorem react_of_not_fails (live : completion.live)
    (busy : action.state ≠ .idle) (quiet : ¬action.Fails completion) :
    (action.react completion).disconnect = false ∧
      (action.react completion).action.state = action.state ∧
      ∀ output ∈ (action.react completion).outputs,
        output.isTerminal = false := by
  by_cases success : completion.result = .success
  · cases state : action.state with
    | idle => exact absurd state busy
    | connect =>
        rw [react_connect live success state]
        exact ⟨rfl, state, by simp [Output.isTerminal]⟩
    | send =>
        rw [react_send live success state]
        exact ⟨rfl, state, by simp [Output.isTerminal]⟩
    | recv =>
        rw [react_recv live success state, ← state]
        exact received_shape action completion.data
  · rw [react_of_closed live success quiet]
    exact ⟨rfl, rfl, by simp⟩

/-- Without a failure the action either ends with one terminal event, or goes on
without one. -/
theorem callback_of_not_fails (live : completion.live)
    (busy : action.state ≠ .idle) (quiet : ¬action.Fails completion) :
    ((action.callback completion).1.state = .idle ∧
      terminals (action.callback completion).2 = 1) ∨
    ((action.callback completion).1.state ≠ .idle ∧
      terminals (action.callback completion).2 = 0) := by
  obtain ⟨connected, state, none⟩ := react_of_not_fails live busy quiet
  cases complete : (action.react completion).action.resCompletion.complete with
  | true =>
      rw [callback_ends rfl (.inr complete), live]
      refine .inl ⟨rfl, ?_⟩
      rw [terminals, List.countP_append]
      have before := terminals_of_none none
      have after := terminals_parting (.inl complete)
      rw [terminals] at before after
      omega
  | false =>
      rw [callback_continues rfl connected complete]
      obtain ⟨goesOn, operation, outputs, notTerminal⟩ :=
        advance_shape connected (state ▸ busy)
      refine .inr ⟨goesOn, ?_⟩
      rw [outputs]
      refine terminals_of_none fun output member => ?_
      rcases List.mem_append.mp member with earlier | last
      · exact none output earlier
      · exact List.mem_singleton.mp last ▸ notTerminal

end Action

namespace HttpClient

/-! ## Runs of the client -/

/-- The number of terminal events that a query got. -/
def terminals (client : HttpClient) (query : Nat) : Nat :=
  client.log.countP fun entry =>
    decide (entry.1 = query) && entry.2.isTerminal

/-- Every accepted query got at most one terminal event, and exactly one if its
action returned to the pool. -/
def OneTerminal (client : HttpClient) : Prop :=
  ∀ query < client.accepted, client.terminals query ≤ 1 ∧
    (client.Returned query → client.terminals query = 1)

/-- The steps of a client whose handler is alive. -/
def liveStep (client : HttpClient) : Label → Option HttpClient
  | .request prep => client.step (.request prep)
  | .complete index completion =>
      if completion.live then client.step (.complete index completion) else none

theorem liveStep_complete {client next : HttpClient} {index : Nat}
    {completion : Completion}
    (stepped : client.liveStep (.complete index completion) = some next) :
    completion.live ∧ index ∈ client.active ∧
      client.complete index completion = next := by
  simp only [liveStep] at stepped
  split at stepped
  · next live => exact ⟨live, step_complete stepped⟩
  · simp at stepped

/-- The completion does not take the error branch of the callback. -/
def Unfailed (client : HttpClient) : Label → Prop
  | .request _ => True
  | .complete index completion => ¬(client.actions index).Fails completion

/-- The invariant of the event counts. -/
structure Tidy (client : HttpClient) : Prop where
  pooled : client.Pooled
  pending : ∀ index ∈ client.active, client.terminals (client.serving index) = 0
  returned : ∀ query < client.accepted, client.Returned query →
    client.terminals query = 1

theorem tidy_initial : initial.Tidy where
  pooled := pooled_initial
  pending := by simp [initial]
  returned := by simp [initial]

variable {client : HttpClient}

theorem Tidy.oneTerminal (tidy : client.Tidy) : client.OneTerminal := by
  intro query accepted
  refine ⟨?_, tidy.returned query accepted⟩
  by_cases returned : client.Returned query
  · exact (tidy.returned query accepted returned).le
  · simp only [Returned, not_forall, not_not] at returned
    obtain ⟨index, active, rfl⟩ := returned
    exact (tidy.pending index active).trans_le (Nat.zero_le 1)

/-- The terminal events that `complete` adds belong to the query that the action
serves. -/
theorem terminals_complete (client : HttpClient) (index : Nat)
    (completion : Completion) (query : Nat) :
    (client.complete index completion).terminals query =
      client.terminals query + if client.serving index = query then
        Action.terminals ((client.actions index).callback completion).2 else 0 := by
  obtain ⟨_, _, _, _, log⟩ := complete_frame client index completion
  rw [terminals, log, List.countP_append, List.countP_map]
  split
  · next same => simp [terminals, Action.terminals, same, Function.comp_def]
  · next other => simp [terminals, other, Function.comp_def]

/-- A change that touches no query keeps the counts. -/
theorem Tidy.reframe {after : HttpClient} (tidy : client.Tidy)
    (pooled : after.Pooled) (active : after.active = client.active)
    (accepted : after.accepted = client.accepted)
    (serving : after.serving = client.serving)
    (log : after.log = client.log) : after.Tidy where
  pooled := pooled
  pending := by
    simp only [terminals, active, serving, log]
    exact tidy.pending
  returned := by
    simp only [Returned, terminals, active, serving, log, accepted]
    exact tidy.returned

/-- A query that was just accepted has no events, and no other query is
affected. -/
theorem Tidy.launch {index : Nat} {req : Bytes} (tidy : client.Tidy)
    (outside : index ∉ client.active ++ client.idle)
    (allocated : index < client.allocated) : (client.launch index req).Tidy := by
  have old : ∀ other ∈ client.active, other ≠ index := fun other member equal =>
    outside (equal ▸ List.mem_append_left _ member)
  have serving : ∀ other ∈ client.active,
      (client.launch index req).serving other = client.serving other :=
    fun other member => Function.update_of_ne (old other member) _ _
  have servingNew : (client.launch index req).serving index = client.accepted :=
    Function.update_self _ _ _
  have count : ∀ query,
      (client.launch index req).terminals query = client.terminals query := by
    intro query
    simp [HttpClient.launch, terminals, Output.isTerminal]
  have countNew : client.terminals client.accepted = 0 := by
    refine List.countP_eq_zero.mpr fun entry member => ?_
    have earlier := tidy.pooled.logged entry member
    simp [Nat.ne_of_lt earlier]
  have activeEq : (client.launch index req).active = index :: client.active := rfl
  refine ⟨tidy.pooled.launch outside allocated, ?_, ?_⟩
  · intro other member
    rw [count]
    rcases List.mem_cons.mp member with rfl | earlier
    · rw [servingNew, countNew]
    · rw [serving other earlier]
      exact tidy.pending other earlier
  · intro query accepted returned
    have notNew : query ≠ client.accepted := fun equal =>
      returned index (by simp [activeEq]) (servingNew.trans equal.symm)
    rw [count]
    refine tidy.returned query ?_ fun other member => ?_
    · exact Nat.lt_of_le_of_ne (Nat.le_of_lt_succ accepted) notNew
    · rw [← serving other member]
      exact returned other (by simp [activeEq, member])

theorem Tidy.request (tidy : client.Tidy) (prep : Prep) :
    (client.request prep).Tidy := by
  have pooled := tidy.pooled.request prep
  have reserved := tidy.pooled.reserve
  cases prep with
  | thrown | declined =>
      exact tidy.reframe pooled reserved.active reserved.accepted
        reserved.serving reserved.log
  | accepted req =>
      exact (tidy.reframe reserved.pooled reserved.active reserved.accepted
        reserved.serving reserved.log).launch reserved.outside reserved.allocated

theorem Tidy.complete {index : Nat} {completion : Completion}
    (tidy : client.Tidy) (active : index ∈ client.active)
    (live : completion.live)
    (quiet : ¬(client.actions index).Fails completion) :
    (client.complete index completion).Tidy := by
  obtain ⟨_, accepted, serving, _, _⟩ := complete_frame client index completion
  have count := terminals_complete client index completion
  have others : ∀ other ∈ client.active, other ≠ index →
      client.serving index ≠ client.serving other := fun other member different =>
    tidy.pooled.serving_ne active member different.symm
  refine ⟨tidy.pooled.complete active, ?_, ?_⟩ <;>
    rcases Action.callback_of_not_fails live (tidy.pooled.busy index active)
      quiet with ⟨idle, one⟩ | ⟨busy, none⟩
  · intro other member
    rw [(complete_of_idle idle).1, tidy.pooled.mem_erase] at member
    rw [count, serving, if_neg (others other member.2 member.1)]
    exact tidy.pending other member.2
  · intro other member
    rw [(complete_of_busy busy).1] at member
    rw [count, serving, none, ite_self]
    exact tidy.pending other member
  · intro query queryAccepted returned
    rw [accepted] at queryAccepted
    rw [count]
    by_cases same : client.serving index = query
    · rw [if_pos same, one, ← same, tidy.pending index active]
    · rw [if_neg same, Nat.add_zero]
      refine tidy.returned query queryAccepted fun other member => ?_
      by_cases this : other = index
      · exact this ▸ same
      · have stays := returned other
        rw [(complete_of_idle idle).1, tidy.pooled.mem_erase, serving] at stays
        exact stays ⟨this, member⟩
  · intro query queryAccepted returned
    rw [accepted] at queryAccepted
    rw [count, none, ite_self, Nat.add_zero]
    simp only [Returned, (complete_of_busy busy).1, serving] at returned
    exact tidy.returned query queryAccepted returned

/-- A completion that takes the error branch gives its query two terminal
events. -/
theorem Tidy.not_oneTerminal {index : Nat} {completion : Completion}
    (tidy : client.Tidy) (active : index ∈ client.active)
    (live : completion.live)
    (fails : (client.actions index).Fails completion) :
    ¬(client.complete index completion).OneTerminal := by
  intro oneTerminal
  have accepted := (complete_frame client index completion).2.1
  have bound := (oneTerminal (client.serving index)
    (by rw [accepted]; exact tidy.pooled.served index active)).1
  rw [terminals_complete, if_pos rfl, (Action.callback_of_fails live fails).2]
    at bound
  omega

/-- In every run of a client with a live handler, every accepted query gets at
most one terminal event, and exactly one by the time its action returns to the
pool, exactly when no completion takes the error branch of the callback. -/
theorem oneTerminal_iff_unfailed (labels : List Label) (final : HttpClient)
    (reached : run liveStep initial labels = some final) :
    Along liveStep OneTerminal initial labels ↔
      Meets liveStep Unfailed initial labels := by
  refine along_iff_meets Tidy (fun _ tidy => tidy.oneTerminal) ?_ ?_ tidy_initial
    reached
  · intro client label next tidy unfailed stepped
    cases label with
    | request prep =>
        obtain rfl := Option.some.inj stepped
        exact tidy.request prep
    | complete index completion =>
        obtain ⟨live, active, rfl⟩ := liveStep_complete stepped
        exact tidy.complete active live unfailed
  · intro client label next tidy failed stepped
    cases label with
    | request prep => exact absurd trivial failed
    | complete index completion =>
        obtain ⟨live, active, rfl⟩ := liveStep_complete stepped
        exact tidy.not_oneTerminal active live (not_not.mp failed)

/-- A request and its response, each operation successful. -/
def exchange : List Label :=
  [.request (.accepted (ascii "GET / HTTP/1.1\r\n\r\n")),
    .complete 0 ⟨.success, 5, [], true⟩, .complete 0 ⟨.success, 0, [], true⟩,
    .complete 0 ⟨.success, 0,
      ascii "HTTP/1.1 200 OK\r\nContent-Length: 2\r\n\r\nhi", true⟩]

theorem oneTerminal_iff_unfailed_exchange :
    (run liveStep initial exchange).isSome ∧
      Along liveStep OneTerminal initial exchange := by
  have enabled : (run liveStep initial exchange).isSome := by decide +kernel
  obtain ⟨final, reached⟩ := Option.isSome_iff_exists.mp enabled
  refine ⟨enabled, (oneTerminal_iff_unfailed exchange final reached).mpr ?_⟩
  simp only [exchange, Meets, Unfailed]
  exact ⟨trivial, fun _ _ => ⟨fun fails => fails.1 rfl, fun _ _ =>
    ⟨fun fails => fails.1 rfl, fun _ _ => ⟨fun fails => fails.1 rfl,
      fun _ _ => trivial⟩⟩⟩⟩

/-- A connection attempt that times out ends its query twice. -/
theorem two_terminals_on_timeout :
    ∃ final, run liveStep initial [.request (.accepted (ascii "GET /")),
        .complete 0 ⟨.timedout, 0, [], true⟩] = some final ∧
      final.accepted = 1 ∧ final.terminals 0 = 2 ∧ ¬final.OneTerminal := by
  have summary : (run liveStep initial [.request (.accepted (ascii "GET /")),
      .complete 0 ⟨.timedout, 0, [], true⟩]).map (fun final =>
        (final.accepted, final.terminals 0)) = some (1, 2) := by
    decide +kernel
  obtain ⟨final, reached, equal⟩ := Option.map_eq_some_iff.mp summary
  obtain ⟨accepted, two⟩ := Prod.mk.inj equal
  refine ⟨final, reached, accepted, two, fun oneTerminal => ?_⟩
  have bound := (oneTerminal 0 (by omega)).1
  omega

end HttpClient

end Telling.Http
