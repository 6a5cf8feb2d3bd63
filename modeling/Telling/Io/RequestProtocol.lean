import Telling.Io.Request

/-!
# The protocol of Request

Every allocated action is active or idle, an active one has one operation under
way, and the handler hears of every accepted query in the same order: `prep`, then
perhaps `sent`, then one of `recv` and `error`.  This holds in every run in which
the handler lives and its `async_prep` does not throw, between any two steps of any
callbacks.
-/

namespace Telling.Io

open Lib

universe u

namespace Request

variable {Message : Type u}

/-! ## The trace of one query -/

/-- A call that ends the query is among these. -/
def ended (trace : List (Event Message)) : Bool := trace.any Event.isTerminal

/-- `prep`, then optionally `sent`, then at most one of `recv` and `error`, with
`recv` only after `sent`. -/
def Lawful : List (Event Message) → Prop
  | [.prep] | [.prep, .sent] | [.prep, .error _] | [.prep, .sent, .recv _]
  | [.prep, .sent, .error _] => True
  | _ => False

namespace Action

/-- The operations on the handle of an action whose callback has not returned. -/
def outstanding (action : Action Message) : Nat :=
  action.inFlight.length + action.running.length

/-- An action without a query. -/
def Resting (action : Action Message) : Prop :=
  action.state = .idle ∧ action.inFlight = [] ∧ action.running = []

/-- How far an active action and the trace of its query have come. -/
inductive InStep : Action Message → List (Event Message) → Prop
  | sending (ctx : QueryID) (msg : Message) :
      InStep ⟨ctx, .send, [.send msg], []⟩ [.prep]
  | sent (ctx : QueryID) :
      InStep ⟨ctx, .send, [], [⟨false, false⟩]⟩ [.prep, .sent]
  | sendFailed (ctx : QueryID) (error : NngError) :
      InStep ⟨ctx, .send, [], [⟨true, true⟩]⟩ [.prep, .error error]
  | receiving (ctx : QueryID) :
      InStep ⟨ctx, .recv, [.recv], []⟩ [.prep, .sent]
  | received (ctx : QueryID) (msg : Message) :
      InStep ⟨ctx, .recv, [], [⟨true, false⟩]⟩ [.prep, .sent, .recv msg]
  | recvFailed (ctx : QueryID) (error : NngError) :
      InStep ⟨ctx, .recv, [], [⟨true, true⟩]⟩ [.prep, .sent, .error error]

namespace InStep

variable {action : Action Message} {trace : List (Event Message)}

theorem start (resting : action.Resting) (msg : Message) :
    InStep (action.start msg) [.prep] := by
  obtain ⟨ctx, state, inFlight, running⟩ := action
  obtain ⟨rfl, rfl, rfl⟩ := resting
  exact .sending ctx msg

theorem lawful (inStep : InStep action trace) : Lawful trace := by
  cases inStep <;> trivial

/-- An active action has one operation under way. -/
theorem outstanding (inStep : InStep action trace) :
    (action.state = .send ∨ action.state = .recv) ∧ action.outstanding = 1 := by
  cases inStep <;> simp [Action.outstanding]

theorem ended_iff (inStep : InStep action trace) :
    ended trace = action.running.any Verdict.cleanup := by
  cases inStep <;> rfl

/-- The first part of the callback extends the trace. -/
theorem complete {completion : Completion Message} (inStep : InStep action trace)
    (flying : action.inFlight ≠ []) (live : completion.live) :
    InStep (action.completed (action.react completion).2)
      (trace ++ (action.react completion).1) := by
  cases inStep with
  | sent | sendFailed | received | recvFailed => exact absurd rfl flying
  | sending ctx msg =>
      unfold react
      rw [if_neg (by simp [live])]
      cases completion.result with
      | success => exact .sent ctx
      | _ => exact .sendFailed ctx _
  | receiving ctx =>
      unfold react
      rw [if_neg (by simp [live])]
      cases completion.result with
      | success => exact .received ctx completion.msg
      | _ => exact .recvFailed ctx _

/-- The second part of the callback listens for the response of a query that was
sent; otherwise the query has ended, and the action rests. -/
theorem commit {verdict : Verdict} {rest : List Verdict}
    (inStep : InStep action trace) (runs : action.running = verdict :: rest) :
    ((action.committed verdict).state ≠ .idle ∧
      InStep (action.committed verdict) trace) ∨
    (action.committed verdict).Resting ∧ ended trace := by
  cases inStep with
  | sending | receiving => simp at runs
  | sent ctx =>
      obtain ⟨rfl, rfl⟩ := List.cons.inj runs
      exact .inl ⟨by simp [committed], .receiving ctx⟩
  | sendFailed ctx error | recvFailed ctx error =>
      obtain ⟨rfl, rfl⟩ := List.cons.inj runs
      exact .inr ⟨⟨rfl, rfl, rfl⟩, rfl⟩
  | received ctx msg =>
      obtain ⟨rfl, rfl⟩ := List.cons.inj runs
      exact .inr ⟨⟨rfl, rfl, rfl⟩, rfl⟩

end InStep

end Action

/-! ## Runs -/

/-- The handler is alive and its `async_prep` returns. -/
def Label.Regular : Label Message → Prop
  | .request _ _ _ .thrown => False
  | .request _ live _ _ => live
  | .complete _ completion => completion.live
  | .commit _ => True

/-- The accepted queries without a terminal event. -/
def unanswered (comm : Request Message) : Nat :=
  (List.range comm.accepted).countP fun query => !ended (comm.events query)

/-- The callbacks that have made a terminal call and not committed. -/
def retiring (comm : Request Message) : Nat :=
  comm.active.countP fun index =>
    (comm.actions index).running.any Verdict.cleanup

/-- No callback is mid-way. -/
def Settled (comm : Request Message) : Prop :=
  ∀ index, (comm.actions index).running = []

/-- What the pool and the calls to the handler look like from outside. -/
structure Orderly (comm : Request Message) : Prop where
  partition : (comm.active ++ comm.idle).Perm (List.range comm.allocated)
  active_iff : ∀ index, index ∈ comm.active ↔
    ((comm.actions index).state = .send ∨ (comm.actions index).state = .recv) ∧
      (comm.actions index).outstanding = 1
  stats : comm.msgStats.awaitingSend + comm.msgStats.awaitingRecv =
    comm.unanswered + comm.retiring
  trace : ∀ query < comm.accepted, Lawful (comm.events query) ∧
    (ended (comm.events query) ∨ ∃ index ∈ comm.active, comm.serving index = query)

/-- The invariant: actions outside `active` rest, an active action is in step with
the trace of its query, and a query without an action has ended. -/
structure Coherent (comm : Request Message) : Prop where
  tracks : comm.toPool.Tracks [] (fun index => (comm.actions index).Resting)
    (fun index query => (comm.actions index).InStep (comm.events query))
    fun query => Lawful (comm.events query) ∧ ended (comm.events query)
  logged : ∀ entry ∈ comm.log, entry.1 < comm.accepted

theorem coherent_initial : (initial : Request Message).Coherent where
  tracks := {
    sound := Pool.sound_empty
    rest := fun _ _ => ⟨rfl, rfl, rfl⟩
    busy := by simp [initial]
    done := by simp [initial] }
  logged := by simp [initial]

variable {comm next : Request Message} {index : Nat}

theorem foldl_count (state : Nat → ActionState) (active : List Nat)
    (stats : MsgStats) :
    active.foldl (fun stats index => stats.count (state index)) stats =
      ⟨stats.awaitingSend + active.countP fun index => decide (state index = .send),
        stats.awaitingRecv +
          active.countP fun index => decide (state index = .recv)⟩ := by
  induction active generalizing stats with
  | nil => rfl
  | cons index active ih =>
      rw [List.foldl_cons, ih, List.countP_cons, List.countP_cons]
      cases state index <;> simp [MsgStats.count] <;> omega

/-- Every active action is counted once. -/
theorem Coherent.msgStats_total (coherent : comm.Coherent) :
    comm.msgStats.awaitingSend + comm.msgStats.awaitingRecv =
      comm.active.length := by
  have recv : comm.active.countP (fun index =>
        decide ((comm.actions index).state = .recv)) =
      comm.active.countP fun index =>
        !decide ((comm.actions index).state = .send) := by
    refine List.countP_congr fun index active => ?_
    rcases (coherent.tracks.busy index active).outstanding.1 with state | state <;>
      simp [state]
  rw [msgStats, foldl_count, recv]
  simpa using countP_add_countP_not _ _

theorem Coherent.stats (coherent : comm.Coherent) :
    comm.msgStats.awaitingSend + comm.msgStats.awaitingRecv =
      comm.unanswered + comm.retiring := by
  have tracks := coherent.tracks
  have unanswered : comm.unanswered = comm.active.countP fun index =>
      !ended (comm.events (comm.serving index)) := by
    refine tracks.sound.countP_jobs _ fun query accepted pending => ?_
    by_contra unserved
    simp [(tracks.done query accepted unserved).2] at pending
  have retiring : comm.retiring = comm.active.countP fun index =>
      ended (comm.events (comm.serving index)) := by
    refine List.countP_congr fun index active => ?_
    rw [(tracks.busy index active).ended_iff]
  rw [coherent.msgStats_total, unanswered, retiring, Nat.add_comm]
  exact (countP_add_countP_not _ _).symm

theorem Coherent.orderly (coherent : comm.Coherent) : comm.Orderly where
  partition := coherent.tracks.sound.partition
  active_iff := by
    intro index
    constructor
    · exact fun active => (coherent.tracks.busy index active).outstanding
    · rintro ⟨state, -⟩
      by_contra inactive
      have resting := (coherent.tracks.rest index inactive).1
      simp [resting] at state
  stats := coherent.stats
  trace := by
    intro query accepted
    by_cases served : query ∈ comm.served
    · obtain ⟨index, active, rfl⟩ := List.mem_map.mp served
      exact ⟨(coherent.tracks.busy index active).lawful, .inr ⟨index, active, rfl⟩⟩
    · obtain ⟨lawful, ended⟩ := coherent.tracks.done query accepted served
      exact ⟨lawful, .inl ended⟩

/-! ### Steps -/

/-- The calls that a step adds to the log belong to one query. -/
theorem events_of_log {owner : Nat} {calls : List (Event Message)}
    (log : next.log = comm.log ++ calls.map fun event => (owner, event))
    (query : Nat) :
    next.events query =
      comm.events query ++ if owner = query then calls else [] := by
  rw [events, log, entriesOf_append, entriesOf_map]
  rfl

theorem allocate_frame (comm : Request Message) (ctx : QueryID) :
    (comm.allocate ctx).1 = comm.toPool.take.1 ∧
      (comm.allocate ctx).2.toPool = comm.toPool.take.2 ∧
      (comm.allocate ctx).2.log = comm.log := by
  unfold allocate
  cases comm.idle <;> exact ⟨rfl, rfl, rfl⟩

/-- Only an action that is allocated changes. -/
theorem allocate_actions (comm : Request Message) (ctx : QueryID) (other : Nat) :
    (comm.allocate ctx).2.actions other = comm.actions other ∨
      other = (comm.allocate ctx).1 ∧
        (comm.allocate ctx).2.actions other = ⟨ctx, .idle, [], []⟩ := by
  unfold allocate
  cases comm.idle with
  | nil =>
      by_cases same : other = comm.toPool.take.1
      · exact .inr ⟨same, by simp [same]⟩
      · exact .inl (Function.update_of_ne same _ _)
  | cons _ _ => exact .inl rfl

/-- The action of a query is not the one that is allocated. -/
theorem allocate_active {out : List Nat} (sound : comm.toPool.Sound out) (ctx : QueryID)
    (active : index ∈ comm.active) :
    (comm.allocate ctx).2.actions index = comm.actions index := by
  rcases allocate_actions comm ctx index with same | ⟨taken, -⟩
  · exact same
  · rw [taken, (allocate_frame comm ctx).1] at active
    exact absurd active sound.take_not_active

/-- An allocation takes an action that rests, and disturbs no other. -/
theorem tracks_allocate (busy : Action Message → Nat → Prop) {done : Nat → Prop}
    (tracks : comm.toPool.Tracks [] (fun index => (comm.actions index).Resting)
      (fun index query => busy (comm.actions index) query) done) (ctx : QueryID) :
    (comm.allocate ctx).2.toPool.Tracks [(comm.allocate ctx).1]
      (fun index => ((comm.allocate ctx).2.actions index).Resting)
      (fun index query => busy ((comm.allocate ctx).2.actions index) query) done := by
  obtain ⟨index, pool, -⟩ := allocate_frame comm ctx
  rw [pool, index]
  refine tracks.take ?_ ?_
  · intro other _ resting
    rcases allocate_actions comm ctx other with same | ⟨-, fresh⟩
    · exact same ▸ resting
    · rw [fresh]
      exact ⟨rfl, rfl, rfl⟩
  · intro other active serves
    rw [allocate_active tracks.sound ctx active]
    exact serves

theorem Coherent.allocate (coherent : comm.Coherent) (ctx : QueryID) :
    (comm.allocate ctx).2.toPool.Tracks [(comm.allocate ctx).1]
      (fun index => ((comm.allocate ctx).2.actions index).Resting)
      (fun index query => ((comm.allocate ctx).2.actions index).InStep
        ((comm.allocate ctx).2.events query))
      fun query => Lawful ((comm.allocate ctx).2.events query) ∧
        ended ((comm.allocate ctx).2.events query) := by
  have events : (comm.allocate ctx).2.events = comm.events := by
    unfold Request.events
    rw [(allocate_frame comm ctx).2.2]
  rw [events]
  exact tracks_allocate (fun action query => action.InStep (comm.events query))
    coherent.tracks ctx

/-- The log of a state after an allocation. -/
theorem Coherent.allocate_logged (coherent : comm.Coherent) (ctx : QueryID) :
    ∀ entry ∈ (comm.allocate ctx).2.log,
      entry.1 < (comm.allocate ctx).2.accepted := by
  obtain ⟨-, pool, log⟩ := allocate_frame comm ctx
  rw [log, pool, (Pool.take_frame _).2.1]
  exact coherent.logged

theorem launch_events (comm : Request Message) (index : Nat) (msg : Message)
    (query : Nat) : (comm.launch index msg).events query =
      comm.events query ++ if comm.accepted = query then [.prep] else [] :=
  events_of_log rfl query

theorem launch_events_old {msg : Message} {query : Nat}
    (earlier : query < comm.accepted) :
    (comm.launch index msg).events query = comm.events query := by
  rw [launch_events, if_neg (Nat.ne_of_gt earlier), List.append_nil]

/-- A query that was just accepted has its first call. -/
theorem launch_events_new {msg : Message}
    (logged : ∀ entry ∈ comm.log, entry.1 < comm.accepted) :
    (comm.launch index msg).events comm.accepted = [.prep] := by
  have unheard : comm.events comm.accepted = [] :=
    entriesOf_eq_nil fun entry member => Nat.ne_of_lt (logged entry member)
  rw [launch_events, if_pos rfl, unheard]
  rfl

theorem launch_actions {msg : Message} {other : Nat} (different : other ≠ index) :
    (comm.launch index msg).actions other = comm.actions other :=
  Function.update_of_ne different _ _

theorem launch_action (comm : Request Message) (index : Nat) (msg : Message) :
    (comm.launch index msg).actions index = (comm.actions index).start msg :=
  Function.update_self _ _ _

theorem Coherent.launch {msg : Message}
    (tracks : comm.toPool.Tracks [index]
      (fun index => (comm.actions index).Resting)
      (fun index query => (comm.actions index).InStep (comm.events query))
      fun query => Lawful (comm.events query) ∧ ended (comm.events query))
    (logged : ∀ entry ∈ comm.log, entry.1 < comm.accepted) :
    (comm.launch index msg).Coherent := by
  constructor
  · refine tracks.launch ?_ ?_ ?_ ?_
    · intro other different resting
      rw [launch_actions different]
      exact resting
    · intro other active different inStep
      have earlier := tracks.sound.accepted _ (List.mem_map_of_mem active)
      rw [launch_actions different, launch_events_old earlier]
      exact inStep
    · intro resting
      rw [launch_action, launch_events_new logged]
      exact .start resting msg
    · intro query earlier
      rw [launch_events_old earlier]
      exact id
  · intro entry member
    rcases List.mem_append.mp member with earlier | new
    · exact Nat.lt_succ_of_lt (logged entry earlier)
    · rw [List.mem_singleton.mp new]
      exact Nat.lt_succ_self _

theorem Coherent.request {ready live : Bool} {ctx : QueryID} {prep : Prep Message}
    (coherent : comm.Coherent)
    (regular : (Label.request ready live ctx prep).Regular) :
    (comm.request ready live ctx prep).2.Coherent := by
  have taken := coherent.allocate ctx
  have logged := coherent.allocate_logged ctx
  unfold Request.request
  split
  · exact coherent
  split
  · exact coherent
  cases prep with
  | thrown => exact regular.elim
  | declined => exact ⟨taken.giveBack, logged⟩
  | accepted msg => exact .launch taken logged

theorem complete_events (comm : Request Message) (index : Nat)
    (completion : Completion Message) (query : Nat) :
    (comm.complete index completion).events query =
      comm.events query ++ if comm.serving index = query
        then ((comm.actions index).react completion).1 else [] :=
  events_of_log rfl query

/-- An action with an operation or a callback under way is active when the others
rest. -/
theorem active_of_flying (resting : ∀ index ∉ comm.active, (comm.actions index).Resting)
    (flying : (comm.actions index).inFlight ≠ []) : index ∈ comm.active := by
  by_contra inactive
  exact flying (resting index inactive).2.1

@[inherit_doc active_of_flying]
theorem active_of_running {verdict : Verdict} {rest : List Verdict}
    (resting : ∀ index ∉ comm.active, (comm.actions index).Resting)
    (runs : (comm.actions index).running = verdict :: rest) : index ∈ comm.active := by
  by_contra inactive
  simp [(resting index inactive).2.2] at runs

theorem Coherent.active_of_flying (coherent : comm.Coherent)
    (flying : (comm.actions index).inFlight ≠ []) : index ∈ comm.active :=
  Request.active_of_flying coherent.tracks.rest flying

theorem Coherent.active_of_running {verdict : Verdict} {rest : List Verdict}
    (coherent : comm.Coherent)
    (runs : (comm.actions index).running = verdict :: rest) : index ∈ comm.active :=
  Request.active_of_running coherent.tracks.rest runs

theorem Coherent.complete {completion : Completion Message}
    (coherent : comm.Coherent) (flying : (comm.actions index).inFlight ≠ [])
    (live : completion.live) : (comm.complete index completion).Coherent := by
  have tracks := coherent.tracks
  have active := coherent.active_of_flying flying
  have events := complete_events comm index completion
  have actions : ∀ other ≠ index,
      (comm.complete index completion).actions other = comm.actions other :=
    fun other different => Function.update_of_ne different _ _
  constructor
  · refine tracks.proceed active ?_ ?_ ?_ ?_
    · exact fun other different resting => actions other different ▸ resting
    · intro other _ different owner inStep
      rw [actions other different, events, if_neg owner.symm, List.append_nil]
      exact inStep
    · intro inStep
      rw [events, if_pos rfl]
      simp only [Request.complete, Function.update_self]
      exact inStep.complete flying live
    · intro query _ different
      rw [events, if_neg different.symm, List.append_nil]
      exact id
  · intro entry member
    rcases List.mem_append.mp member with earlier | new
    · exact coherent.logged entry earlier
    · obtain ⟨event, -, rfl⟩ := List.mem_map.mp new
      exact tracks.sound.accepted _ (List.mem_map_of_mem active)

theorem commit_frame (comm : Request Message) (index : Nat) (verdict : Verdict) :
    (comm.commit index verdict).actions = Function.update comm.actions index
        ((comm.actions index).committed verdict) ∧
      (comm.commit index verdict).log = comm.log ∧
      (comm.commit index verdict).toPool =
        if ((comm.actions index).committed verdict).state = .idle
          then comm.toPool.retire index else comm.toPool := by
  unfold commit
  simp only
  split <;> exact ⟨rfl, rfl, rfl⟩

theorem Coherent.commit {verdict : Verdict} {rest : List Verdict}
    (coherent : comm.Coherent)
    (runs : (comm.actions index).running = verdict :: rest) :
    (comm.commit index verdict).Coherent := by
  have tracks := coherent.tracks
  have active := coherent.active_of_running runs
  obtain ⟨changed, log, pool⟩ := commit_frame comm index verdict
  have actions : ∀ other ≠ index,
      (comm.commit index verdict).actions other = comm.actions other :=
    fun other different => changed ▸ Function.update_of_ne different _ _
  have action : (comm.commit index verdict).actions index =
      (comm.actions index).committed verdict := changed ▸ Function.update_self _ _ _
  have events : (comm.commit index verdict).events = comm.events := by
    unfold Request.events
    rw [log]
  have restKept : ∀ other ≠ index, (comm.actions other).Resting →
      ((comm.commit index verdict).actions other).Resting :=
    fun other different resting => actions other different ▸ resting
  rcases (tracks.busy index active).commit runs with ⟨busy, inStep⟩ | ⟨rests, ended⟩
  · rw [if_neg busy] at pool
    constructor
    · rw [pool, events]
      refine tracks.proceed active restKept ?_ ?_ fun _ _ _ => id
      · exact fun other _ different _ inStep => actions other different ▸ inStep
      · exact fun _ => action ▸ inStep
    · rw [log, pool]
      exact coherent.logged
  · rw [if_pos rests.1] at pool
    constructor
    · rw [pool, events]
      refine tracks.retire active restKept ?_ (action ▸ rests)
        ⟨(tracks.busy index active).lawful, ended⟩
      exact fun other _ different inStep => actions other different ▸ inStep
    · rw [log, pool]
      exact coherent.logged

theorem step_complete {completion : Completion Message}
    (stepped : comm.step (.complete index completion) = some next) :
    (comm.actions index).inFlight ≠ [] ∧ next = comm.complete index completion := by
  simp only [Request.step] at stepped
  split at stepped
  · simp at stepped
  · next flying => exact ⟨by simp [flying], (Option.some.inj stepped).symm⟩

theorem step_commit (stepped : comm.step (.commit index) = some next) :
    ∃ verdict rest, (comm.actions index).running = verdict :: rest ∧
      next = comm.commit index verdict := by
  simp only [Request.step] at stepped
  split at stepped
  · simp at stepped
  · next verdict rest runs =>
      exact ⟨verdict, rest, runs, (Option.some.inj stepped).symm⟩

/-- Every step of a run with a regular handler keeps the invariant. -/
theorem Coherent.step {label : Label Message} (coherent : comm.Coherent)
    (regular : label.Regular) (stepped : comm.step label = some next) :
    next.Coherent := by
  cases label with
  | request ready live ctx prep =>
      obtain rfl := Option.some.inj stepped
      exact coherent.request regular
  | complete index completion =>
      obtain ⟨flying, rfl⟩ := step_complete stepped
      exact coherent.complete flying regular
  | commit index =>
      obtain ⟨verdict, rest, runs, rfl⟩ := step_commit stepped
      exact coherent.commit runs

/-- In every run in which the handler lives and `async_prep` returns, in every state
reached: every allocated action is in one of `active` and `idle`; it is in `active`
exactly when its state is `send` or `recv` and one operation is under way; `msgStats`
counts the accepted queries without a terminal event, together with those whose
callback has still to commit; and the handler heard of each accepted query in the
order of the protocol, up to the terminal event once the action is back in the
pool.  When no callback is mid-way, the operation is in flight and the count is
exact. -/
theorem orderly_of_run (labels : List (Label Message)) (final : Request Message)
    (regular : ∀ label ∈ labels, label.Regular)
    (reached : run step initial labels = some final) :
    final.Orderly ∧ (final.Settled →
      (∀ index ∈ final.active, (final.actions index).inFlight.length = 1) ∧
      final.msgStats.awaitingSend + final.msgStats.awaitingRecv =
        final.unanswered) := by
  have coherent : final.Coherent := by
    refine invariant_of_run Coherent coherent_initial ?_
      (meets_of_forall regular) reached
    exact fun comm label next before => before.step
  have orderly := coherent.orderly
  refine ⟨orderly, fun settled => ⟨fun index active => ?_, ?_⟩⟩
  · have one := ((orderly.active_iff index).mp active).2
    rw [Action.outstanding, settled index] at one
    exact one
  · have none : final.retiring = 0 :=
      List.countP_eq_zero.mpr fun index _ => by simp [settled index]
    rw [orderly.stats, none, Nat.add_zero]

/-- Two queries: the second is accepted while the callback of the first has
delivered its response and not taken the lock, and fails. -/
def overlappingQueries : List (Label Nat) :=
  [.request true true 7 (.accepted 70), .request true true 9 .declined,
    .complete 0 ⟨.success, 0, true⟩, .commit 0, .complete 0 ⟨.success, 71, true⟩,
    .request true true 9 (.accepted 90), .commit 0, .complete 1 ⟨.timedout, 0, true⟩]

theorem orderly_of_run_overlapping :
    (∀ label ∈ overlappingQueries, label.Regular) ∧
      ∃ final, run step initial overlappingQueries = some final ∧
        final.Orderly ∧ final.events 0 = [.prep, .sent, .recv 71] ∧
        final.events 1 = [.prep, .error .timedout] ∧ final.retiring = 1 := by
  have regular : ∀ label ∈ overlappingQueries, label.Regular := by
    simp [overlappingQueries, Label.Regular]
  have summary : (run step initial overlappingQueries).map (fun final =>
      (final.events 0, final.events 1, final.retiring)) =
        some ([.prep, .sent, .recv 71], [.prep, .error .timedout], 1) := by
    decide +kernel
  obtain ⟨final, reached, equal⟩ := Option.map_eq_some_iff.mp summary
  obtain ⟨first, second, retiring⟩ : _ ∧ _ ∧ _ := by simpa using equal
  exact ⟨regular, final, reached,
    (orderly_of_run overlappingQueries final regular reached).1, first, second,
    retiring⟩

/-- Between the delivery of a response and the commit the query is still counted,
and its action is active with no operation in flight. -/
theorem msgStats_lags_in_callback :
    ∃ labels final, (∀ label ∈ labels, label.Regular) ∧
      run step (initial : Request Nat) labels = some final ∧
      final.accepted = 1 ∧ final.events 0 = [.prep, .sent, .recv 71] ∧
      final.unanswered = 0 ∧ final.msgStats = ⟨0, 1⟩ ∧ final.active = [0] ∧
      (final.actions 0).inFlight = [] := by
  let labels : List (Label Nat) := [.request true true 7 (.accepted 70),
    .complete 0 ⟨.success, 0, true⟩, .commit 0, .complete 0 ⟨.success, 71, true⟩]
  have summary : (run step initial labels).map (fun final =>
      ((final.accepted, final.events 0, final.unanswered),
        (final.msgStats, final.active, (final.actions 0).inFlight))) =
        some ((1, [.prep, .sent, .recv 71], 0), (⟨0, 1⟩, [0], [])) := by
    decide +kernel
  obtain ⟨final, reached, equal⟩ := Option.map_eq_some_iff.mp summary
  refine ⟨labels, final, by simp [labels, Label.Regular], reached, ?_⟩
  simpa [and_assoc] using equal

end Request

end Telling.Io
