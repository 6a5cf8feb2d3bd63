import Telling.Io.Futures
import Telling.Io.RequestProtocol

/-!
# Request_Box

`Request` under a box keeps a ledger: an action on whose query no terminal call was
made stands for a query on the ledger, with the action's context as its id.
-/

namespace Telling.Io

open Lib

universe u

namespace Request

variable {Message : Type u}

/-- The calls after `async_prep`. -/
def Event.call? : Event Message → Option (Call Message)
  | .prep => none
  | .sent => some .sent
  | .recv msg => some (.recv msg)
  | .error status => some (.error status)

/-- What a step of `Request` tells the handler. -/
def told (comm : Request Message) : Label Message → Told Message
  | .request ready _ ctx prep =>
      if !ready then .nothing
      else
        let (index, allocated) := comm.allocate ctx
        match prep with
        | .thrown => .nothing
        | .declined => .declined (allocated.actions index).ctx
        | .accepted _ => .started comm.accepted (allocated.actions index).ctx
  | .complete index completion =>
      .calls (comm.serving index) (comm.actions index).ctx
        (((comm.actions index).react completion).1.filterMap Event.call?)
  | .commit _ => .nothing

instance : (label : Label Message) → Decidable label.Regular
  | .request _ _ _ .thrown => isFalse id
  | .request _ live _ .declined => inferInstanceAs (Decidable (live = true))
  | .request _ live _ (.accepted _) => inferInstanceAs (Decidable (live = true))
  | .complete _ completion => inferInstanceAs (Decidable (completion.live = true))
  | .commit _ => isTrue trivial

/-- The client of `Request_Box`.  The box owns its delegate, whose `async_prep` does
not throw and leaves the message as it is. -/
def boxed : Client (Request Message) (Label Message) Message where
  step := fun comm label => if label.Regular then comm.step label else none
  told := told
  what := fun _ sent =>
    if sent then "Request could not be fulfilled." else "Request could not be sent."

/-- The queries whose action has not made a terminal call. -/
def ledger (comm : Request Message) : Ledger where
  accepted := comm.accepted
  live := { entry | ∃ index ∈ comm.active, comm.serving index = entry.1 ∧
    (comm.actions index).ctx = entry.2 ∧ ended (comm.events entry.1) = false }

theorem boxed_step {comm next : Request Message} {label : Label Message}
    (stepped : boxed.step comm label = some next) :
    label.Regular ∧ comm.step label = some next := by
  simp only [boxed] at stepped
  split at stepped
  · next regular => exact ⟨regular, stepped⟩
  · simp at stepped

theorem outcomesOf_eq_nil_iff (events : List (Event Message)) :
    outcomesOf (events.filterMap Event.call?) = [] ↔ ended events = false := by
  simp only [outcomesOf, ended, List.filterMap_filterMap, List.filterMap_eq_nil_iff,
    List.any_eq_false]
  refine forall₂_congr fun event _ => ?_
  cases event <;> simp [Event.call?, Call.outcome?, Event.isTerminal]

theorem Action.InStep.not_ended {action : Action Message}
    {trace : List (Event Message)} (inStep : action.InStep trace)
    (flying : action.inFlight ≠ []) : ended trace = false := by
  cases inStep <;> first | rfl | exact absurd rfl flying

theorem Action.committed_ctx (action : Action Message) (verdict : Verdict) :
    (action.committed verdict).ctx = action.ctx := by
  unfold committed
  simp only
  split <;> rfl

variable {comm next : Request Message}

/-- Steps that concern no query on the ledger leave it as it is. -/
theorem ledger_eq (accepted : next.accepted = comm.accepted)
    (active : ∀ index, index ∈ next.active → index ∈ comm.active)
    (stays : ∀ index ∈ comm.active,
      ended (comm.events (comm.serving index)) = false → index ∈ next.active)
    (serving : next.serving = comm.serving) (log : next.log = comm.log)
    (ctx : ∀ index ∈ comm.active,
      (next.actions index).ctx = (comm.actions index).ctx) :
    next.ledger = comm.ledger := by
  have events : next.events = comm.events := by
    unfold Request.events
    rw [log]
  rw [ledger, ledger, accepted, serving, events]
  congr 1
  ext ⟨query, queryID⟩
  constructor
  · rintro ⟨index, member, rfl, rfl, running⟩
    exact ⟨index, active index member, rfl, (ctx index (active index member)).symm,
      running⟩
  · rintro ⟨index, member, rfl, rfl, running⟩
    exact ⟨index, stays index member running, rfl, ctx index member, running⟩

/-- A query that was just accepted is put on the ledger. -/
theorem ledger_launch {index : Nat} {msg : Message}
    (sound : comm.toPool.Sound [index])
    (logged : ∀ entry ∈ comm.log, entry.1 < comm.accepted) :
    (comm.launch index msg).ledger = ⟨comm.accepted + 1,
      insert (comm.accepted, (comm.actions index).ctx) comm.ledger.live⟩ := by
  have outside := sound.not_mem_of_taken.1
  have old : ∀ other ∈ comm.active, comm.serving other < comm.accepted ∧
      other ≠ index := by
    intro other active
    refine ⟨sound.accepted _ (List.mem_map_of_mem active), ?_⟩
    rintro rfl
    exact outside active
  rw [ledger]
  congr 1
  ext ⟨query, queryID⟩
  constructor
  · rintro ⟨other, member, rfl, rfl, running⟩
    rcases List.mem_cons.mp member with rfl | active
    · left
      rw [launch_action]
      exact Prod.ext (Pool.Sound.serving_launch_self _ _) rfl
    · right
      obtain ⟨earlier, different⟩ := old other active
      have serving : (comm.launch index msg).serving other = comm.serving other :=
        sound.serving_launch active
      simp only [serving, launch_actions different, launch_events_old earlier]
        at running ⊢
      exact ⟨other, active, rfl, rfl, running⟩
  · rintro (equal | ⟨other, active, rfl, rfl, running⟩)
    · obtain ⟨rfl, rfl⟩ := Prod.mk.inj equal
      refine ⟨index, List.mem_cons_self, Pool.Sound.serving_launch_self _ _, ?_, ?_⟩
      · rw [launch_action]
        rfl
      · rw [launch_events_new logged]
        rfl
    · obtain ⟨earlier, different⟩ := old other active
      refine ⟨other, List.mem_cons_of_mem _ active, sound.serving_launch active, ?_, ?_⟩
      · rw [launch_actions different]
      · rw [launch_events_old earlier]
        exact running

theorem mem_ledger_complete {index query : Nat} {queryID : QueryID}
    {completion : Completion Message} :
    (query, queryID) ∈ (comm.complete index completion).ledger.live ↔
      (query, queryID) ∈ comm.ledger.live ∧ (comm.serving index = query →
        ended ((comm.actions index).react completion).1 = false) := by
  have actions : ∀ other, ((comm.complete index completion).actions other).ctx =
      (comm.actions other).ctx := by
    intro other
    by_cases same : other = index
    · subst same
      simp [complete, Action.completed]
    · simp [complete, Function.update_of_ne same]
  have running : ended ((comm.complete index completion).events query) = false ↔
      ended (comm.events query) = false ∧ (comm.serving index = query →
        ended ((comm.actions index).react completion).1 = false) := by
    rw [complete_events]
    split
    · next same => simp [ended, same]
    · next other => simp [other]
  simp only [ledger, Set.mem_ofPred_eq, actions, running]
  constructor
  · rintro ⟨other, active, serves, ctx, before, silent⟩
    exact ⟨⟨other, active, serves, ctx, before⟩, silent⟩
  · rintro ⟨⟨other, active, serves, ctx, before⟩, silent⟩
    exact ⟨other, active, serves, ctx, before, silent⟩

/-- A callback ends its query or leaves the ledger as it is. -/
theorem Coherent.complete_recorded {index : Nat} {completion : Completion Message}
    (coherent : comm.Coherent) (flying : (comm.actions index).inFlight ≠ []) :
    Ledger.Step comm.ledger (comm.told (.complete index completion))
      (comm.complete index completion).ledger := by
  have active := coherent.active_of_flying flying
  have live : (comm.serving index, (comm.actions index).ctx) ∈ comm.ledger.live :=
    ⟨index, active, rfl, rfl, (coherent.tracks.busy index active).not_ended flying⟩
  have accepted : (comm.complete index completion).ledger.accepted =
      comm.ledger.accepted := rfl
  by_cases silent : ended ((comm.actions index).react completion).1 = false
  · have same : (comm.complete index completion).ledger = comm.ledger := by
      refine congrArg₂ Ledger.mk accepted ?_
      ext ⟨query, queryID⟩
      exact mem_ledger_complete.trans (and_iff_left fun _ => silent)
    rw [same]
    exact .goesOn _ _ _ _ live ((outcomesOf_eq_nil_iff _).mpr silent)
  · have gone : (comm.complete index completion).ledger = ⟨comm.ledger.accepted,
        comm.ledger.live \ {(comm.serving index, (comm.actions index).ctx)}⟩ := by
      refine congrArg₂ Ledger.mk accepted ?_
      ext ⟨query, queryID⟩
      refine mem_ledger_complete.trans (and_congr_right fun onLedger => ?_)
      constructor
      · rintro kept equal
        exact silent (kept (Prod.mk.inj equal).1.symm)
      · rintro different rfl
        obtain ⟨other, otherActive, serves, rfl, -⟩ := onLedger
        obtain rfl := coherent.tracks.sound.eq_of_serving_eq otherActive active serves
        exact absurd rfl different
    rw [gone]
    exact .ends _ _ _ _ live (mt (outcomesOf_eq_nil_iff _).mp silent)

theorem Coherent.commit_recorded {index : Nat} {verdict : Verdict}
    {rest : List Verdict} (coherent : comm.Coherent)
    (runs : (comm.actions index).running = verdict :: rest) :
    (comm.commit index verdict).ledger = comm.ledger := by
  have active := coherent.active_of_running runs
  have sound := coherent.tracks.sound
  obtain ⟨changed, log, pool⟩ := commit_frame comm index verdict
  have ctx : ∀ other ∈ comm.active,
      ((comm.commit index verdict).actions other).ctx = (comm.actions other).ctx := by
    intro other _
    rw [changed]
    by_cases same : other = index
    · rw [same, Function.update_self, Action.committed_ctx]
    · rw [Function.update_of_ne same]
  rcases (coherent.tracks.busy index active).commit runs with ⟨busy, -⟩ | ⟨rests, ended⟩
  · rw [if_neg busy] at pool
    refine ledger_eq ?_ ?_ ?_ ?_ log ctx <;> rw [pool]
    · exact fun _ => id
    · exact fun _ member _ => member
  · rw [if_pos rests.1] at pool
    refine ledger_eq ?_ ?_ ?_ ?_ log ctx
    · rw [pool]
      rfl
    · intro other member
      rw [pool] at member
      exact (sound.mem_active_retire.mp member).2
    · intro other member running
      rw [pool]
      refine sound.mem_active_retire.mpr ⟨?_, member⟩
      rintro rfl
      simp [ended] at running
    · rw [pool]
      rfl

theorem Coherent.request_recorded {ready live : Bool} {ctx : QueryID}
    {prep : Prep Message} (coherent : comm.Coherent)
    (regular : (Label.request ready live ctx prep).Regular) :
    Ledger.Step comm.ledger (comm.told (.request ready live ctx prep))
      (comm.request ready live ctx prep).2.ledger := by
  obtain ⟨-, pool, log⟩ := allocate_frame comm ctx
  obtain ⟨active, accepted, serving⟩ := Pool.take_frame comm.toPool
  have allocated : (comm.allocate ctx).2.ledger = comm.ledger := by
    refine ledger_eq ?_ ?_ ?_ ?_ log ?_
    · rw [pool, accepted]
    · rw [pool, active]
      exact fun _ => id
    · rw [pool, active]
      exact fun _ member _ => member
    · rw [pool, serving]
    · intro index member
      rw [allocate_active coherent.tracks.sound ctx member]
  have acceptedEq : (comm.allocate ctx).2.accepted = comm.accepted := by
    rw [pool, accepted]
  cases ready with
  | false => exact .nothing _
  | true =>
      cases live with
      | false => cases prep <;> simp [Label.Regular] at regular
      | true =>
          cases prep with
          | thrown => exact regular.elim
          | declined =>
              change Ledger.Step comm.ledger (.declined _) (comm.allocate ctx).2.ledger
              rw [allocated]
              exact .declined _ _
          | accepted msg =>
              have launched :
                  ((comm.allocate ctx).2.launch (comm.allocate ctx).1 msg).ledger = _ :=
                ledger_launch (coherent.allocate ctx).sound
                  (coherent.allocate_logged ctx)
              rw [acceptedEq, allocated] at launched
              change Ledger.Step comm.ledger (.started comm.accepted
                  ((comm.allocate ctx).2.actions (comm.allocate ctx).1).ctx)
                ((comm.allocate ctx).2.launch (comm.allocate ctx).1 msg).ledger
              rw [launched]
              exact .started comm.ledger _

/-- `Request` under a box keeps its ledger. -/
theorem boxed_keeps :
    (boxed : Client (Request Message) _ Message).Keeps Coherent ledger where
  kept := by
    intro comm label next coherent stepped
    obtain ⟨regular, stepped⟩ := boxed_step stepped
    exact coherent.step regular stepped
  recorded := by
    intro comm label next coherent stepped
    obtain ⟨regular, stepped⟩ := boxed_step stepped
    cases label with
    | request ready live ctx prep =>
        obtain rfl := Option.some.inj stepped
        exact coherent.request_recorded regular
    | complete index completion =>
        obtain ⟨flying, rfl⟩ := step_complete stepped
        exact coherent.complete_recorded flying
    | commit index =>
        obtain ⟨verdict, rest, runs, rfl⟩ := step_commit stepped
        rw [coherent.commit_recorded runs]
        exact .nothing _

/-- A new `Request_Box`. -/
def box : Box (Request Message) Message where
  client := initial

theorem box_coherent : (box : Box (Request Message) Message).Coherent Coherent ledger where
  client := coherent_initial
  desk := by
    have empty : (initial : Request Message).ledger = ⟨0, ∅⟩ := by
      refine congrArg₂ Ledger.mk rfl ?_
      ext entry
      simp [initial]
    change Desk.Kept (initial : Request Message).ledger {}
    rw [empty]
    exact Desk.kept_initial

end Request

end Telling.Io
