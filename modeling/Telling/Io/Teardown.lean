import Mathlib.Algebra.Order.BigOperators.Group.List
import Mathlib.Algebra.Order.Ring.Nat
import Telling.Io.RequestPool

/-!
# The end of a Request communicator

`Request::~Request` cancels the operations of all active actions, waits for one active
action after the other until there are none left, and deletes the idle ones.  The
callbacks go on meanwhile; nobody calls `request` any more.

`aio.cancel` hits an operation that is in flight, which then completes with `canceled`.
It comes too late for one that NNG has finished, whether or not its callback is under way
already.  If that was a send, the callback goes on to listen for the response.
-/

namespace Telling.Io

open Lib

universe u

/-- Where the destructor is.  `waiting` is the call of `aio.wait`; `sweeping` has the
actions that the last loop has not deleted. -/
inductive Teardown.Phase where
  | alive
  | looking
  | waiting (index : Nat)
  | sweeping (rest : List Nat)
  | gone
  deriving DecidableEq, Repr

/-- A communicator and its destructor.  `canceled` are the actions whose operation was
cancelled and has not completed. -/
structure Teardown (Message : Type u) where
  comm : Request Message
  phase : Teardown.Phase
  canceled : List Nat
  freed : List Nat

namespace Teardown

variable {Message : Type u}

def initial : Teardown Message := ⟨.initial, .alive, [], []⟩

/-- What the communicator can still do: no request is made of an object that is being
destroyed, and an operation that was cancelled completes as such. -/
def Permits (teardown : Teardown Message) : Request.Label Message → Prop
  | .request _ _ _ _ => teardown.phase = .alive
  | .complete index completion =>
      index ∈ teardown.canceled → completion.result = .canceled
  | .commit _ => True

instance (teardown : Teardown Message) :
    (label : Request.Label Message) → Decidable (teardown.Permits label)
  | .request _ _ _ _ => inferInstanceAs (Decidable (teardown.phase = .alive))
  | .complete index completion =>
      inferInstanceAs (Decidable (index ∈ teardown.canceled → completion.result = .canceled))
  | .commit _ => isTrue trivial

/-- The cancelled operations that are left after a step of the communicator. -/
def pending (canceled : List Nat) : Request.Label Message → List Nat
  | .complete index _ => canceled.filter (· ≠ index)
  | .request _ _ _ _ | .commit _ => canceled

inductive Label (Message : Type u) where
  | proceed (label : Request.Label Message)
  | destroy (landed : List Nat)
  | pick (index : Nat)
  | wake
  | leave
  | free

/-- The actions whose operation is hit by `aio.cancel`.  NNG has finished the operations
of the actions in `landed`, whose callbacks have not begun. -/
def hit (comm : Request Message) (landed : List Nat) : List Nat :=
  comm.active.filter fun index => !(comm.actions index).inFlight.isEmpty && index ∉ landed

/-- `Request::~Request`.  `active` is a set, so `*active.begin()` is any of its
members.  `aio.wait` returns once the handle has no operation and no callback. -/
def step (teardown : Teardown Message) : Label Message → Option (Teardown Message)
  | .proceed label =>
      if teardown.Permits label then
        (teardown.comm.step label).map fun comm =>
          { teardown with comm := comm, canceled := pending teardown.canceled label }
      else none
  | .destroy landed =>
      if teardown.phase = .alive then
        some { teardown with phase := .looking, canceled := hit teardown.comm landed }
      else none
  | .pick index =>
      if teardown.phase = .looking ∧ index ∈ teardown.comm.active then
        some { teardown with phase := .waiting index }
      else none
  | .wake =>
      match teardown.phase with
      | .waiting index =>
          if (teardown.comm.actions index).outstanding = 0 then
            some { teardown with phase := .looking }
          else none
      | _ => none
  | .leave =>
      if teardown.phase = .looking ∧ teardown.comm.active = [] then
        some { teardown with phase := .sweeping teardown.comm.idle }
      else none
  | .free =>
      match teardown.phase with
      | .sweeping [] => some { teardown with phase := .gone }
      | .sweeping (index :: rest) =>
          some { teardown with phase := .sweeping rest, freed := teardown.freed ++ [index] }
      | _ => none

/-- The steps, with what they need. -/
inductive Steps (teardown : Teardown Message) :
    Label Message → Teardown Message → Prop
  | proceed {label : Request.Label Message} {comm : Request Message}
      (permitted : teardown.Permits label)
      (stepped : teardown.comm.step label = some comm) :
      Steps teardown (.proceed label)
        { teardown with comm := comm, canceled := pending teardown.canceled label }
  | destroy {landed : List Nat} (alive : teardown.phase = .alive) :
      Steps teardown (.destroy landed)
        { teardown with phase := .looking, canceled := hit teardown.comm landed }
  | pick {index : Nat} (looking : teardown.phase = .looking)
      (active : index ∈ teardown.comm.active) :
      Steps teardown (.pick index) { teardown with phase := .waiting index }
  | wake {index : Nat} (waiting : teardown.phase = .waiting index)
      (quiet : (teardown.comm.actions index).outstanding = 0) :
      Steps teardown .wake { teardown with phase := .looking }
  | leave (looking : teardown.phase = .looking) (none : teardown.comm.active = []) :
      Steps teardown .leave { teardown with phase := .sweeping teardown.comm.idle }
  | free {index : Nat} {rest : List Nat}
      (sweeping : teardown.phase = .sweeping (index :: rest)) :
      Steps teardown .free
        { teardown with phase := .sweeping rest, freed := teardown.freed ++ [index] }
  | finish (sweeping : teardown.phase = .sweeping []) :
      Steps teardown .free { teardown with phase := .gone }

variable {teardown next midway final : Teardown Message}

theorem steps_of_step {label : Label Message}
    (stepped : teardown.step label = some next) : teardown.Steps label next := by
  cases label with
  | proceed label =>
      simp only [step] at stepped
      split at stepped
      · next permitted =>
          obtain ⟨comm, moved, rfl⟩ := Option.map_eq_some_iff.mp stepped
          exact .proceed permitted moved
      · contradiction
  | destroy landed =>
      simp only [step] at stepped
      split at stepped
      · next alive => exact Option.some.inj stepped ▸ .destroy alive
      · contradiction
  | pick index =>
      simp only [step] at stepped
      split at stepped
      · next enabled => exact Option.some.inj stepped ▸ .pick enabled.1 enabled.2
      · contradiction
  | wake =>
      simp only [step] at stepped
      split at stepped
      · next index waiting =>
          split at stepped
          · next quiet => exact Option.some.inj stepped ▸ .wake waiting quiet
          · contradiction
      · contradiction
  | leave =>
      simp only [step] at stepped
      split at stepped
      · next enabled => exact Option.some.inj stepped ▸ .leave enabled.1 enabled.2
      · contradiction
  | free =>
      simp only [step] at stepped
      split at stepped
      · next sweeping => exact Option.some.inj stepped ▸ .finish sweeping
      · next index rest sweeping => exact Option.some.inj stepped ▸ .free sweeping
      · contradiction

/-! ## Before the destructor -/

/-- A condition on the steps of the communicator. -/
def Label.Respects (condition : Request.Label Message → Prop) : Label Message → Prop
  | .proceed label => condition label
  | _ => True

/-- Until the destructor begins, the communicator keeps its own invariants. -/
theorem untouched_of_run {invariant : Request Message → Prop}
    {condition : Request.Label Message → Prop} (start : invariant .initial)
    (preserve : ∀ comm label next, invariant comm → condition label →
      Request.step comm label = some next → invariant next)
    {labels : List (Label Message)}
    (respects : ∀ label ∈ labels, label.Respects condition)
    (reached : run step initial labels = some midway) (alive : midway.phase = .alive) :
    invariant midway.comm ∧ midway.freed = [] := by
  have kept : midway.phase = .alive → invariant midway.comm ∧ midway.freed = [] := by
    refine invariant_of_run (fun teardown : Teardown Message =>
      teardown.phase = .alive → invariant teardown.comm ∧ teardown.freed = [])
      (fun _ => ⟨start, rfl⟩) ?_ (meets_of_forall respects) reached
    intro teardown label next before respects stepped still
    cases steps_of_step stepped with
    | proceed permitted moved =>
        obtain ⟨holds, none⟩ := before still
        exact ⟨preserve _ _ _ holds respects moved, none⟩
    | destroy | pick | wake | leave | free | finish => cases still
  exact kept alive

end Teardown

/-! ## The work that is left -/

namespace Request

variable {Message : Type u} {comm : Request Message} {index : Nat}

/-- The parts of callbacks that an action has still to go through, if all goes well. -/
def Action.work (action : Action Message) : Nat :=
  (if action.state = .send then 2 else 0) + 2 * action.inFlight.length +
    action.running.length

def work (comm : Request Message) : Nat :=
  (comm.active.map fun index => (comm.actions index).work).sum

namespace Action.Working

variable {action : Action Message}

theorem work_le (working : action.Working) : action.work ≤ 4 := by
  have single := working.2
  unfold outstanding at single
  unfold work
  split <;> omega

theorem work_pos (working : action.Working) : 0 < action.work := by
  have single := working.2
  unfold outstanding at single
  unfold work
  omega

end Action.Working

namespace Action

variable {action : Action Message}

theorem work_completed (flying : action.inFlight ≠ []) (verdict : Verdict) :
    (action.completed verdict).work < action.work := by
  obtain ⟨operation, rest, inFlight⟩ := List.exists_cons_of_ne_nil flying
  simp only [work, Action.completed, inFlight, List.tail_cons, List.length_cons,
    List.length_append, List.length_nil]
  omega

theorem work_committed {verdict : Verdict} {rest : List Verdict}
    (runs : action.running = verdict :: rest)
    (busy : (action.committed verdict).state ≠ .idle) :
    (action.committed verdict).work < action.work := by
  obtain ⟨ctx, state, inFlight, running⟩ := action
  cases runs
  unfold Action.committed at busy ⊢
  dsimp only [List.tail_cons] at busy ⊢
  split at busy
  · next sent =>
      have state : state = .send := by
        by_contra other
        split at sent <;> contradiction
      simp only [work, state, List.length_append, List.length_cons, List.length_nil,
        if_true, reduceCtorEq, if_false]
      omega
  · exact absurd rfl busy
  · exact absurd rfl busy

end Action

theorem Held.work_le (held : comm.Held) : comm.work ≤ 4 * comm.active.length := by
  have bound := List.sum_le_card_nsmul
    (comm.active.map fun index => (comm.actions index).work) 4 ?_
  · simpa [Request.work, Nat.mul_comm] using bound
  · intro cost member
    obtain ⟨index, active, rfl⟩ := List.mem_map.mp member
    exact (held.busy index active).work_le

theorem commit_allocated (comm : Request Message) (index : Nat) (verdict : Verdict) :
    (comm.commit index verdict).allocated = comm.allocated := by
  rw [(commit_frame comm index verdict).2.2]
  split <;> rfl

/-- The work on one action and the work on the others. -/
theorem work_split (active : index ∈ comm.active) :
    (comm.actions index).work +
        ((comm.active.erase index).map fun other => (comm.actions other).work).sum =
      comm.work :=
  List.sum_map_erase (fun other => (comm.actions other).work) active

theorem Held.work_others (held : comm.Held) {changed : Nat → Action Message}
    (others : ∀ other ≠ index, changed other = comm.actions other) :
    ((comm.active.erase index).map fun other => (changed other).work).sum =
      ((comm.active.erase index).map fun other => (comm.actions other).work).sum := by
  congr 1
  apply List.map_congr_left
  intro other member
  rw [others other (held.sound.nodup_active.mem_erase_iff.mp member).1]

theorem Held.work_complete {completion : Completion Message} (held : comm.Held)
    (flying : (comm.actions index).inFlight ≠ []) :
    (comm.complete index completion).work < comm.work := by
  have active : index ∈ comm.active := active_of_flying held.rest flying
  have others : ∀ other ≠ index,
      (comm.complete index completion).actions other = comm.actions other :=
    fun other different => Function.update_of_ne different _ _
  have action : (comm.complete index completion).actions index =
      (comm.actions index).completed ((comm.actions index).react completion).2 :=
    Function.update_self _ _ _
  rw [← work_split active, ← @work_split _ (comm.complete index completion) _ active,
    action]
  exact Nat.add_lt_add_of_lt_of_le (Action.work_completed flying _)
    (held.work_others others).le

/-- A commit leaves the action active with less work, or retires it. -/
theorem Held.work_commit {verdict : Verdict} {rest : List Verdict} (held : comm.Held)
    (runs : (comm.actions index).running = verdict :: rest) :
    (comm.commit index verdict).work < comm.work ∧
      ((comm.commit index verdict).active = comm.active ∨
        (comm.commit index verdict).active = comm.active.erase index) := by
  have active := active_of_running held.rest runs
  obtain ⟨changed, -, pool⟩ := commit_frame comm index verdict
  have others : ∀ other ≠ index,
      (comm.commit index verdict).actions other = comm.actions other :=
    fun other different => changed ▸ Function.update_of_ne different _ _
  have action : (comm.commit index verdict).actions index =
      (comm.actions index).committed verdict := changed ▸ Function.update_self _ _ _
  by_cases idle : ((comm.actions index).committed verdict).state = .idle
  · have after : (comm.commit index verdict).active = comm.active.erase index := by
      rw [pool, if_pos idle]
      rfl
    refine ⟨?_, .inr after⟩
    rw [← work_split active, Request.work, after, held.work_others others]
    exact Nat.lt_add_of_pos_left (held.busy index active).work_pos
  · have after : (comm.commit index verdict).active = comm.active := by
      rw [pool, if_neg idle]
    refine ⟨?_, .inl after⟩
    rw [← work_split active, Request.work, after,
      ← List.sum_map_erase (fun other => ((comm.commit index verdict).actions other).work)
        active, action, held.work_others others]
    exact Nat.add_lt_add_right (Action.work_committed runs idle) _

end Request

/-! ## The destructor -/

namespace Teardown

variable {Message : Type u} {teardown next midway final : Teardown Message}

/-- The steps that the destructor and the callbacks have still to make. -/
def remaining (teardown : Teardown Message) : Nat :=
  let comm := teardown.comm
  match teardown.phase with
  | .alive | .looking => comm.work + 2 * comm.active.length + comm.allocated + 2
  | .waiting index =>
      comm.work + 2 * comm.active.length + comm.allocated +
        if index ∈ comm.active then 1 else 3
  | .sweeping rest => rest.length + 1
  | .gone => 0

/-- What the destructor has done with the actions. -/
def Disposed (teardown : Teardown Message) : Prop :=
  match teardown.phase with
  | .alive => False
  | .looking | .waiting _ => teardown.freed = []
  | .sweeping rest =>
      teardown.comm.active = [] ∧ teardown.freed ++ rest = teardown.comm.idle
  | .gone => teardown.comm.active = [] ∧ teardown.freed = teardown.comm.idle

/-- The invariant of the destructor. -/
structure Winding (allocated : Nat) (teardown : Teardown Message) : Prop where
  held : teardown.comm.Held
  allocated : teardown.comm.allocated = allocated
  disposed : teardown.Disposed

theorem Disposed.begun (disposed : teardown.Disposed) : teardown.phase ≠ .alive := by
  intro alive
  simp only [Disposed, alive] at disposed

/-- What a step of a callback leaves to be done. -/
structure Advances (comm next : Request Message) : Prop where
  held : next.Held
  allocated : next.allocated = comm.allocated
  work : next.work < comm.work
  active : next.active = comm.active ∨
    ∃ index ∈ comm.active, next.active = comm.active.erase index
  busy : comm.active ≠ []

theorem Advances.length_le {comm next : Request Message} (advances : Advances comm next) :
    next.active.length ≤ comm.active.length := by
  rcases advances.active with same | ⟨index, -, erased⟩
  · rw [same]
  · rw [erased]
    exact List.length_erase_le

/-- After the destructor has begun only callbacks run. -/
theorem advances_of_proceed (begun : teardown.phase ≠ .alive) (held : teardown.comm.Held)
    {label : Request.Label Message} {comm : Request Message}
    (permitted : teardown.Permits label) (stepped : teardown.comm.step label = some comm) :
    Advances teardown.comm comm := by
  cases label with
  | request => exact absurd permitted begun
  | complete index completion =>
      obtain ⟨flying, rfl⟩ := Request.step_complete stepped
      exact {
        held := held.complete flying
        allocated := rfl
        work := held.work_complete flying
        active := .inl rfl
        busy := List.ne_nil_of_mem (Request.active_of_flying held.rest flying) }
  | commit index =>
      obtain ⟨verdict, rest, runs, rfl⟩ := Request.step_commit stepped
      have active := Request.active_of_running held.rest runs
      obtain ⟨work, places⟩ := held.work_commit runs
      exact {
        held := held.commit runs
        allocated := Request.commit_allocated teardown.comm index verdict
        work := work
        active := places.imp_right fun erased => ⟨index, active, erased⟩
        busy := List.ne_nil_of_mem active }

theorem Winding.step {allocated : Nat} (winding : teardown.Winding allocated)
    {label : Label Message} (stepped : teardown.step label = some next) :
    next.Winding allocated := by
  obtain ⟨held, allocated, disposed⟩ := winding
  cases steps_of_step stepped with
  | proceed permitted moved =>
      have advances := advances_of_proceed disposed.begun held permitted moved
      refine ⟨advances.held, advances.allocated.trans allocated, ?_⟩
      unfold Disposed at disposed ⊢
      dsimp only
      cases phase : teardown.phase with
      | alive => exact absurd phase (by simp [phase] at disposed)
      | looking | waiting => simpa only [phase] using disposed
      | sweeping | gone =>
          simp only [phase] at disposed
          exact absurd disposed.1 advances.busy
  | destroy alive => exact absurd alive disposed.begun
  | pick looking active =>
      refine ⟨held, allocated, ?_⟩
      simpa only [Disposed, looking] using disposed
  | wake waiting quiet =>
      refine ⟨held, allocated, ?_⟩
      simpa only [Disposed, waiting] using disposed
  | leave looking none =>
      refine ⟨held, allocated, none, ?_⟩
      simp only [Disposed, looking] at disposed
      simp [disposed]
  | free sweeping =>
      refine ⟨held, allocated, ?_⟩
      simpa [Disposed, sweeping] using disposed
  | finish sweeping =>
      refine ⟨held, allocated, ?_⟩
      simpa [Disposed, sweeping] using disposed

/-- A step of a callback leaves less to do in every phase. -/
theorem remaining_proceed {comm : Request Message} (advances : Advances teardown.comm comm)
    (disposed : teardown.Disposed) (canceled : List Nat) :
    remaining { teardown with comm := comm, canceled := canceled } <
      teardown.remaining := by
  have work := advances.work
  have shorter := advances.length_le
  unfold remaining
  cases phase : teardown.phase with
  | alive => exact absurd phase disposed.begun
  | looking =>
      simp only [advances.allocated]
      omega
  | waiting index =>
      simp only [advances.allocated]
      rcases advances.active with same | ⟨other, member, erased⟩
      · rw [same]
        omega
      · have length := List.length_erase_of_mem member
        have nonempty := List.length_pos_of_mem member
        rw [erased]
        by_cases still : index ∈ teardown.comm.active.erase other
        · rw [if_pos still, if_pos (List.mem_of_mem_erase still)]
          omega
        · rw [if_neg still]
          split <;> omega
  | sweeping | gone =>
      simp only [Disposed, phase] at disposed
      exact absurd disposed.1 advances.busy

theorem Winding.remaining_lt {allocated : Nat} (winding : teardown.Winding allocated)
    {label : Label Message} (stepped : teardown.step label = some next) :
    next.remaining < teardown.remaining := by
  obtain ⟨held, -, disposed⟩ := winding
  cases steps_of_step stepped with
  | proceed permitted moved =>
      have advances := advances_of_proceed disposed.begun held permitted moved
      exact remaining_proceed advances disposed _
  | destroy alive => exact absurd alive disposed.begun
  | pick looking active => simp [remaining, looking, active]
  | @wake index waiting quiet =>
      have inactive : index ∉ teardown.comm.active := by
        intro active
        have busy := (held.busy index active).2
        omega
      simp [remaining, waiting, inactive]
  | leave looking none =>
      have all := held.sound.partition.length_eq
      simp only [none, List.nil_append, List.length_range] at all
      simp only [remaining, looking, none, all]
      omega
  | free sweeping => simp [remaining, sweeping]
  | finish sweeping => simp [remaining, sweeping]

/-- The steps that wait for nobody: those of the destructor itself, and the second parts
of callbacks. -/
def Label.Own : Label Message → Prop
  | .proceed (.commit _) => True
  | .proceed (.request _ _ _ _) | .proceed (.complete _ _) => False
  | .destroy _ | .pick _ | .wake | .leave | .free => True

/-- The destructor is held up by nothing but an operation that NNG has not completed. -/
theorem Winding.progress {allocated : Nat} (winding : teardown.Winding allocated)
    (unfinished : teardown.phase ≠ .gone) :
    (∃ index, teardown.phase = .waiting index ∧
      (teardown.comm.actions index).inFlight ≠ []) ∨
    ∃ label next, Label.Own label ∧ teardown.step label = some next := by
  cases phase : teardown.phase with
  | alive => exact absurd phase winding.disposed.begun
  | gone => exact absurd phase unfinished
  | looking =>
      cases active : teardown.comm.active with
      | nil => exact .inr ⟨.leave, _, trivial, if_pos ⟨phase, active⟩⟩
      | cons index rest =>
          have member : index ∈ teardown.comm.active := by simp [active]
          exact .inr ⟨.pick index, _, trivial, if_pos ⟨phase, member⟩⟩
  | sweeping rest =>
      cases rest with
      | nil =>
          refine .inr ⟨.free, { teardown with phase := .gone }, trivial, ?_⟩
          simp only [Teardown.step, phase]
      | cons index rest =>
          refine .inr ⟨.free, { teardown with
            phase := .sweeping rest
            freed := teardown.freed ++ [index] }, trivial, ?_⟩
          simp only [Teardown.step, phase]
  | waiting index =>
      by_cases flying : (teardown.comm.actions index).inFlight = []
      · right
        cases runs : (teardown.comm.actions index).running with
        | nil =>
            refine ⟨.wake, { teardown with phase := .looking }, trivial, ?_⟩
            simp [Teardown.step, phase, Request.Action.outstanding, flying, runs]
        | cons verdict rest =>
            refine ⟨.proceed (.commit index), { teardown with
              comm := teardown.comm.commit index verdict }, trivial, ?_⟩
            simp [Teardown.step, Permits, pending, Request.step, runs]
      · exact .inl ⟨index, rfl, flying⟩

/-- When the object is gone, nothing can touch it. -/
theorem Winding.stuck {allocated : Nat} (winding : teardown.Winding allocated)
    (gone : teardown.phase = .gone) (label : Label Message) :
    teardown.step label = none := by
  have disposed := winding.disposed
  simp only [Disposed, gone] at disposed
  apply Option.eq_none_iff_forall_not_mem.mpr
  intro next stepped
  cases steps_of_step stepped with
  | proceed permitted moved =>
      have advances :=
        advances_of_proceed winding.disposed.begun winding.held permitted moved
      exact advances.busy disposed.1
  | destroy other | pick other | wake other | leave other | free other | finish other =>
      simp [gone] at other

/-- The first step of the destructor. -/
theorem winding_of_destroy {before after : List (Label Message)} {landed : List Nat}
    (returns : ∀ label ∈ before, label.Respects Request.Label.Returns)
    (reached : run step initial before = some midway)
    (destroyed : run step midway (.destroy landed :: after) = some final) :
    ∃ begun : Teardown Message, begun.comm = midway.comm ∧ begun.phase = .looking ∧
      begun.Winding midway.comm.allocated ∧ run step begun after = some final := by
  obtain ⟨begun, stepped, rest⟩ := run_cons_eq_some.mp destroyed
  refine ⟨begun, ?_⟩
  cases steps_of_step stepped with
  | destroy alive =>
      obtain ⟨held, none⟩ := untouched_of_run Request.held_initial
        (fun _ _ _ before returns stepped => before.step returns stepped)
        returns reached alive
      exact ⟨rfl, rfl, ⟨held, rfl, none⟩, rest⟩

theorem winding_of_run {allocated : Nat} {labels : List (Label Message)}
    (winding : teardown.Winding allocated)
    (reached : run step teardown labels = some final) : final.Winding allocated :=
  invariant_of_run (Winding allocated) winding (fun _ _ _ before _ => before.step)
    (meets_true _ _) reached

/-- In every run in which no `async_prep` throws, whether or not the handler lives: the
destructor ends after a bounded number of steps of its own and of the callbacks; until
then it is held up only by an operation that NNG has not completed; and at the end it has
deleted every action that was ever allocated, each once, while nothing is left that could
touch one of them. -/
theorem destructor_deletes_every_action (before after : List (Label Message))
    (landed : List Nat) (midway final : Teardown Message)
    (returns : ∀ label ∈ before, label.Respects Request.Label.Returns)
    (reached : run step initial before = some midway)
    (destroyed : run step midway (.destroy landed :: after) = some final) :
    after.length ≤ 6 * midway.comm.active.length + midway.comm.allocated + 2 ∧
      (final.phase ≠ .gone →
        (∃ index, final.phase = .waiting index ∧
          (final.comm.actions index).inFlight ≠ []) ∨
        ∃ label next, Label.Own label ∧ final.step label = some next) ∧
      (∀ index ∈ final.freed, (final.comm.actions index).Resting) ∧
      (final.phase = .gone →
        final.freed.Perm (List.range midway.comm.allocated) ∧
          ∀ label, final.step label = none) := by
  obtain ⟨begun, same, looking, winding, rest⟩ :=
    winding_of_destroy returns reached destroyed
  have ends := winding_of_run winding rest
  refine ⟨?_, ends.progress, ?_, ?_⟩
  · have bound := length_le_of_run (Winding midway.comm.allocated) remaining
      (fun _ _ _ before => before.step) (fun _ _ _ before => before.remaining_lt)
      winding rest
    have work := winding.held.work_le
    simp only [remaining, looking, same] at bound work
    omega
  · intro index freed
    have disposed := ends.disposed
    apply ends.held.rest
    cases phase : final.phase <;> simp only [Disposed, phase] at disposed
    · simp [disposed] at freed
    · simp [disposed] at freed
    · simp [disposed.1]
    · simp [disposed.1]
  · intro gone
    have disposed := ends.disposed
    simp only [Disposed, gone] at disposed
    have all := ends.held.sound.partition
    rw [disposed.1, ends.allocated] at all
    exact ⟨disposed.2 ▸ all, ends.stuck gone⟩

/-- Three queries are sent; NNG has sent the first one. -/
def threeQueries : List (Label Nat) :=
  [.proceed (.request true true 7 (.accepted 70)),
    .proceed (.request true true 8 (.accepted 80)),
    .proceed (.request true true 9 (.accepted 90)),
    .proceed (.complete 0 ⟨.success, 0, true⟩)]

/-- The callback of the first query has not taken the lock when the destructor begins, and
that of the second one is about to run; both are answered before the destructor is done.
The third one is cancelled. -/
def lateResponses : List (Label Nat) :=
  [.pick 0, .proceed (.complete 2 ⟨.canceled, 0, true⟩), .proceed (.commit 0),
    .proceed (.complete 1 ⟨.success, 0, true⟩), .proceed (.commit 2),
    .proceed (.complete 0 ⟨.success, 71, true⟩), .proceed (.commit 0), .wake, .pick 1,
    .proceed (.commit 1), .proceed (.complete 1 ⟨.success, 81, true⟩), .proceed (.commit 1),
    .wake, .leave, .free, .free, .free, .free]

theorem destructor_deletes_every_action_lateResponses :
    (∀ label ∈ threeQueries, label.Respects Request.Label.Returns) ∧
      ∃ midway final, run step initial threeQueries = some midway ∧
        run step midway (.destroy [1] :: lateResponses) = some final ∧
        final.phase = .gone ∧ final.freed.Perm (List.range 3) := by
  have returns : ∀ label ∈ threeQueries, label.Respects Request.Label.Returns := by
    simp [threeQueries, Label.Respects, Request.Label.Returns]
  have runs : ((run step initial threeQueries).bind fun midway =>
      (run step midway (.destroy [1] :: lateResponses)).map fun final =>
        (midway.comm.allocated, final.phase)) = some (3, .gone) := by
    decide +kernel
  obtain ⟨midway, reached, rest⟩ := Option.bind_eq_some_iff.mp runs
  obtain ⟨final, destroyed, equal⟩ := Option.map_eq_some_iff.mp rest
  obtain ⟨allocated, gone⟩ := Prod.mk.inj equal
  have deleted := (destructor_deletes_every_action threeQueries lateResponses [1] midway
    final returns reached destroyed).2.2.2 gone
  exact ⟨returns, midway, final, reached, destroyed, gone, allocated ▸ deleted.1⟩

end Teardown

end Telling.Io
