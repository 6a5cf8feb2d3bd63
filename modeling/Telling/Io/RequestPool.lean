import Telling.Io.RequestProtocol

/-!
# The actions of a Request communicator

Whether or not its handler lives, a communicator keeps each of its actions in `active` or
in `idle`, the active ones with one operation or callback under way and the idle ones at
rest, as long as no `async_prep` throws.
-/

namespace Telling.Io.Request

open Lib

universe u

variable {Message : Type u} {comm next : Request Message} {index : Nat}

/-- No `async_prep` throws. -/
def Label.Returns : Label Message → Prop
  | .request ready live _ prep => ready → live → prep ≠ .thrown
  | .complete _ _ | .commit _ => True

/-- An action that serves a query has one operation under way. -/
def Action.Working (action : Action Message) : Prop :=
  action.state ≠ .idle ∧ action.outstanding = 1

namespace Action.Working

variable {action : Action Message}

theorem start (resting : action.Resting) (msg : Message) : (action.start msg).Working := by
  obtain ⟨-, inFlight, running⟩ := resting
  exact ⟨by simp [Action.start], by simp [Action.start, outstanding, inFlight, running]⟩

theorem completed (working : action.Working) (flying : action.inFlight ≠ [])
    (verdict : Verdict) : (action.completed verdict).Working := by
  obtain ⟨operation, rest, inFlight⟩ := List.exists_cons_of_ne_nil flying
  refine ⟨working.1, ?_⟩
  have single := working.2
  simp only [outstanding, Action.completed, inFlight, List.length_append, List.length_cons,
    List.tail_cons, List.length_nil] at single ⊢
  omega

/-- The callback that takes the lock is the only operation of its action. -/
theorem committed {verdict : Verdict} {rest : List Verdict} (working : action.Working)
    (runs : action.running = verdict :: rest) :
    (action.committed verdict).Working ∨ (action.committed verdict).Resting := by
  obtain ⟨ctx, state, inFlight, running⟩ := action
  cases runs
  have single := working.2
  simp only [outstanding, List.length_cons] at single
  obtain rfl : inFlight = [] := List.length_eq_zero_iff.mp (by omega)
  obtain rfl : rest = [] := List.length_eq_zero_iff.mp (by omega)
  unfold Action.committed
  dsimp only [List.tail_cons]
  split
  · exact Or.inl ⟨by simp, rfl⟩
  · exact Or.inr ⟨rfl, rfl, rfl⟩
  · exact Or.inr ⟨rfl, rfl, rfl⟩

end Action.Working

/-- The invariant: no action is lost, and the actions outside `active` rest. -/
def Held (comm : Request Message) : Prop :=
  comm.toPool.Tracks [] (fun index => (comm.actions index).Resting)
    (fun index _ => (comm.actions index).Working) fun _ => True

theorem held_initial : (initial : Request Message).Held where
  sound := Pool.sound_empty
  rest := fun _ _ => ⟨rfl, rfl, rfl⟩
  busy := by simp [initial]
  done := fun _ _ _ => trivial

theorem Held.launch {msg : Message}
    (tracks : comm.toPool.Tracks [index] (fun index => (comm.actions index).Resting)
      (fun index _ => (comm.actions index).Working) fun _ => True) :
    (comm.launch index msg).Held := by
  refine Pool.Tracks.launch tracks ?_ ?_ ?_ fun _ _ => id
  · intro other different resting
    rw [launch_actions different]
    exact resting
  · intro other _ different working
    rw [launch_actions different]
    exact working
  · intro resting
    rw [launch_action]
    exact .start resting msg

theorem Held.request {ready live : Bool} {ctx : QueryID} {prep : Prep Message}
    (held : comm.Held) (returns : (Label.request ready live ctx prep).Returns) :
    (comm.request ready live ctx prep).2.Held := by
  have taken := tracks_allocate (fun action _ => action.Working) held ctx
  cases ready with
  | false => exact held
  | true =>
      cases live with
      | false => exact held
      | true =>
          cases prep with
          | thrown => exact absurd rfl (returns rfl rfl)
          | declined => exact taken.giveBack
          | accepted msg => exact .launch taken

theorem Held.complete {completion : Completion Message} (held : comm.Held)
    (flying : (comm.actions index).inFlight ≠ []) :
    (comm.complete index completion).Held := by
  have active := active_of_flying held.rest flying
  have actions : ∀ other ≠ index,
      (comm.complete index completion).actions other = comm.actions other :=
    fun other different => Function.update_of_ne different _ _
  refine Pool.Tracks.proceed held active ?_ ?_ ?_ fun _ _ _ => id
  · exact fun other different resting => actions other different ▸ resting
  · exact fun other _ different _ working => actions other different ▸ working
  · intro working
    simp only [Request.complete, Function.update_self]
    exact working.completed flying _

theorem Held.commit {verdict : Verdict} {rest : List Verdict} (held : comm.Held)
    (runs : (comm.actions index).running = verdict :: rest) :
    (comm.commit index verdict).Held := by
  have active := active_of_running held.rest runs
  obtain ⟨changed, -, pool⟩ := commit_frame comm index verdict
  have actions : ∀ other ≠ index,
      (comm.commit index verdict).actions other = comm.actions other :=
    fun other different => changed ▸ Function.update_of_ne different _ _
  have action : (comm.commit index verdict).actions index =
      (comm.actions index).committed verdict := changed ▸ Function.update_self _ _ _
  rw [Held]
  rcases (held.busy index active).committed runs with working | resting
  · rw [pool, if_neg working.1]
    refine Pool.Tracks.proceed held active ?_ ?_ ?_ fun _ _ _ => id
    · exact fun other different resting => actions other different ▸ resting
    · exact fun other _ different _ working => actions other different ▸ working
    · exact fun _ => action ▸ working
  · rw [pool, if_pos resting.1]
    refine Pool.Tracks.retire held active ?_ ?_ (action ▸ resting) trivial
    · exact fun other different resting => actions other different ▸ resting
    · exact fun other _ different working => actions other different ▸ working

theorem Held.step {label : Label Message} (held : comm.Held) (returns : label.Returns)
    (stepped : comm.step label = some next) : next.Held := by
  cases label with
  | request ready live ctx prep =>
      obtain rfl := Option.some.inj stepped
      exact held.request returns
  | complete index completion =>
      obtain ⟨flying, rfl⟩ := step_complete stepped
      exact held.complete flying
  | commit index =>
      obtain ⟨verdict, rest, runs, rfl⟩ := step_commit stepped
      exact held.commit runs

end Telling.Io.Request
