import Telling.Http.Pool
import Telling.Io.RequestPool

/-!
# Requests that the handler refuses

`Request::request` and `HttpClient::request` take an action out of the pool before they
consult the handler.  An `async_prep` that empties the message has the action put back;
one that throws has not.  A refused request disturbs no query in flight either way, and
every action is still in `active` or `idle` exactly as long as no `async_prep` has
thrown.
-/

namespace Telling.Io.Request

open Lib

universe u

variable {Message : Type u} {comm next : Request Message} {index : Nat}

/-- `async_prep` did not let the request through. -/
def Prep.Refuses : Prep Message → Prop
  | .accepted _ => False
  | .declined | .thrown => True

/-- What a refused request leaves of the communicator: every action that was ever
allocated, `active`, and the queries in flight. -/
structure Spares (comm after : Request Message) : Prop where
  kept : after.toPool.Kept
  active : after.active = comm.active
  queries : ∀ index ∈ comm.active, after.actions index = comm.actions index ∧
    after.serving index = comm.serving index
  log : after.log = comm.log

/-- A request that the handler refuses loses no action. -/
def LosesNone (comm : Request Message) : Label Message → Prop
  | .request ready live ctx prep =>
      ready → live → prep.Refuses → comm.Spares (comm.request ready live ctx prep).2
  | .complete _ _ | .commit _ => True

/-- Declining puts the action back. -/
theorem Held.spares_declined (held : comm.Held) (ctx : QueryID) :
    comm.Spares (comm.request true true ctx .declined).2 := by
  have returns : (Label.request true true ctx .declined : Label Message).Returns :=
    fun _ _ => by simp
  obtain ⟨-, pool, log⟩ := allocate_frame comm ctx
  obtain ⟨active, -, serving⟩ := Pool.take_frame comm.toPool
  refine ⟨(held.request returns).sound.kept, ?_, fun index member => ⟨?_, ?_⟩, log⟩
  · change (comm.allocate ctx).2.toPool.active = _
    rw [pool, active]
  · exact allocate_active held.sound ctx member
  · change (comm.allocate ctx).2.toPool.serving index = _
    rw [pool, serving]

/-- Throwing loses it. -/
theorem Held.not_spares_thrown (held : comm.Held) (ctx : QueryID) :
    ¬comm.Spares (comm.request true true ctx .thrown).2 := by
  intro spares
  exact (tracks_allocate (fun action _ => action.Working) held ctx).sound.not_kept
    spares.kept

theorem Held.losesNone_iff (held : comm.Held) (label : Label Message) :
    comm.LosesNone label ↔ label.Returns := by
  cases label with
  | complete index completion => exact Iff.rfl
  | commit index => exact Iff.rfl
  | request ready live ctx prep =>
      cases ready with
      | false => simp [LosesNone, Label.Returns]
      | true =>
          cases live with
          | false => simp [LosesNone, Label.Returns]
          | true =>
              cases prep with
              | accepted msg => simp [LosesNone, Label.Returns, Prep.Refuses]
              | declined =>
                  exact iff_of_true (fun _ _ _ => held.spares_declined ctx)
                    fun _ _ => by simp
              | thrown =>
                  refine iff_of_false (fun loses => ?_) fun returns => returns rfl rfl rfl
                  exact held.not_spares_thrown ctx (loses rfl rfl trivial)

end Telling.Io.Request

namespace Telling.Http

open Lib Msg

universe u

def Prep.Refuses : Prep → Prop
  | .accepted _ => False
  | .declined | .thrown => True

namespace HttpClient

variable {client next : HttpClient} {index : Nat}

structure Spares (client after : HttpClient) : Prop where
  kept : after.pool.Kept
  active : after.active = client.active
  queries : ∀ index ∈ client.active, after.actions index = client.actions index ∧
    after.serving index = client.serving index
  log : after.log = client.log

def LosesNone (client : HttpClient) : Label → Prop
  | .request prep => prep.Refuses → client.Spares (client.request prep)
  | .complete _ _ => True

def Label.Returns : Label → Prop
  | .request prep => prep ≠ .thrown
  | .complete _ _ => True

/-- The invariant: no action is lost. -/
structure Held (client : HttpClient) : Prop where
  pooled : client.Pooled
  sound : client.pool.Sound []

theorem held_initial : initial.Held := ⟨pooled_initial, Pool.sound_empty⟩

theorem Held.request {prep : Prep} (held : client.Held) (returns : prep ≠ .thrown) :
    (client.request prep).Held := by
  refine ⟨held.pooled.request prep, ?_⟩
  cases prep with
  | thrown => exact absurd rfl returns
  | declined => exact (sound_reserve held.sound).giveBack
  | accepted req => exact (sound_reserve held.sound).launch

theorem Held.complete (held : client.Held) {completion : Completion}
    (active : index ∈ client.active) : (client.complete index completion).Held :=
  ⟨held.pooled.complete active, sound_complete held.sound active⟩

theorem Held.step {label : Label} (held : client.Held) (returns : label.Returns)
    (stepped : client.step label = some next) : next.Held := by
  cases label with
  | request prep =>
      obtain rfl := Option.some.inj stepped
      exact held.request returns
  | complete index completion =>
      obtain ⟨active, rfl⟩ := step_complete stepped
      exact held.complete active

theorem Held.losesNone_iff (held : client.Held) (label : Label) :
    client.LosesNone label ↔ label.Returns := by
  cases label with
  | complete index completion => exact Iff.rfl
  | request prep =>
      have reserved := held.pooled.reserve
      cases prep with
      | accepted req => simp [LosesNone, Label.Returns, Prep.Refuses]
      | declined =>
          refine iff_of_true (fun _ => ?_) (by simp [Label.Returns])
          exact ⟨(held.request (by simp)).sound.kept, reserved.active,
            fun index member => ⟨reserved.actions index member,
              congrFun reserved.serving index⟩, reserved.log⟩
      | thrown =>
          refine iff_of_false (fun loses => ?_) fun returns => returns rfl
          exact (sound_reserve held.sound).not_kept (loses trivial).kept

end HttpClient

/-! ## Runs of the two communicators -/

/-- In every run of `Request` and in every run of `HttpClient`, whatever requests are
accepted, declined or refused with an exception and however operations complete: each
refused request leaves every action in `active` or `idle`, and `active` and the queries
in flight as they were, exactly when no `async_prep` of the run throws. -/
theorem refusals_lose_no_action_iff (Message : Type u) :
    (∀ (labels : List (Io.Request.Label Message)) (final : Io.Request Message),
      run Io.Request.step Io.Request.initial labels = some final →
      (Meets Io.Request.step Io.Request.LosesNone Io.Request.initial labels ↔
        Meets Io.Request.step (fun _ label => label.Returns) Io.Request.initial
          labels)) ∧
    ∀ (labels : List HttpClient.Label) (final : HttpClient),
      run HttpClient.step HttpClient.initial labels = some final →
      (Meets HttpClient.step HttpClient.LosesNone HttpClient.initial labels ↔
        Meets HttpClient.step (fun _ label => label.Returns) HttpClient.initial
          labels) := by
  constructor
  · intro labels final reached
    exact meets_iff_meets Io.Request.Held (fun _ label _ held _ => held.losesNone_iff label)
      (fun _ _ _ held returns stepped => held.step returns stepped)
      Io.Request.held_initial reached
  · intro labels final reached
    exact meets_iff_meets HttpClient.Held (fun _ label _ held _ => held.losesNone_iff label)
      (fun _ _ _ held returns stepped => held.step returns stepped)
      HttpClient.held_initial reached

/-- A request is accepted and the next one declined. -/
theorem refusals_lose_no_action_declined :
    Meets Io.Request.step Io.Request.LosesNone (Io.Request.initial : Io.Request Nat)
        [.request true true 7 (.accepted 5), .request true true 8 .declined] ∧
      Meets HttpClient.step HttpClient.LosesNone HttpClient.initial
        [.request (.accepted []), .request .declined] := by
  constructor
  · refine ((refusals_lose_no_action_iff Nat).1 _ _ rfl).mpr ?_
    simp [Meets, Io.Request.Label.Returns]
  · refine ((refusals_lose_no_action_iff Nat).2 _ _ rfl).mpr ?_
    simp [Meets, HttpClient.Label.Returns]

/-- The containers of a client, with the number of actions that were allocated. -/
def contents (pool : Pool) : Nat × List Nat × List Nat :=
  (pool.allocated, pool.active, pool.idle)

/-- A request whose `async_prep` throws: the action that was allocated for it is in
neither container. -/
theorem thrown_refusal_loses_action :
    contents ((Io.Request.initial : Io.Request Nat).request true true 7 .thrown).2.toPool =
        (1, [], []) ∧
      ¬Io.Request.LosesNone (Io.Request.initial : Io.Request Nat)
        (.request true true 7 .thrown) ∧
      contents (HttpClient.initial.request .thrown).pool = (1, [], []) ∧
      ¬HttpClient.initial.LosesNone (.request .thrown) := by
  refine ⟨rfl, fun loses => ?_, rfl, fun loses => ?_⟩
  · have kept := (loses rfl rfl trivial).kept 0 (by decide)
    exact absurd kept (by decide)
  · have kept := (loses trivial).kept 0 (by decide)
    exact absurd kept (by decide)

end Telling.Http
