import Telling.Http.Client
import Telling.Lib.Pool

/-!
# The pool of actions

Every action is active, idle, or was lost by a request that threw; active actions
serve different queries, and idle ones hold no connection and no message.  This
holds in every run, whatever the results of the operations are and whether or not
the handler is alive.
-/

namespace Telling.Http

open Lib Msg

namespace Action

variable {action : Action} {completion : Completion}

/-- Nothing is left of the last query that the handler or the peer could still
use. -/
structure Clean (action : Action) : Prop where
  state : action.state = .idle
  conn : action.conn = none
  res : action.res = none

theorem clean_cleaned (action : Action) : action.cleaned.Clean := ⟨rfl, rfl, rfl⟩

/-- The first part of the callback changes no state. -/
theorem react_state (action : Action) (completion : Completion) :
    (action.react completion).action.state = action.state := by
  cases live : completion.live with
  | false => rw [react_of_dead live]
  | true =>
      by_cases fails : action.Fails completion
      · rw [react_of_fails live fails]
        rfl
      by_cases success : completion.result = .success
      · cases state : action.state with
        | connect => rw [react_connect live success state]; exact state
        | send => rw [react_send live success state]; exact state
        | recv =>
            rw [react_recv live success state, ← state]
            exact (received_shape action completion.data).2.1
        | idle => rw [react_idle live success state]; exact state
      · rw [react_of_closed live success fails]

/-- A callback either cleans its action for the pool or leaves it busy. -/
theorem callback_outcome (busy : action.state ≠ .idle) :
    (action.callback completion).1.Clean ∨
      (action.callback completion).1.state ≠ .idle := by
  by_cases ends : (action.react completion).disconnect ∨
      (action.react completion).action.resCompletion.complete
  · rw [callback_ends rfl ends]
    exact .inl (clean_cleaned _)
  · rw [not_or, Bool.not_eq_true, Bool.not_eq_true] at ends
    rw [callback_continues rfl ends.1 ends.2]
    refine .inr (advance_shape ends.1 ?_).1
    rw [react_state]
    exact busy

end Action

namespace HttpClient

/-- The invariant of the pool. -/
structure Pooled (client : HttpClient) : Prop where
  nodup : (client.active ++ client.idle).Nodup
  bounded : ∀ index ∈ client.active ++ client.idle, index < client.allocated
  busy : ∀ index ∈ client.active, (client.actions index).state ≠ .idle
  clean : ∀ index ∈ client.idle, (client.actions index).Clean
  served : ∀ index ∈ client.active, client.serving index < client.accepted
  injective : ∀ left ∈ client.active, ∀ right ∈ client.active,
    client.serving left = client.serving right → left = right
  logged : ∀ entry ∈ client.log, entry.1 < client.accepted

/-- No active action serves the query any more. -/
def Returned (client : HttpClient) (query : Nat) : Prop :=
  ∀ index ∈ client.active, client.serving index ≠ query

theorem pooled_initial : initial.Pooled := by
  constructor <;> simp [initial]

variable {client : HttpClient}

/-! ## Requests -/

/-- What taking an action for a request does: it is outside both containers, and
only the pool has changed. -/
structure Reserved (client : HttpClient) (index : Nat) (after : HttpClient) :
    Prop where
  pooled : after.Pooled
  outside : index ∉ after.active ++ after.idle
  allocated : index < after.allocated
  clean : (after.actions index).Clean
  active : after.active = client.active
  accepted : after.accepted = client.accepted
  serving : after.serving = client.serving
  log : after.log = client.log
  actions : ∀ other ∈ client.active, after.actions other = client.actions other

/-- The containers of a client as a pool. -/
def pool (client : HttpClient) : Pool :=
  ⟨client.allocated, client.active, client.idle, client.accepted, client.serving⟩

/-- The containers are sound, if those actions count as taken that requests have lost. -/
theorem Pooled.sound (pooled : client.Pooled) : ∃ out, client.pool.Sound out := by
  refine Pool.Sound.of_places pooled.nodup pooled.bounded ?_ ?_
  · intro job member
    obtain ⟨index, active, rfl⟩ := List.mem_map.mp member
    exact pooled.served index active
  · exact (List.nodup_append.mp pooled.nodup).1.map_on pooled.injective

theorem pooled_of_sound {out : List Nat} (sound : client.pool.Sound out)
    (busy : ∀ index ∈ client.active, (client.actions index).state ≠ .idle)
    (clean : ∀ index ∈ client.idle, (client.actions index).Clean)
    (logged : ∀ entry ∈ client.log, entry.1 < client.accepted) : client.Pooled where
  nodup := (List.nodup_append.mp sound.nodup).2.1
  bounded _ member := sound.lt_allocated (List.mem_append_right _ member)
  busy := busy
  clean := clean
  served _ active := sound.accepted _ (List.mem_map_of_mem active)
  injective _ left _ right same := sound.eq_of_serving_eq left right same
  logged := logged

theorem pool_reserve (client : HttpClient) :
    client.reserve.1 = client.pool.take.1 ∧
      client.reserve.2.pool = client.pool.take.2 := by
  unfold reserve allocate Pool.take
  simp only [pool]
  cases client.idle <;> exact ⟨rfl, rfl⟩

theorem sound_reserve {out : List Nat} (sound : client.pool.Sound out) :
    client.reserve.2.pool.Sound (client.reserve.1 :: out) := by
  rw [(pool_reserve client).1, (pool_reserve client).2]
  exact sound.take

/-- What taking an action leaves alone. -/
theorem reserve_frame (client : HttpClient) :
    client.reserve.2.active = client.active ∧
      client.reserve.2.accepted = client.accepted ∧
      client.reserve.2.serving = client.serving ∧
      client.reserve.2.log = client.log ∧
      (∀ index ∈ client.reserve.2.idle, index ∈ client.idle) ∧
      ∀ index ≠ client.reserve.1,
        client.reserve.2.actions index = client.actions index := by
  unfold reserve allocate
  cases client.idle with
  | nil =>
      refine ⟨rfl, rfl, rfl, rfl, fun _ member => member, fun index different => ?_⟩
      simp [Function.update_of_ne different]
  | cons first idle =>
      refine ⟨rfl, rfl, rfl, rfl, fun _ member => List.mem_cons_of_mem _ member,
        fun index different => ?_⟩
      simp [Function.update_of_ne different]

/-- The action that is taken comes from the idle ones or is new. -/
theorem Pooled.clean_reserve (pooled : client.Pooled) :
    (client.reserve.2.actions client.reserve.1).Clean := by
  have clean := pooled.clean
  unfold HttpClient.reserve allocate
  cases pool : client.idle with
  | nil =>
      simp only [Function.update_self]
      exact ⟨rfl, rfl, rfl⟩
  | cons index idle =>
      obtain ⟨state, conn, res⟩ := clean index (by simp [pool])
      simp only [Function.update_self]
      exact ⟨state, conn, res⟩

theorem Pooled.reserve (pooled : client.Pooled) :
    Reserved client client.reserve.1 client.reserve.2 := by
  obtain ⟨out, sound⟩ := pooled.sound
  have taken := sound_reserve sound
  obtain ⟨inactive, notIdle⟩ := taken.not_mem_of_taken
  obtain ⟨active, accepted, serving, log, idle, others⟩ := reserve_frame client
  have actions : ∀ index ∈ client.active,
      client.reserve.2.actions index = client.actions index := by
    intro index member
    rw [← active] at member
    exact others index fun equal => inactive (equal ▸ member)
  refine ⟨pooled_of_sound taken ?_ ?_ ?_, ?_, taken.lt_allocated List.mem_cons_self,
    pooled.clean_reserve, active, accepted, serving, log, actions⟩
  · rw [active]
    intro index member
    rw [actions index member]
    exact pooled.busy index member
  · intro index member
    rw [others index fun equal => notIdle (equal ▸ member)]
    exact pooled.clean index (idle index member)
  · rw [log, accepted]
    exact pooled.logged
  · exact fun member => (List.mem_append.mp member).elim inactive notIdle

theorem Pooled.launch {index : Nat} {req : Bytes} (pooled : client.Pooled)
    (outside : index ∉ client.active ++ client.idle)
    (allocated : index < client.allocated) :
    (client.launch index req).Pooled := by
  obtain ⟨out, sound⟩ := pooled.sound
  have others : ∀ other ∈ client.active ++ client.idle,
      (client.launch index req).actions other = client.actions other := by
    intro other member
    refine Function.update_of_ne ?_ _ _
    rintro rfl
    exact outside member
  refine pooled_of_sound (sound.taken allocated outside).launch ?_ ?_ ?_
  · intro other member
    rcases List.mem_cons.mp member with rfl | earlier
    · simp [HttpClient.launch, Action.start]
    · rw [others other (List.mem_append_left _ earlier)]
      exact pooled.busy other earlier
  · intro other member
    rw [others other (List.mem_append_right _ member)]
    exact pooled.clean other member
  · intro entry member
    rcases List.mem_append.mp member with earlier | new
    · exact Nat.lt_succ_of_lt (pooled.logged entry earlier)
    · rw [List.mem_singleton.mp new]
      exact Nat.lt_succ_self _

theorem Pooled.decline {index : Nat} (pooled : client.Pooled)
    (outside : index ∉ client.active ++ client.idle)
    (allocated : index < client.allocated)
    (clean : (client.actions index).Clean) :
    HttpClient.Pooled { client with idle := index :: client.idle } := by
  obtain ⟨out, sound⟩ := pooled.sound
  refine pooled_of_sound (sound.taken allocated outside).giveBack pooled.busy ?_
    pooled.logged
  intro other member
  rcases List.mem_cons.mp member with rfl | earlier
  · exact clean
  · exact pooled.clean other earlier

theorem Pooled.request (pooled : client.Pooled) (prep : Prep) :
    (client.request prep).Pooled := by
  have reserved := pooled.reserve
  cases prep with
  | thrown => exact reserved.pooled
  | declined =>
      exact reserved.pooled.decline reserved.outside reserved.allocated
        reserved.clean
  | accepted req =>
      exact reserved.pooled.launch reserved.outside reserved.allocated

/-! ## Completions -/

/-- The client after a callback that leaves its action active. -/
theorem complete_of_busy {index : Nat} {completion : Completion}
    (busy : ((client.actions index).callback completion).1.state ≠ .idle) :
    (client.complete index completion).active = client.active ∧
      (client.complete index completion).idle = client.idle := by
  simp [HttpClient.complete, busy]

/-- The client after a callback that returns its action to the pool. -/
theorem complete_of_idle {index : Nat} {completion : Completion}
    (idle : ((client.actions index).callback completion).1.state = .idle) :
    (client.complete index completion).active = client.active.erase index ∧
      (client.complete index completion).idle = client.idle ++ [index] := by
  simp [HttpClient.complete, idle]

/-- Completions make no action active. -/
theorem mem_active_of_complete {index other : Nat} {completion : Completion}
    (member : other ∈ (client.complete index completion).active) :
    other ∈ client.active := by
  by_cases idle : ((client.actions index).callback completion).1.state = .idle
  · rw [(complete_of_idle idle).1] at member
    exact List.mem_of_mem_erase member
  · rwa [(complete_of_busy idle).1] at member

/-- Only the completed action can leave the active ones. -/
theorem active_of_complete_ne {index other : Nat} {completion : Completion}
    (active : other ∈ client.active) (different : other ≠ index) :
    other ∈ (client.complete index completion).active := by
  by_cases idle : ((client.actions index).callback completion).1.state = .idle
  · rw [(complete_of_idle idle).1]
    exact (List.mem_erase_of_ne different).mpr active
  · rwa [(complete_of_busy idle).1]

/-- What every callback leaves alone, and what it adds to the log. -/
theorem complete_frame (client : HttpClient) (index : Nat)
    (completion : Completion) :
    (client.complete index completion).allocated = client.allocated ∧
      (client.complete index completion).accepted = client.accepted ∧
      (client.complete index completion).serving = client.serving ∧
      (client.complete index completion).actions = Function.update client.actions
        index ((client.actions index).callback completion).1 ∧
      (client.complete index completion).log = client.log ++
        ((client.actions index).callback completion).2.map
          fun output => (client.serving index, output) := by
  unfold HttpClient.complete
  simp only
  split <;> exact ⟨rfl, rfl, rfl, rfl, rfl⟩

/-- Different active actions serve different queries. -/
theorem Pooled.serving_ne {left right : Nat} (pooled : client.Pooled)
    (leftIn : left ∈ client.active) (rightIn : right ∈ client.active)
    (different : left ≠ right) : client.serving left ≠ client.serving right :=
  fun same => different (pooled.injective left leftIn right rightIn same)

/-- The actions that stay active when one of them returns to the pool. -/
theorem Pooled.mem_erase (pooled : client.Pooled) (index other : Nat) :
    other ∈ client.active.erase index ↔ other ≠ index ∧ other ∈ client.active :=
  (List.nodup_append.mp pooled.nodup).1.mem_erase_iff

/-- A query whose action returns to the pool is served by no other action. -/
theorem Pooled.returned_of_idle {index : Nat} {completion : Completion}
    (pooled : client.Pooled) (active : index ∈ client.active)
    (idle : ((client.actions index).callback completion).1.state = .idle) :
    (client.complete index completion).Returned (client.serving index) := by
  intro other member
  rw [(complete_of_idle idle).1, pooled.mem_erase] at member
  rw [(complete_frame client index completion).2.2.1]
  exact pooled.serving_ne member.2 active member.1

theorem Pooled.ne_of_idle {index other : Nat} (pooled : client.Pooled)
    (active : index ∈ client.active) (member : other ∈ client.idle) :
    other ≠ index := by
  rintro rfl
  exact (List.nodup_append.mp pooled.nodup).2.2 other active other member rfl

theorem Pooled.logged_complete {index : Nat} (completion : Completion)
    (pooled : client.Pooled) (active : index ∈ client.active) :
    ∀ entry ∈ (client.complete index completion).log,
      entry.1 < (client.complete index completion).accepted := by
  obtain ⟨_, accepted, _, _, log⟩ := complete_frame client index completion
  rw [log, accepted]
  intro entry member
  rcases List.mem_append.mp member with earlier | new
  · exact pooled.logged entry earlier
  · obtain ⟨output, _, rfl⟩ := List.mem_map.mp new
    exact pooled.served index active

/-- A callback takes no action from the pool. -/
theorem sound_complete {out : List Nat} {index : Nat} {completion : Completion}
    (sound : client.pool.Sound out) (active : index ∈ client.active) :
    (client.complete index completion).pool.Sound out := by
  obtain ⟨allocated, accepted, serving, -, -⟩ := complete_frame client index completion
  by_cases idle : ((client.actions index).callback completion).1.state = .idle
  · obtain ⟨activeEq, idleEq⟩ := complete_of_idle idle
    rw [pool, allocated, activeEq, idleEq, accepted, serving]
    exact sound.retire active
  · obtain ⟨activeEq, idleEq⟩ := complete_of_busy idle
    rw [pool, allocated, activeEq, idleEq, accepted, serving]
    exact sound

/-- The callback ends its query and the action goes back to the pool. -/
theorem Pooled.complete_ends {index : Nat} {completion : Completion}
    (pooled : client.Pooled) (active : index ∈ client.active)
    (cleaned : ((client.actions index).callback completion).1.Clean) :
    (client.complete index completion).Pooled := by
  obtain ⟨out, sound⟩ := pooled.sound
  obtain ⟨_, _, _, actions, _⟩ := complete_frame client index completion
  obtain ⟨activeEq, idleEq⟩ := complete_of_idle cleaned.state
  refine pooled_of_sound (sound_complete sound active) ?_ ?_
    (pooled.logged_complete completion active)
  · intro other member
    rw [activeEq, pooled.mem_erase] at member
    rw [actions, Function.update_of_ne member.1]
    exact pooled.busy other member.2
  · intro other member
    rw [idleEq] at member
    rw [actions]
    rcases List.mem_append.mp member with earlier | new
    · rw [Function.update_of_ne (pooled.ne_of_idle active earlier)]
      exact pooled.clean other earlier
    · rw [List.mem_singleton.mp new, Function.update_self]
      exact cleaned

/-- The callback starts the next operation of its query. -/
theorem Pooled.complete_continues {index : Nat} {completion : Completion}
    (pooled : client.Pooled) (active : index ∈ client.active)
    (busy : ((client.actions index).callback completion).1.state ≠ .idle) :
    (client.complete index completion).Pooled := by
  obtain ⟨out, sound⟩ := pooled.sound
  obtain ⟨_, _, _, actions, _⟩ := complete_frame client index completion
  obtain ⟨activeEq, idleEq⟩ := complete_of_busy busy
  refine pooled_of_sound (sound_complete sound active) ?_ ?_
    (pooled.logged_complete completion active)
  · intro other member
    rw [activeEq] at member
    rw [actions]
    by_cases same : other = index
    · rw [same, Function.update_self]
      exact busy
    · rw [Function.update_of_ne same]
      exact pooled.busy other member
  · intro other member
    rw [idleEq] at member
    rw [actions, Function.update_of_ne (pooled.ne_of_idle active member)]
    exact pooled.clean other member

theorem Pooled.complete {index : Nat} {completion : Completion}
    (pooled : client.Pooled) (active : index ∈ client.active) :
    (client.complete index completion).Pooled := by
  rcases Action.callback_outcome (pooled.busy index active) with cleaned | busy
  · exact pooled.complete_ends active cleaned
  · exact pooled.complete_continues active busy

theorem step_complete {next : HttpClient} {index : Nat} {completion : Completion}
    (stepped : client.step (.complete index completion) = some next) :
    index ∈ client.active ∧ client.complete index completion = next := by
  simp only [step] at stepped
  split at stepped
  · next active => exact ⟨active, Option.some.inj stepped⟩
  · simp at stepped

/-- Every step keeps the invariant of the pool. -/
theorem Pooled.step {next : HttpClient} {label : Label} (pooled : client.Pooled)
    (stepped : client.step label = some next) : next.Pooled := by
  cases label with
  | request prep =>
      obtain rfl := Option.some.inj stepped
      exact pooled.request prep
  | complete index completion =>
      obtain ⟨active, rfl⟩ := step_complete stepped
      exact pooled.complete active

end HttpClient

end Telling.Http
