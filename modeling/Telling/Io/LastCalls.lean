import Telling.Io.Teardown

/-!
# The last calls of a Request communicator

What the handler hears of its queries from the moment `Request::~Request` begins.
-/

namespace Telling.Io

open Lib

universe u

namespace Request.Action

variable {Message : Type u} {action : Action Message} {completion : Completion Message}

theorem InStep.single {trace : List (Event Message)} (inStep : action.InStep trace)
    (flying : action.inFlight ≠ []) : action.inFlight.tail = [] ∧ action.running = [] := by
  cases inStep with
  | sending | receiving => exact ⟨rfl, rfl⟩
  | sent | sendFailed | received | recvFailed => exact absurd rfl flying

theorem InStep.running_of_sent {trace : List (Event Message)}
    (inStep : action.InStep trace) (sent : ⟨false, false⟩ ∈ action.running) :
    action.running = [⟨false, false⟩] := by
  cases inStep with
  | sent => rfl
  | sending | sendFailed | receiving | received | recvFailed => simp at sent

theorem react_canceled (live : completion.live) (result : completion.result = .canceled) :
    action.react completion = ([.error .canceled], ⟨true, true⟩) := by
  simp [react, live, result]

end Request.Action

namespace Teardown

variable {Message : Type u} {teardown next midway final : Teardown Message}

/-- `aio.cancel` comes too late for the query of this action: NNG has finished the
operation, or the callback is under way for a send that succeeded. -/
def Late (comm : Request Message) (landed : List Nat) (index : Nat) : Prop :=
  (comm.actions index).inFlight ≠ [] ∧ index ∈ landed ∨
    (comm.actions index).running = [⟨false, false⟩]

/-- An action and the calls for its query since the destructor began.  Unless it is late,
its operation is cancelled, and no other is started. -/
structure Unwinds (late canceled : Prop) (told : List (Request.Event Message))
    (action : Request.Action Message) (heard : List (Request.Event Message)) : Prop where
  flying : action.inFlight ≠ [] → canceled ∧ heard = told ∨ late
  sent : ⟨false, false⟩ ∈ action.running → late
  heard : heard = told ∨ heard = told ++ [.error .canceled] ∨ late ∧ told <+: heard

namespace Unwinds

variable {late canceled after : Prop} {action : Request.Action Message}
variable {told heard : List (Request.Event Message)}

theorem mono (unwinds : Unwinds late canceled told action heard)
    (kept : canceled → after) : Unwinds late after told action heard where
  flying := fun flying => (unwinds.flying flying).imp_left (And.imp_left kept)
  sent := unwinds.sent
  heard := unwinds.heard

theorem extends_told (unwinds : Unwinds late canceled told action heard) :
    told <+: heard := by
  rcases unwinds.heard with same | failed | ⟨-, extended⟩
  · exact same ▸ List.prefix_refl _
  · exact failed ▸ List.prefix_append _ _
  · exact extended

theorem complete {completion : Request.Completion Message}
    (unwinds : Unwinds late canceled told action heard)
    (inStep : action.InStep heard) (flying : action.inFlight ≠ [])
    (live : completion.live) (permitted : canceled → completion.result = .canceled) :
    Unwinds late after told (action.completed (action.react completion).2)
      (heard ++ (action.react completion).1) := by
  rcases unwinds.flying flying with ⟨hit, rfl⟩ | late
  · obtain ⟨empty, quiet⟩ := inStep.single flying
    rw [Request.Action.react_canceled live (permitted hit)]
    exact {
      flying := fun flying => absurd empty flying
      sent := by simp [Request.Action.completed, quiet]
      heard := .inr (.inl rfl) }
  · exact {
      flying := fun _ => .inr late
      sent := fun _ => late
      heard := .inr (.inr ⟨late,
        unwinds.extends_told.trans (List.prefix_append _ _)⟩) }

theorem commit {verdict : Request.Verdict} {rest : List Request.Verdict}
    (unwinds : Unwinds late canceled told action heard)
    (inStep : action.InStep heard) (runs : action.running = verdict :: rest) :
    Unwinds late canceled told (action.committed verdict) heard := by
  cases inStep with
  | sending | receiving => simp at runs
  | sent ctx =>
      obtain ⟨rfl, rfl⟩ := List.cons.inj runs
      have late := unwinds.sent (by simp)
      exact ⟨fun _ => .inr late, fun _ => late, unwinds.heard⟩
  | sendFailed | received | recvFailed =>
      obtain ⟨rfl, rfl⟩ := List.cons.inj runs
      exact ⟨by simp [Request.Action.committed], by simp [Request.Action.committed],
        unwinds.heard⟩

end Unwinds

/-- The state of a destructor that found the communicator as it was `midway`. -/
structure Since (midway : Request Message) (landed : List Nat)
    (teardown : Teardown Message) : Prop where
  begun : teardown.phase ≠ .alive
  coherent : teardown.comm.Coherent
  accepted : teardown.comm.accepted = midway.accepted
  serving : teardown.comm.serving = midway.serving
  active : ∀ index ∈ teardown.comm.active, index ∈ midway.active
  unwinds : ∀ index ∈ midway.active,
    Unwinds (Late midway landed index) (index ∈ teardown.canceled)
      (midway.events (midway.serving index)) (teardown.comm.actions index)
      (teardown.comm.events (midway.serving index))
  others : ∀ query ∉ midway.served, teardown.comm.events query = midway.events query

namespace Since

variable {midway : Request Message} {landed : List Nat} {index : Nat}

theorem inStep (since : teardown.Since midway landed)
    (active : index ∈ teardown.comm.active) :
    (teardown.comm.actions index).InStep
      (teardown.comm.events (midway.serving index)) :=
  since.serving ▸ since.coherent.tracks.busy index active

theorem complete {completion : Request.Completion Message}
    (since : teardown.Since midway landed)
    (sound : midway.toPool.Sound []) (flying : (teardown.comm.actions index).inFlight ≠ [])
    (live : completion.live)
    (permitted : index ∈ teardown.canceled → completion.result = .canceled) :
    Since midway landed { teardown with
      comm := teardown.comm.complete index completion
      canceled := teardown.canceled.filter (· ≠ index) } := by
  have active := since.coherent.active_of_flying flying
  have inStep := since.inStep active
  have events := Request.complete_events teardown.comm index completion
  rw [since.serving] at events
  refine ⟨since.begun, since.coherent.complete flying live, since.accepted, since.serving,
    since.active, ?_, ?_⟩
  · intro other member
    by_cases same : other = index
    · subst same
      dsimp only
      rw [events, if_pos rfl]
      simp only [Request.complete, Function.update_self]
      exact (since.unwinds other member).complete inStep flying live permitted
    · have apart : midway.serving index ≠ midway.serving other := fun equal =>
        same (sound.eq_of_serving_eq (since.active index active) member equal).symm
      dsimp only
      rw [events, if_neg apart, List.append_nil]
      simp only [Request.complete, Function.update_of_ne same]
      exact (since.unwinds other member).mono fun hit => by simp [hit, same]
  · intro query unserved
    have apart : midway.serving index ≠ query := by
      rintro rfl
      exact unserved (List.mem_map_of_mem (since.active index active))
    dsimp only
    rw [events, if_neg apart, List.append_nil]
    exact since.others query unserved

theorem commit {verdict : Request.Verdict} {rest : List Request.Verdict}
    (since : teardown.Since midway landed)
    (runs : (teardown.comm.actions index).running = verdict :: rest) :
    Since midway landed { teardown with comm := teardown.comm.commit index verdict } := by
  have active := since.coherent.active_of_running runs
  have inStep := since.inStep active
  obtain ⟨changed, log, pool⟩ := Request.commit_frame teardown.comm index verdict
  have events : (teardown.comm.commit index verdict).events = teardown.comm.events := by
    unfold Request.events
    rw [log]
  have places : (teardown.comm.commit index verdict).accepted = teardown.comm.accepted ∧
      (teardown.comm.commit index verdict).serving = teardown.comm.serving ∧
      ∀ other ∈ (teardown.comm.commit index verdict).active,
        other ∈ teardown.comm.active := by
    rw [pool]
    split
    · exact ⟨rfl, rfl, fun other member => List.mem_of_mem_erase member⟩
    · exact ⟨rfl, rfl, fun _ member => member⟩
  refine ⟨since.begun, since.coherent.commit runs, places.1.trans since.accepted,
    places.2.1.trans since.serving,
    fun other member => since.active other (places.2.2 other member), ?_, ?_⟩
  · intro other member
    dsimp only
    rw [events, changed]
    by_cases same : other = index
    · subst same
      rw [Function.update_self]
      exact (since.unwinds other member).commit inStep runs
    · rw [Function.update_of_ne same]
      exact since.unwinds other member
  · intro query unserved
    dsimp only
    rw [events]
    exact since.others query unserved

theorem step (since : teardown.Since midway landed) (sound : midway.toPool.Sound [])
    {label : Label Message} (regular : label.Respects Request.Label.Regular)
    (stepped : teardown.step label = some next) : next.Since midway landed := by
  have moved : ∀ phase freed, phase ≠ .alive →
      Since midway landed { teardown with phase := phase, freed := freed } := by
    intro phase freed begun
    exact ⟨begun, since.coherent, since.accepted, since.serving, since.active,
      since.unwinds, since.others⟩
  cases steps_of_step stepped with
  | @proceed label comm permitted advanced =>
      cases label with
      | request => exact absurd permitted since.begun
      | complete index completion =>
          obtain ⟨flying, rfl⟩ := Request.step_complete advanced
          exact since.complete sound flying regular permitted
      | commit index =>
          obtain ⟨verdict, rest, runs, rfl⟩ := Request.step_commit advanced
          exact since.commit runs
  | destroy alive => exact absurd alive since.begun
  | pick | wake | leave | free | finish => exact moved _ _ (by simp)

end Since

/-- What the destructor finds. -/
theorem since_destroy {landed : List Nat} (coherent : teardown.comm.Coherent)
    (stepped : teardown.step (.destroy landed) = some next) :
    next.Since teardown.comm landed := by
  cases steps_of_step stepped with
  | destroy alive =>
      refine ⟨by simp, coherent, rfl, rfl, fun _ => id, ?_, fun _ _ => rfl⟩
      intro index active
      refine ⟨fun flying => ?_, fun sent => .inr ?_, .inl rfl⟩
      · by_cases finished : index ∈ landed
        · exact .inr (.inl ⟨flying, finished⟩)
        · exact .inl ⟨by simpa [hit, active, finished] using flying, rfl⟩
      · exact (coherent.tracks.busy index active).running_of_sent sent

/-- If the handler lives and its `async_prep` returns, then when the destructor is done the
handler has heard of the end of every query that it accepted, once.  From the moment the
destructor begins it hears no more about a query than that it was cancelled; the exception
are queries whose operation NNG had finished before, with a callback that had not taken
the lock.  Such a query is answered or fails as if nothing had happened, and the destructor
waits for it: no other operation goes on without having been cancelled. -/
theorem destructor_ends_every_query (before after : List (Label Message))
    (landed : List Nat) (midway final : Teardown Message)
    (regular : ∀ label ∈ before ++ after, label.Respects Request.Label.Regular)
    (reached : run step initial before = some midway)
    (destroyed : run step midway (.destroy landed :: after) = some final) :
    final.comm.accepted = midway.comm.accepted ∧
      (∀ query < midway.comm.accepted,
        final.comm.events query = midway.comm.events query ∨
        final.comm.events query = midway.comm.events query ++ [.error .canceled] ∨
        ∃ index ∈ midway.comm.active, midway.comm.serving index = query ∧
          Late midway.comm landed index ∧
          midway.comm.events query <+: final.comm.events query) ∧
      (∀ index, (final.comm.actions index).inFlight ≠ [] →
        index ∈ final.canceled ∨ Late midway.comm landed index) ∧
      (final.comm.active = [] → ∀ query < midway.comm.accepted,
        Request.Lawful (final.comm.events query) ∧
          Request.ended (final.comm.events query)) := by
  obtain ⟨begun, stepped, rest⟩ := run_cons_eq_some.mp destroyed
  have alive : midway.phase = .alive := by
    cases steps_of_step stepped with
    | destroy alive => exact alive
  have coherent : midway.comm.Coherent := (untouched_of_run Request.coherent_initial
    (fun _ _ _ before regular stepped => before.step regular stepped)
    (fun label member => regular label (List.mem_append_left _ member)) reached alive).1
  have sound := coherent.tracks.sound
  have since : final.Since midway.comm landed := by
    have regularAfter : ∀ label ∈ after, label.Respects Request.Label.Regular :=
      fun label member => regular label (List.mem_append_right _ member)
    refine invariant_of_run (Since midway.comm landed) (since_destroy coherent stepped) ?_
      (meets_of_forall regularAfter) rest
    exact fun _ _ _ before => before.step sound
  refine ⟨since.accepted, ?_, ?_, ?_⟩
  · intro query accepted
    by_cases served : query ∈ midway.comm.served
    · obtain ⟨index, active, rfl⟩ := List.mem_map.mp served
      rcases (since.unwinds index active).heard with same | failed | ⟨late, extended⟩
      · exact .inl same
      · exact .inr (.inl failed)
      · exact .inr (.inr ⟨index, active, rfl, late, extended⟩)
    · exact .inl (since.others query served)
  · intro index flying
    have active := since.active index (since.coherent.active_of_flying flying)
    exact ((since.unwinds index active).flying flying).imp_left And.left
  · intro none query accepted
    apply since.coherent.tracks.done query (since.accepted ▸ accepted)
    simp [Pool.served, none]

theorem destructor_ends_every_query_lateResponses :
    (∀ label ∈ threeQueries ++ lateResponses, label.Respects Request.Label.Regular) ∧
      ∃ midway final, run step initial threeQueries = some midway ∧
        run step midway (.destroy [1] :: lateResponses) = some final ∧
        final.comm.events 1 = [.prep, .sent, .recv 81] ∧
        final.comm.events 2 = [.prep, .error .canceled] ∧
        ∀ query < 3, Request.Lawful (final.comm.events query) ∧
          Request.ended (final.comm.events query) := by
  have regular : ∀ label ∈ threeQueries ++ lateResponses,
      label.Respects Request.Label.Regular := by
    simp [threeQueries, lateResponses, Label.Respects, Request.Label.Regular]
  have runs : ((run step initial threeQueries).bind fun midway =>
      (run step midway (.destroy [1] :: lateResponses)).map fun final =>
        ((midway.comm.accepted, final.comm.active),
          (final.comm.events 1, final.comm.events 2))) =
        some ((3, []), ([.prep, .sent, .recv 81], [.prep, .error .canceled])) := by
    decide +kernel
  obtain ⟨midway, reached, rest⟩ := Option.bind_eq_some_iff.mp runs
  obtain ⟨final, destroyed, equal⟩ := Option.map_eq_some_iff.mp rest
  obtain ⟨⟨accepted, none⟩, late, failed⟩ : (_ ∧ _) ∧ _ ∧ _ := by simpa using equal
  have ends := (destructor_ends_every_query threeQueries lateResponses [1] midway final
    regular reached destroyed).2.2.2 none
  exact ⟨regular, midway, final, reached, destroyed, late, failed, accepted ▸ ends⟩

end Teardown

end Telling.Io
