import Telling.Server.Ownership

/-!
# Cleaning up after services

Two places undo a registration: the `catch` block of the management thread, when a
route could not be set up, and `pipeEvent`, when the pipe of a service is lost.  The
first undoes the insertion into the map only.  The second is defined only for a pipe
with a record, and who has one can be told from the requests and replies.
-/

namespace Telling.Server

open Lib Msg
open Io (QueryID)

namespace Services

/-! ## A failed dial -/

/-- A registration that failed has left nothing behind but the record of its own
pipe, which may be gone. -/
structure Restored (before after : Services) (pipeID : PipeID) : Prop where
  map : after.map = before.map
  connectors : after.connectors = before.connectors
  liveRoutes : after.liveRoutes = before.liveRoutes
  registrationMap : ∀ other, other ≠ pipeID →
    after.registrationMap other = before.registrationMap other

/-- The route that was constructed is not destroyed when a later step throws. -/
theorem liveRoutes_of_failed {services after : Services} {spec : NewRoute} {dial : Dial}
    (free : services.map spec.mapUri = none) (fails : dial ≠ .ok)
    (returned : services.openRoute spec dial = some after) :
    after.liveRoutes =
      if dial = .routeThrows then services.liveRoutes
      else services.newRoute spec :: services.liveRoutes := by
  cases openRoute_turned returned with
  | conflict route found => simp [free] at found
  | unconstructed => rfl
  | abandoned _ _ _ _ _ constructed =>
      rw [if_neg constructed]
      rfl
  | opened => exact absurd rfl fails

/-- The `catch` block restores the directory exactly when it was the construction of
the route that threw. -/
theorem failed_dial_restored_iff {services : Services} {spec : NewRoute} {dial : Dial}
    (free : services.map spec.mapUri = none) (fails : dial ≠ .ok) :
    (∃ after, services.openRoute spec dial = some after ∧
        Restored services after spec.pipeID) ↔
      dial = .routeThrows := by
  constructor
  · rintro ⟨after, returned, restored⟩
    by_contra later
    have same := restored.liveRoutes
    rw [liveRoutes_of_failed free fails returned, if_neg later] at same
    exact List.cons_ne_self _ _ same
  · rintro rfl
    refine ⟨services.dialFailed spec, by simp [openRoute, free], ?_⟩
    exact ⟨erase_of_none free, rfl, rfl, fun other different => erase_of_ne different⟩

/-- One service is enrolled, and another one waits for its enrollment. -/
def waiting : List Label :=
  [.receive 7 1 (enrollment "/a"), .drain fun _ => .ok, .receive 8 2 (enrollment "/b")]

/-- The second service is forgotten when its route cannot be constructed, and leaves a
route behind when the last of the dials throws. -/
theorem failed_construction_restored :
    ∃ services, run step (initial (ascii "s")) waiting = some services ∧
      (services.map (ascii "/a")).isSome ∧
      services.registrationMap 2 = some (ascii "/b") ∧
      (∃ after, services.openRoute ⟨8, 2, ascii "/b"⟩ .routeThrows = some after ∧
        Restored services after 2) ∧
      ¬∃ after, services.openRoute ⟨8, 2, ascii "/b"⟩ .pushThrows = some after ∧
        Restored services after 2 := by
  have summary : (run step (initial (ascii "s")) waiting).map (fun services =>
      ((services.map (ascii "/a")).isSome, services.registrationMap 2,
        services.map (ascii "/b"))) = some (true, some (ascii "/b"), none) := by
    decide +kernel
  obtain ⟨services, reached, equal⟩ := Option.map_eq_some_iff.mp summary
  simp only [Prod.mk.injEq] at equal
  obtain ⟨routed, recorded, free⟩ := equal
  refine ⟨services, reached, routed, recorded, ?_, ?_⟩
  · exact (@failed_dial_restored_iff services ⟨8, 2, ascii "/b"⟩ .routeThrows free
      (by decide)).mpr rfl
  · intro restored
    exact absurd ((@failed_dial_restored_iff services ⟨8, 2, ascii "/b"⟩ .pushThrows free
      (by decide)).mp restored) (by decide)

/-- The subscriber's connector and the route survive a failure of the request
socket. -/
theorem failed_request_dial_leaks :
    ∃ services, run step (initial (ascii "s")) [.receive 1 10 (enrollment "/a")] =
        some services ∧
      services.map (ascii "/a") = none ∧
      services.connectors (pubSubAddress (ascii "/a")) = none ∧
      services.liveRoutes = [] ∧
      ∃ after, services.openRoute ⟨1, 10, ascii "/a"⟩ .reqThrows = some after ∧
        after.connectors (pubSubAddress (ascii "/a")) = some () ∧
        after.liveRoutes = [⟨0, ascii "/a", 10⟩] := by
  have summary : (run step (initial (ascii "s")) [.receive 1 10 (enrollment "/a")]).map
      (fun services => ((services.map (ascii "/a"),
        services.connectors (pubSubAddress (ascii "/a")), services.liveRoutes),
        (services.openRoute ⟨1, 10, ascii "/a"⟩ .reqThrows).map fun after =>
          (after.connectors (pubSubAddress (ascii "/a")), after.liveRoutes))) =
      some ((none, none, []), some (some (), [⟨0, ascii "/a", 10⟩])) := by
    decide +kernel
  obtain ⟨services, reached, equal⟩ := Option.map_eq_some_iff.mp summary
  simp only [Prod.mk.injEq] at equal
  obtain ⟨⟨free, undialed, fresh⟩, turned⟩ := equal
  obtain ⟨after, returned, left⟩ := Option.map_eq_some_iff.mp turned
  simp only [Prod.mk.injEq] at left
  exact ⟨services, reached, free, undialed, fresh, after, returned, left.1, left.2⟩

/-! ## Losses of pipes -/

/-- What the loss of a pipe must do: every `erase` is at an entry, and a pipe without
a record changes neither the maps nor the queues. -/
def Handles (services : Services) : Label → Prop
  | .disconnect pipeID => ∃ after, services.pipeEvent pipeID = some after ∧
      (services.registrationMap pipeID = none →
        after.registrationMap = services.registrationMap ∧ after.map = services.map ∧
          after.routeOpen = services.routeOpen ∧ after.routeClose = services.routeClose)
  | _ => True

/-- The pipe that is lost has a record. -/
def HasRecord (services : Services) : Label → Prop
  | .disconnect pipeID => (services.registrationMap pipeID).isSome
  | _ => True

theorem handles_iff_hasRecord (services : Services) (label : Label) :
    services.Handles label ↔ services.HasRecord label := by
  cases label with
  | receive queryID pipeID msg => exact Iff.rfl
  | drain dials => exact Iff.rfl
  | disconnect pipeID =>
      simp only [Handles, HasRecord]
      cases recorded : services.registrationMap pipeID with
      | none => simp [pipeEvent_of_unrecorded recorded]
      | some path => simp [pipeEvent_of_recorded recorded]

/-! ## Who has a record -/

/-- The answer refuses a registration of the pipe after it was queued. -/
def Answer.refuses (pipeID : PipeID) : Answer → Bool
  | .refused _ _ _ => false
  | .settled spec status _ => decide (spec.pipeID = pipeID) && decide (status ≠ .ok)

/-- The directory with a record of the pipes in good standing, kept from what can be
observed: requests, replies and losses. -/
structure Watched where
  services : Services
  standing : PipeID → Bool

namespace Watched

def initial (addressInternal : Bytes) : Watched :=
  ⟨Services.initial addressInternal, fun _ => false⟩

/-- A pipe is in good standing from a well-formed registration request on, until a
registration of its is refused or it is lost. -/
def standingAfter (watched : Watched) (after : Services) : Label → PipeID → Bool
  | .receive _ pipeID msg =>
      match decodeRegistration msg with
      | .error _ => watched.standing
      | .ok _ => Function.update watched.standing pipeID true
  | .disconnect pipeID => Function.update watched.standing pipeID false
  | .drain _ => fun pipeID => watched.standing pipeID &&
      !(after.answers.drop watched.services.answers.length).any (Answer.refuses pipeID)

/-- The pipe that is lost is in good standing. -/
def InStanding (watched : Watched) : Label → Prop
  | .disconnect pipeID => watched.standing pipeID = true
  | _ => True

instance (watched : Watched) : (label : Label) → Decidable (watched.InStanding label)
  | .disconnect pipeID => inferInstanceAs (Decidable (watched.standing pipeID = true))
  | .receive _ _ _ | .drain _ => inferInstanceAs (Decidable True)

def step (watched : Watched) (label : Label) : Option Watched :=
  (watched.services.step label).map fun after =>
    ⟨after, watched.standingAfter after label⟩

end Watched

/-- Between two states of a pass: answers were added, and the pipes that were refused
have lost their records. -/
def KeepsRecords (before after : Services) : Prop :=
  ∃ extra, after.answers = before.answers ++ extra ∧
    ∀ pipeID, (after.registrationMap pipeID).isSome =
      ((before.registrationMap pipeID).isSome && !extra.any (Answer.refuses pipeID))

theorem KeepsRecords.turn {before current next : Services} {spec : NewRoute}
    {queue : List NewRoute} {dial : Dial} (keeps : before.KeepsRecords current)
    (returned : openRoute { current with routeOpen := queue } spec dial = some next) :
    before.KeepsRecords next := by
  obtain ⟨extra, answers, records⟩ := keeps
  cases (openRoute_opened returned).1 with
  | refused status body notOk _ registrationMap answered =>
      refine ⟨extra ++ [.settled spec status body], ?_, fun pipeID => ?_⟩
      · rw [answered, answers, List.append_assoc]
      · rw [registrationMap, List.any_append]
        by_cases own : pipeID = spec.pipeID
        · simp [own, Answer.refuses, notOk]
        · simp [erase_of_ne own, records, Answer.refuses, Ne.symm own]
  | opened route _ _ _ _ registrationMap answered =>
      refine ⟨extra ++ [.settled spec .ok
        (spec.mapUri ++ ascii "\nEnrolled with this URI.")], ?_, fun pipeID => ?_⟩
      · rw [answered, answers, List.append_assoc]
      · rw [registrationMap, List.any_append]
        simp [records, Answer.refuses]

/-- A pass of the management thread forgets the pipes whose registrations it
refuses. -/
theorem manage_records {services after : Services} {dials : Nat → Dial}
    (passed : services.manage dials = some after) (pipeID : PipeID) :
    (after.registrationMap pipeID).isSome =
      ((services.registrationMap pipeID).isSome &&
        !(after.answers.drop services.answers.length).any (Answer.refuses pipeID)) := by
  have same := closeRoutes_same services
  have start : services.KeepsRecords services.closeRoutes :=
    ⟨[], by simp [same.answers], by simp [same.registrationMap]⟩
  obtain ⟨⟨extra, answers, records⟩, _⟩ := manage_induction services.KeepsRecords
    (fun _ _ _ _ _ _ keeps returned => keeps.turn returned) start passed
  rw [records, answers, List.drop_left]

/-- The pipes in good standing are those with a record. -/
theorem Watched.standing_step {watched next : Watched} {label : Label}
    (exact : ∀ pipeID,
      watched.standing pipeID = (watched.services.registrationMap pipeID).isSome)
    (stepped : watched.step label = some next) :
    ∀ pipeID, next.standing pipeID = (next.services.registrationMap pipeID).isSome := by
  obtain ⟨after, services, rfl⟩ := Option.map_eq_some_iff.mp stepped
  intro other
  cases label with
  | receive queryID pipeID msg =>
      obtain rfl := Option.some.inj services
      simp only [standingAfter, asyncRecv]
      cases decodeRegistration msg with
      | error refusal => exact exact other
      | ok uri =>
          by_cases own : other = pipeID
          · simp [own, register, isSome_emplace]
          · simp [own, register, exact]
  | disconnect pipeID =>
      rw [standingAfter, (pipeEvent_lost (step_disconnect services).2).registrationMap]
      by_cases own : other = pipeID
      · simp [own]
      · simp [own, exact]
  | drain dials =>
      simp only [standingAfter, manage_records services, exact]

/-- Along every sequence of steps, the losses of pipes are all handled exactly when each
pipe is in good standing when it is lost. -/
theorem disconnects_handled_iff (addressInternal : Bytes) (labels : List Label) :
    Meets Watched.step (fun watched => watched.services.Handles)
        (.initial addressInternal) labels ↔
      Meets Watched.step Watched.InStanding (.initial addressInternal) labels := by
  refine meets_congr (fun watched => ∀ pipeID,
    watched.standing pipeID = (watched.services.registrationMap pipeID).isSome)
    ?_ ?_ (fun pipeID => rfl)
  · intro watched label exact
    rw [handles_iff_hasRecord]
    cases label with
    | receive queryID pipeID msg => exact Iff.rfl
    | drain dials => exact Iff.rfl
    | disconnect pipeID => simp [HasRecord, Watched.InStanding, exact]
  · exact fun watched label next exact _ stepped => Watched.standing_step exact stepped

/-- A service that was enrolled is lost. -/
theorem disconnects_handled_enrolled :
    (run Watched.step (.initial []) [.receive 7 1 requestA, .drain fun _ => .ok,
        .disconnect 1]).isSome ∧
      Meets Watched.step (fun watched => watched.services.Handles) (.initial [])
        [.receive 7 1 requestA, .drain fun _ => .ok, .disconnect 1] :=
  ⟨by decide +kernel, (disconnects_handled_iff [] _).mpr (by decide +kernel)⟩

/-- A service whose registration was refused is lost, or one that never made any. -/
theorem loss_without_record_undefined :
    (run step (initial []) [.receive 7 1 requestA, .drain fun _ => .ok,
      .receive 8 2 requestA, .drain fun _ => .ok]).map (fun services =>
        (services.disconnected, (services.pipeEvent 1).isSome,
          (services.pipeEvent 2).isSome, (services.pipeEvent 3).isSome)) =
      some ([], true, false, false) := by
  decide +kernel

end Services

end Telling.Server
