import Telling.Server.Disconnect

/-!
# What disorder leads to

The condition on orderly runs cannot be weakened.  A step outside it that the process
survives has, after an orderly run and with names that fit into the map, a continuation
that leaves an orphan route.  The continuations lose at most one more pipe and make one
pass of the management thread, in which all dials but one fail.
-/

namespace Telling.Server

open Lib Msg
open Io (QueryID)

namespace Services

variable {services next : Services}

/-- Some continuation leaves an orphan route. -/
def CanOrphan (services : Services) : Prop :=
  ∃ labels final, run step services labels = some final ∧ ¬final.NoOrphan

/-! ## Passes with chosen dials -/

theorem manage_disconnected {dials : Nat → Dial}
    (passed : services.manage dials = some next) :
    next.disconnected = services.disconnected := by
  refine (manage_induction
    (fun current => current.disconnected = services.disconnected) ?_
    (closeRoutes_same services).disconnected passed).1
  intro current spec queue dial after _ before returned
  exact (openRoute_opened returned).2.2.trans before

/-- The dials of one turn succeed, and in the others no route is constructed. -/
def onlyAt (chosen : Nat) : Nat → Dial :=
  fun turn => if turn = chosen then .ok else .routeThrows

/-- A route that cannot be constructed leaves the others as they are and its pipe
forgotten. -/
theorem openRoute_throws (services : Services) (spec : NewRoute) :
    ∃ after, services.openRoute spec .routeThrows = some after ∧
      after.map = services.map ∧
      after.registrationMap = erase services.registrationMap spec.pipeID := by
  have returns : (services.openRoute spec .routeThrows).isSome :=
    openRoute_isSome (.inr rfl)
  obtain ⟨after, returned⟩ := Option.isSome_iff_exists.mp returns
  refine ⟨after, returned, ?_⟩
  cases openRoute_turned returned with
  | conflict route found => exact ⟨rfl, rfl⟩
  | unconstructed absent => exact ⟨erase_of_none absent, rfl⟩
  | abandoned _ _ _ _ _ constructed => exact absurd rfl constructed

/-- If the URI of a queued registration is free and fits, and no route is constructed in
the other turns, its route is opened. -/
theorem openRoutes_opens {spec : NewRoute} {later : List NewRoute}
    (fits : spec.mapUri.length ≤ maxKeySize) :
    (before : List NewRoute) → (services : Services) →
      services.routeOpen = before ++ spec :: later →
      services.map spec.mapUri = none →
      ∃ final route,
        openRoutes services.routeOpen (onlyAt before.length) services = some final ∧
        route.opener = spec.pipeID ∧ final.map spec.mapUri = some route := by
  intro before
  induction before with
  | nil =>
      intro services queued free
      obtain ⟨middle, turned, entered, _⟩ :=
        @openRoute_enters { services with routeOpen := later } spec free fits
      have left : middle.routeOpen = later := (openRoute_opened turned).2.1
      have rest : (openRoutes middle.routeOpen (fun _ => .routeThrows) middle).isSome :=
        openRoutes_isSome _ _ _ fun _ _ _ _ => .inr rfl
      obtain ⟨final, returned⟩ := Option.isSome_iff_exists.mp rest
      refine ⟨final, _, ?_, rfl, openRoutes_keeps entered returned⟩
      rw [left] at returned
      rw [queued]
      simp only [List.nil_append, openRoutes, onlyAt, List.length_nil, if_true, turned]
      exact returned
  | cons first before ih =>
      intro services queued free
      obtain ⟨middle, turned, map, _⟩ := openRoute_throws
        { services with routeOpen := before ++ spec :: later } first
      have left : middle.routeOpen = before ++ spec :: later :=
        (openRoute_opened turned).2.1
      obtain ⟨final, route, returned, opener, found⟩ :=
        ih middle left (by rw [map]; exact free)
      have shifted : (fun turn => onlyAt (first :: before).length (turn + 1)) =
          onlyAt before.length := by
        funext turn
        simp [onlyAt]
      refine ⟨final, route, ?_, opener, found⟩
      rw [left] at returned
      rw [queued, List.cons_append, openRoutes, shifted]
      simp only [onlyAt, List.length_cons, Nat.zero_ne_add_one, if_false, turned]
      exact returned

/-- In a pass in which no route is constructed, the routes stay and the pipes of all
queued registrations are forgotten. -/
theorem openRoutes_throws {pipeID : PipeID} :
    (queue : List NewRoute) → (services : Services) →
      (∃ spec ∈ queue, spec.pipeID = pipeID) ∨
        services.registrationMap pipeID = none →
      ∃ final, openRoutes queue (fun _ => .routeThrows) services = some final ∧
        final.map = services.map ∧ final.registrationMap pipeID = none := by
  intro queue
  induction queue with
  | nil =>
      rintro services (⟨spec, member, _⟩ | unrecorded)
      · exact absurd member (by simp)
      · exact ⟨services, rfl, rfl, unrecorded⟩
  | cons first queue ih =>
      intro services forgotten
      obtain ⟨middle, turned, map, registrationMap⟩ :=
        openRoute_throws { services with routeOpen := queue } first
      have remaining : (∃ spec ∈ queue, spec.pipeID = pipeID) ∨
          middle.registrationMap pipeID = none := by
        rw [registrationMap]
        by_cases own : pipeID = first.pipeID
        · exact .inr (own ▸ erase_self)
        · rw [erase_of_ne own]
          refine forgotten.imp_left ?_
          rintro ⟨spec, member, rfl⟩
          rcases List.mem_cons.mp member with rfl | later
          · exact absurd rfl own
          · exact ⟨spec, later, rfl⟩
      obtain ⟨final, returned, sameMap, unrecorded⟩ := ih middle remaining
      refine ⟨final, ?_, sameMap.trans map, unrecorded⟩
      simp only [openRoutes, turned]
      exact returned

/-- A queued registration of a lost pipe whose URI is free can become an orphan. -/
theorem orphan_of_queued {spec : NewRoute} (queued : spec ∈ services.routeOpen)
    (fits : spec.mapUri.length ≤ maxKeySize) (lost : spec.pipeID ∈ services.disconnected)
    (free : services.map spec.mapUri = none) : services.CanOrphan := by
  obtain ⟨map, _, routeOpen, _, _⟩ := closeRoutes_same services
  obtain ⟨before, after, split⟩ := List.append_of_mem queued
  obtain ⟨final, route, passed, opener, found⟩ := openRoutes_opens fits before
    services.closeRoutes (routeOpen.trans split) (by rw [map]; exact free)
  refine ⟨[.drain (onlyAt before.length)], final,
    run_cons_eq_some.mpr ⟨final, passed, rfl⟩, ?_⟩
  intro noOrphan
  have alive := (noOrphan spec.mapUri route found).1
  rw [manage_disconnected passed, opener] at alive
  exact alive lost

/-! ## Disorderly steps -/

/-- A pipe is lost while the registration recorded for it is queued. -/
theorem orphan_of_lost {spec : NewRoute} (queued : spec ∈ services.routeOpen)
    (fits : spec.mapUri.length ≤ maxKeySize)
    (recorded : services.registrationMap spec.pipeID = some spec.mapUri)
    (gone : services.pipeEvent spec.pipeID = some next) : next.CanOrphan := by
  have lost := pipeEvent_lost gone
  apply orphan_of_queued (lost.routeOpen ▸ queued) fits
  · simp [lost.disconnected]
  · cases found : next.map spec.mapUri with
    | none => rfl
    | some route => exact absurd recorded ((lost.map _ _).mp found).2

/-- The continuation may begin with the loss of a connected pipe. -/
theorem CanOrphan.of_disconnect {pipeID : PipeID}
    (gone : services.pipeEvent pipeID = some next)
    (connected : pipeID ∉ services.disconnected) (continued : next.CanOrphan) :
    services.CanOrphan := by
  obtain ⟨labels, final, reached, orphan⟩ := continued
  refine ⟨.disconnect pipeID :: labels, final, ?_, orphan⟩
  apply run_cons_eq_some.mpr
  exact ⟨next, by rw [step, if_neg connected, gone], reached⟩

/-- A registration arrives from a lost pipe.  If another pipe owns the URI, that
pipe leaves first. -/
theorem orphan_of_lostSender {queryID : QueryID} {pipeID : PipeID} {uri : Bytes}
    (owned : services.Owned) (fits : uri.length ≤ maxKeySize)
    (lost : pipeID ∈ services.disconnected) :
    (services.register queryID pipeID uri).CanOrphan := by
  have queued : (⟨queryID, pipeID, uri⟩ : NewRoute) ∈
      (services.register queryID pipeID uri).routeOpen := by
    simp [register]
  cases found : services.map uri with
  | none => exact orphan_of_queued queued fits lost found
  | some route =>
      obtain ⟨alive, recorded⟩ := owned.routed uri route found
      have different : route.opener ≠ pipeID := by
        rintro rfl
        exact alive lost
      have stillRecorded :
          (services.register queryID pipeID uri).registrationMap route.opener =
            some uri := by
        simp only [register]
        rw [emplace_of_ne different, recorded]
      have gone := pipeEvent_of_recorded stillRecorded
      have after := pipeEvent_lost gone
      apply CanOrphan.of_disconnect gone alive
      apply orphan_of_queued (after.routeOpen ▸ queued) fits
      · rw [after.disconnected]
        exact List.mem_cons_of_mem _ lost
      · exact erase_self

/-- A pipe registers a second time.  If its first registration is still queued, the
pipe is lost next; if it is routed, the second one fails and takes the record with
it. -/
theorem orphan_of_secondRegistration {queryID : QueryID} {pipeID : PipeID}
    {uri earlier : Bytes} (backed : services.Backed)
    (fits : ∀ spec ∈ services.routeOpen, spec.mapUri.length ≤ maxKeySize)
    (connected : pipeID ∉ services.disconnected)
    (recorded : services.registrationMap pipeID = some earlier) :
    (services.register queryID pipeID uri).CanOrphan := by
  rcases backed pipeID earlier recorded connected with
    ⟨spec, queued, rfl, rfl⟩ | ⟨route, found, rfl⟩
  · have stillRecorded : (services.register queryID spec.pipeID uri).registrationMap
        spec.pipeID = some spec.mapUri := by
      simp only [register]
      rw [emplace_of_some recorded, recorded]
    have gone := pipeEvent_of_recorded stillRecorded
    apply CanOrphan.of_disconnect gone connected
    exact orphan_of_lost (List.mem_append_left _ queued) (fits spec queued) stillRecorded
      gone
  · obtain ⟨map, _, routeOpen, _, _⟩ :=
      closeRoutes_same (services.register queryID route.opener uri)
    have last : ∃ spec ∈ (services.register queryID route.opener
        uri).closeRoutes.routeOpen, spec.pipeID = route.opener := by
      rw [routeOpen]
      exact ⟨⟨queryID, route.opener, uri⟩, by simp [register], rfl⟩
    obtain ⟨final, passed, sameMap, forgotten⟩ := openRoutes_throws _
      (services.register queryID route.opener uri).closeRoutes (.inl last)
    refine ⟨[.drain fun _ => .routeThrows], final,
      run_cons_eq_some.mpr ⟨final, passed, rfl⟩, ?_⟩
    intro noOrphan
    have routed := noOrphan earlier route (by rw [sameMap, map]; exact found)
    exact absurd (forgotten.symm.trans routed.2) (by simp)

theorem orphan_of_disorder {label : Label} (owned : services.Owned)
    (accounted : services.Accounted) (disorderly : ¬services.Orderly label)
    (stepped : services.step label = some next)
    (fits : ∀ spec ∈ next.routeOpen, spec.mapUri.length ≤ maxKeySize) :
    next.CanOrphan := by
  cases label with
  | receive queryID pipeID msg =>
      obtain rfl := Option.some.inj stepped
      simp only [Orderly, not_forall] at disorderly
      obtain ⟨uri, decoded, outside⟩ := disorderly
      simp only [asyncRecv, decoded] at fits ⊢
      have newest := fits ⟨queryID, pipeID, uri⟩ (by simp [register])
      by_cases lost : pipeID ∈ services.disconnected
      · exact orphan_of_lostSender owned newest lost
      · cases recorded : services.registrationMap pipeID with
        | none => exact absurd ⟨lost, recorded⟩ outside
        | some earlier =>
            refine orphan_of_secondRegistration accounted.backed (fun spec queued => ?_)
              lost recorded
            exact fits spec (List.mem_append_left _ queued)
  | disconnect pipeID =>
      obtain ⟨connected, gone⟩ := step_disconnect stepped
      have recorded := pipeEvent_isSome_iff.mp (Option.isSome_of_eq_some gone)
      simp only [Orderly, connected, recorded, not_false_eq_true, true_and, not_forall,
        not_not] at disorderly
      obtain ⟨spec, queued, rfl⟩ := disorderly
      have short := fits spec ((pipeEvent_lost gone).routeOpen ▸ queued)
      exact orphan_of_lost queued short (owned.queued spec queued).2 gone
  | drain dials =>
      have storable := (manage_isSome_iff accounted.bounded dials).mp
        (Option.isSome_of_eq_some stepped)
      exact absurd storable disorderly

/-- An orderly step loses no pipe with a queued registration, so it is uncontested. -/
theorem Orderly.uncontested {label : Label} (orderly : services.Orderly label) :
    services.Uncontested label := by
  cases label with
  | receive queryID pipeID msg => trivial
  | drain dials => exact orderly
  | disconnect pipeID =>
      obtain ⟨connected, recorded, unqueued⟩ := orderly
      exact ⟨connected, recorded, fun spec queued own => absurd own (unqueued spec queued)⟩

/-- The condition of orderly runs is the weakest one: after an orderly run, every
disorderly step that the process survives can be continued to a state with an orphan
route, if the names that are queued fit into the map. -/
theorem disorderly_orphans (address : Bytes) (labels : List Label)
    (current next : Services) (label : Label)
    (orderly : Meets step Orderly (initial address) labels)
    (reached : run step (initial address) labels = some current)
    (disorderly : ¬current.Orderly label) (stepped : current.step label = some next)
    (fits : ∀ spec ∈ next.routeOpen, spec.mapUri.length ≤ maxKeySize) :
    next.CanOrphan := by
  have invariant : current.Owned ∧ current.Accounted := by
    refine invariant_of_run (fun services => services.Owned ∧ services.Accounted)
      ⟨owned_initial address, accounted_initial address⟩ ?_ orderly reached
    rintro before label after ⟨owned, accounted⟩ condition moved
    exact ⟨owned.step condition moved, accounted.step condition.uncontested moved⟩
  exact orphan_of_disorder invariant.1 invariant.2 disorderly stepped fits

end Services

end Telling.Server
