import Telling.Server.Ownership

/-!
# What the loss of a pipe removes

The route that is removed with a pipe is found by the URI that is recorded for
the pipe, and the record is made before the registration is checked against the
routes that exist.  A pipe that is lost while its registration of another
service's URI is still queued takes the route of that service with it.  Apart from
this, and as long as the process goes on, only routes of the lost pipe are removed.
-/

namespace Telling.Server

open Lib Msg
open Io (QueryID)

namespace Services

/-- The process survives the step, and no route of another pipe that is still connected
is removed. -/
def KeepsOthers (services : Services) (label : Label) : Prop :=
  ∃ next, services.step label = some next ∧
    ∀ uri route, services.map uri = some route → label ≠ .disconnect route.opener →
      route.opener ∉ services.disconnected → next.map uri = some route

/-- A pipe is lost once, with a record, and not while the registration recorded for it is
queued behind a route that another connected pipe owns; and the keys of a pass fit into
the map. -/
def Uncontested (services : Services) : Label → Prop
  | .receive _ _ _ => True
  | .disconnect pipeID =>
      pipeID ∉ services.disconnected ∧ (services.registrationMap pipeID).isSome ∧
        ∀ spec ∈ services.routeOpen, spec.pipeID = pipeID →
          services.registrationMap pipeID = some spec.mapUri →
          ∀ route, services.map spec.mapUri = some route →
            route.opener ≠ pipeID → route.opener ∈ services.disconnected
  | .drain dials => Storable services.routeOpen dials

instance (services : Services) : (label : Label) → Decidable (services.Uncontested label)
  | .receive _ _ _ => isTrue trivial
  | .disconnect pipeID =>
      inferInstanceAs (Decidable (pipeID ∉ services.disconnected ∧
        (services.registrationMap pipeID).isSome = true ∧
          ∀ spec ∈ services.routeOpen, spec.pipeID = pipeID →
            services.registrationMap pipeID = some spec.mapUri →
            ∀ route ∈ services.map spec.mapUri,
              route.opener ≠ pipeID → route.opener ∈ services.disconnected))
  | .drain dials => inferInstanceAs (Decidable (Storable services.routeOpen dials))

/-- What is recorded for a connected pipe is queued or routed. -/
def Backed (services : Services) : Prop :=
  ∀ pipeID uri, services.registrationMap pipeID = some uri →
    pipeID ∉ services.disconnected →
    (∃ spec ∈ services.routeOpen, spec.pipeID = pipeID ∧ spec.mapUri = uri) ∨
      ∃ route, services.map uri = some route ∧ route.opener = pipeID

/-- A registration that was answered with 200 is routed to its pipe for as long
as the pipe is connected. -/
def Served (services : Services) : Prop :=
  ∀ spec body, .settled spec .ok body ∈ services.answers →
    spec.pipeID ∉ services.disconnected →
    ∃ route, services.map spec.mapUri = some route ∧ route.opener = spec.pipeID

variable {services : Services}

/-! ## Backed registrations -/

/-- The recorded URI of a pipe is not routed to another connected pipe, unless
the condition fails. -/
theorem Backed.unrecorded {pipeID : PipeID} {uri : Bytes} {route : Route}
    (backed : services.Backed)
    (uncontested : services.Uncontested (.disconnect pipeID))
    (found : services.map uri = some route) (other : route.opener ≠ pipeID)
    (alive : route.opener ∉ services.disconnected) :
    services.registrationMap pipeID ≠ some uri := by
  intro recorded
  rcases backed pipeID uri recorded uncontested.1 with
    ⟨spec, member, rfl, rfl⟩ | ⟨own, ownFound, opener⟩
  · exact alive (uncontested.2.2 spec member rfl recorded route found other)
  · rw [found, Option.some.injEq] at ownFound
    exact other (ownFound ▸ opener)

theorem Backed.register {queryID : QueryID} {pipeID : PipeID} {uri : Bytes}
    (backed : services.Backed) :
    (services.register queryID pipeID uri).Backed := by
  intro other path recorded connected
  simp only [Services.register] at recorded connected ⊢
  rcases emplace_eq_some recorded with before | ⟨rfl, rfl⟩
  · rcases backed other path before connected with
      ⟨spec, member, owner, target⟩ | routed
    · exact .inl ⟨spec, by simp [member], owner, target⟩
    · exact .inr routed
  · exact .inl ⟨⟨queryID, other, path⟩, by simp, rfl, rfl⟩

theorem Backed.pipeEvent {pipeID : PipeID} {after : Services} (backed : services.Backed)
    (uncontested : services.Uncontested (.disconnect pipeID))
    (lost : services.pipeEvent pipeID = some after) : after.Backed := by
  obtain ⟨map, registrationMap, routeOpen, disconnected, _⟩ := pipeEvent_lost lost
  intro other uri recorded alive
  rw [registrationMap, erase_eq_some] at recorded
  rw [disconnected, List.mem_cons, not_or] at alive
  rw [routeOpen]
  rcases backed other uri recorded.2 alive.2 with queued | ⟨route, found, rfl⟩
  · exact .inl queued
  · refine .inr ⟨route, (map uri route).mpr ⟨found, ?_⟩, rfl⟩
    exact backed.unrecorded uncontested found recorded.1 alive.2

theorem Backed.openRoute {spec : NewRoute} {queue : List NewRoute} {dial : Dial}
    {after : Services} (backed : services.Backed)
    (queued : services.routeOpen = spec :: queue)
    (returned : Services.openRoute { services with routeOpen := queue } spec dial =
      some after) : after.Backed := by
  obtain ⟨opened, routeOpen, disconnected⟩ := openRoute_opened returned
  intro pipeID uri recorded alive
  rw [disconnected] at alive
  rw [routeOpen]
  have before : services.registrationMap pipeID = some uri := by
    cases opened with
    | refused status body _ map registrationMap _ =>
        rw [registrationMap, erase_eq_some] at recorded
        exact recorded.2
    | opened route _ _ _ map registrationMap _ =>
        rw [registrationMap] at recorded
        exact recorded
  rcases backed pipeID uri before alive with
    ⟨pending, member, owner, target⟩ | ⟨other, found, owner⟩
  · rw [queued, List.mem_cons] at member
    rcases member with rfl | later
    · cases opened with
      | refused status body _ map registrationMap _ =>
          rw [registrationMap, erase_eq_some] at recorded
          exact absurd owner.symm recorded.1
      | opened route _ _ opener map _ _ =>
          refine .inr ⟨route, ?_, opener.trans owner⟩
          rw [map, ← target, Function.update_self]
    · exact .inl ⟨pending, later, owner, target⟩
  · exact .inr ⟨other, opened.keeps found, owner⟩

theorem Backed.manage (backed : services.Backed) {dials : Nat → Dial} {after : Services}
    (passed : services.manage dials = some after) : after.Backed := by
  obtain ⟨map, registrationMap, routeOpen, disconnected, _⟩ :=
    closeRoutes_same services
  refine (manage_induction Backed
    (fun _ _ _ _ _ queued holds returned => holds.openRoute queued returned)
    ?_ passed).1
  simpa only [Backed, map, registrationMap, routeOpen, disconnected] using backed

/-- Only the condition on lost pipes is needed to keep registrations backed. -/
theorem Backed.step {next : Services} {label : Label} (backed : services.Backed)
    (uncontested : services.Uncontested label)
    (stepped : services.step label = some next) : next.Backed := by
  cases label with
  | receive queryID pipeID msg =>
      obtain rfl := Option.some.inj stepped
      simp only [asyncRecv]
      cases decodeRegistration msg with
      | error refusal => exact backed
      | ok uri => exact backed.register
  | disconnect pipeID => exact backed.pipeEvent uncontested (step_disconnect stepped).2
  | drain dials => exact backed.manage stepped

/-- What makes the condition exact: registrations are backed, and keys fit. -/
structure Accounted (services : Services) : Prop where
  backed : services.Backed
  bounded : services.Bounded

theorem accounted_initial (address : Bytes) : (initial address).Accounted :=
  ⟨by simp [Backed, initial], bounded_initial address⟩

theorem Accounted.step {next : Services} {label : Label} (accounted : services.Accounted)
    (uncontested : services.Uncontested label)
    (stepped : services.step label = some next) : next.Accounted :=
  ⟨accounted.backed.step uncontested stepped, accounted.bounded.step stepped⟩

/-- An uncontested loss of a pipe spares the routes of the other connected pipes. -/
theorem Accounted.spares {pipeID : PipeID} (accounted : services.Accounted)
    (uncontested : services.Uncontested (.disconnect pipeID)) :
    services.KeepsOthers (.disconnect pipeID) := by
  obtain ⟨after, lost⟩ := Option.isSome_iff_exists.mp
    (pipeEvent_isSome_iff.mpr uncontested.2.1)
  refine ⟨after, by rw [Services.step, if_neg uncontested.1, lost], ?_⟩
  intro uri route found other alive
  have different : route.opener ≠ pipeID := fun same => other (by rw [same])
  apply ((pipeEvent_lost lost).map uri route).mpr
  exact ⟨found, accounted.backed.unrecorded uncontested found different alive⟩

/-- A loss that spares them is uncontested. -/
theorem uncontested_of_spares {pipeID : PipeID}
    (keeps : services.KeepsOthers (.disconnect pipeID)) :
    services.Uncontested (.disconnect pipeID) := by
  obtain ⟨next, stepped, kept⟩ := keeps
  obtain ⟨connected, lost⟩ := step_disconnect stepped
  refine ⟨connected, pipeEvent_isSome_iff.mp (by rw [lost]; rfl), ?_⟩
  intro spec member _ recorded route found other
  by_contra alive
  have stays := kept spec.mapUri route found
    (fun same => other (Label.disconnect.inj same).symm) alive
  exact (((pipeEvent_lost lost).map _ _).mp stays).2 recorded

/-- In an accounted state, the condition says exactly that the process goes on and no
route of another connected pipe is removed. -/
theorem Accounted.keepsOthers_iff_uncontested (accounted : services.Accounted)
    (label : Label) : services.KeepsOthers label ↔ services.Uncontested label := by
  cases label with
  | receive queryID pipeID msg =>
      refine iff_of_true ⟨_, rfl, fun uri route found _ _ => ?_⟩ trivial
      rw [asyncRecv_map]
      exact found
  | disconnect pipeID => exact ⟨uncontested_of_spares, accounted.spares⟩
  | drain dials =>
      apply Iff.trans _ (manage_isSome_iff accounted.bounded dials)
      constructor
      · rintro ⟨next, passed, _⟩
        exact Option.isSome_of_eq_some passed
      · intro returns
        obtain ⟨next, passed⟩ := Option.isSome_iff_exists.mp returns
        exact ⟨next, passed, fun uri route found _ _ => manage_keeps found passed⟩

/-! ## Answered registrations -/

theorem Served.openRoute {spec : NewRoute} {queue : List NewRoute} {dial : Dial}
    {after : Services} (served : services.Served)
    (returned : Services.openRoute { services with routeOpen := queue } spec dial =
      some after) : after.Served := by
  obtain ⟨opened, _, disconnected⟩ := openRoute_opened returned
  intro settled text member alive
  rw [disconnected] at alive
  have earlierKept : .settled settled .ok text ∈ services.answers →
      ∃ route, after.map settled.mapUri = some route ∧
        route.opener = settled.pipeID := by
    intro earlier
    obtain ⟨route, found, owner⟩ := served settled text earlier alive
    exact ⟨route, opened.keeps found, owner⟩
  cases opened with
  | refused status body notOk map _ answers =>
      rw [answers, List.mem_append, List.mem_singleton] at member
      rcases member with earlier | equal
      · exact earlierKept earlier
      · injection equal with _ statusEq
        exact absurd statusEq.symm notOk
  | opened route absent _ opener map _ answers =>
      rw [answers, List.mem_append, List.mem_singleton] at member
      rcases member with earlier | equal
      · exact earlierKept earlier
      · injection equal with specEq
        subst specEq
        rw [map]
        exact ⟨route, Function.update_self _ _ _, opener⟩

theorem Served.manage (served : services.Served) {dials : Nat → Dial} {after : Services}
    (passed : services.manage dials = some after) : after.Served := by
  obtain ⟨map, _, _, disconnected, answers⟩ := closeRoutes_same services
  refine (manage_induction Served
    (fun _ _ _ _ _ _ holds returned => holds.openRoute returned) ?_ passed).1
  simpa only [Served, map, disconnected, answers] using served

/-- A step that keeps the routes of the others serves those that were answered. -/
theorem Served.step {next : Services} {label : Label} (served : services.Served)
    (keeps : services.KeepsOthers label)
    (stepped : services.step label = some next) : next.Served := by
  cases label with
  | receive queryID pipeID msg =>
      obtain rfl := Option.some.inj stepped
      simp only [asyncRecv]
      cases decodeRegistration msg with
      | ok uri => exact served
      | error refusal =>
          intro spec body member alive
          refine served spec body ?_ alive
          simpa using member
  | disconnect pipeID =>
      obtain ⟨after, same, kept⟩ := keeps
      obtain rfl := Option.some.inj (stepped.symm.trans same)
      obtain ⟨_, _, _, disconnected, answers⟩ :=
        pipeEvent_lost (step_disconnect stepped).2
      intro spec body member alive
      rw [disconnected, List.mem_cons, not_or] at alive
      rw [answers] at member
      obtain ⟨route, found, owner⟩ := served spec body member alive.2
      refine ⟨route, kept spec.mapUri route found ?_ (owner ▸ alive.2), owner⟩
      rintro same
      exact alive.1 (owner ▸ (Label.disconnect.inj same).symm)
  | drain dials => exact served.manage stepped

/-! ## Runs -/

/-- The process survives every step and no loss of a pipe removes a route of another
connected pipe, exactly when every pipe is lost with a record, none is lost while the
registration recorded for it is queued behind such a route, and the keys of every pass
fit into the map.  Such runs come to their end, and a service that was answered with 200
stays the target for its URI until its own pipe is lost. -/
theorem keepsOthers_iff (address : Bytes) (labels : List Label) :
    (Meets step KeepsOthers (initial address) labels ↔
      Meets step Uncontested (initial address) labels) ∧
    (Meets step Uncontested (initial address) labels →
      ∃ final, run step (initial address) labels = some final ∧
        ∀ spec body, .settled spec .ok body ∈ final.answers →
          spec.pipeID ∉ final.disconnected →
          ∃ route, final.route spec.mapUri = some route ∧
            route.opener = spec.pipeID) := by
  have exact : Meets step KeepsOthers (initial address) labels ↔
      Meets step Uncontested (initial address) labels :=
    meets_congr Accounted
      (fun _ label accounted => accounted.keepsOthers_iff_uncontested label)
      (fun _ _ _ accounted uncontested stepped => accounted.step uncontested stepped)
      (accounted_initial address)
  refine ⟨exact, fun uncontested => ?_⟩
  obtain ⟨final, reached, served⟩ := run_of_meets Served
    (fun _ _ served keeps => by
      obtain ⟨next, stepped, kept⟩ := keeps
      exact ⟨next, stepped, served.step ⟨next, stepped, kept⟩ stepped⟩)
    (show (initial address).Served by simp [Served, initial]) (exact.mpr uncontested)
  refine ⟨final, reached, fun spec body answered alive => ?_⟩
  obtain ⟨route, found, owner⟩ := served spec body answered alive
  exact ⟨route, route_of_map found, owner⟩

/-- Two services register the same URI; the second one is refused, registers another one
and leaves. -/
def rivals : List Label :=
  [.receive 7 1 requestA, .drain fun _ => .ok, .receive 8 2 requestA,
    .drain fun _ => .ok, .receive 9 2 (enrollment "/b"), .drain fun _ => .ok,
    .disconnect 2]

theorem keepsOthers_iff_rivals :
    ∃ final, run step (initial []) rivals = some final ∧
      Meets step KeepsOthers (initial []) rivals ∧
      ∃ route, final.route (ascii "/a") = some route ∧ route.opener = 1 := by
  have uncontested : Meets step Uncontested (initial []) rivals := by decide +kernel
  have summary : (run step (initial []) rivals).map (fun final =>
      (decide (.settled ⟨7, 1, ascii "/a"⟩ .ok
        (ascii "/a\nEnrolled with this URI.") ∈ final.answers),
        final.disconnected)) = some (true, [2]) := by
    decide +kernel
  obtain ⟨exact, stays⟩ := keepsOthers_iff [] rivals
  obtain ⟨final, reached, targets⟩ := stays uncontested
  rw [reached, Option.map_some, Option.some.injEq] at summary
  obtain ⟨answered, gone⟩ := Prod.mk.inj summary
  refine ⟨final, reached, exact.mpr uncontested, ?_⟩
  exact targets ⟨7, 1, ascii "/a"⟩ _ (of_decide_eq_true answered) (by simp [gone])

/-- The second service leaves before its registration is refused, and the route
of the first one goes with it. -/
theorem route_lost_to_rival :
    ∃ state next route,
      run step (initial []) [.receive 7 1 requestA, .drain fun _ => .ok,
        .receive 8 2 requestA] = some state ∧
      state.map (ascii "/a") = some route ∧ route.opener = 1 ∧
      1 ∉ state.disconnected ∧
      state.step (.disconnect 2) = some next ∧ next.map (ascii "/a") = none ∧
      ¬state.KeepsOthers (.disconnect 2) := by
  have summary : (run step (initial []) [.receive 7 1 requestA,
      .drain fun _ => .ok, .receive 8 2 requestA]).map (fun state =>
        ((state.map (ascii "/a")).map Route.opener, state.disconnected,
          (state.step (.disconnect 2)).map fun next => next.map (ascii "/a"))) =
        some (some 1, [], some none) := by
    decide +kernel
  obtain ⟨state, reached, equal⟩ := Option.map_eq_some_iff.mp summary
  simp only [Prod.mk.injEq] at equal
  obtain ⟨routed, alive, lost⟩ := equal
  obtain ⟨route, found, opener⟩ := Option.map_eq_some_iff.mp routed
  obtain ⟨next, stepped, gone⟩ := Option.map_eq_some_iff.mp lost
  refine ⟨state, next, route, reached, found, opener, by simp [alive], stepped, gone, ?_⟩
  rintro ⟨other, same, kept⟩
  obtain rfl := Option.some.inj (stepped.symm.trans same)
  have stays := kept (ascii "/a") route found
    (fun lost => absurd (Label.disconnect.inj lost) (by simp [opener])) (by simp [alive])
  rw [gone] at stays
  contradiction

end Services

end Telling.Server
