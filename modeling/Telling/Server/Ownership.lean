import Telling.Server.Services

/-!
# Ownership of routes

A route belongs to the pipe whose registration opened it.  The directory keeps
this correspondence in every run in which a pipe registers only while it is
connected and unregistered, is lost only while it has a record and no registration of
its own is queued, and in which the keys that come to the map fit into it.  Such a run
never ends the process.
-/

namespace Telling.Server

open Lib Msg
open Io (QueryID)

namespace Services

/-! ## What the steps do to the ownership data -/

section Steps

variable {services : Services}

/-- The fields that closing routes leaves alone. -/
structure SameDirectory (before after : Services) : Prop where
  map : after.map = before.map
  registrationMap : after.registrationMap = before.registrationMap
  routeOpen : after.routeOpen = before.routeOpen
  disconnected : after.disconnected = before.disconnected
  answers : after.answers = before.answers

theorem foldl_closeRoute_same (routes : List Route) :
    (services : Services) →
      SameDirectory services (routes.foldl closeRoute services) := by
  induction routes with
  | nil => intro services; exact ⟨rfl, rfl, rfl, rfl, rfl⟩
  | cons route routes ih =>
      intro services
      obtain ⟨map, registrationMap, routeOpen, disconnected, answers⟩ :=
        ih (services.closeRoute route)
      exact ⟨map, registrationMap, routeOpen, disconnected, answers⟩

theorem closeRoutes_same (services : Services) :
    SameDirectory services services.closeRoutes := by
  obtain ⟨map, registrationMap, routeOpen, disconnected, answers⟩ :=
    foldl_closeRoute_same services.routeClose services
  exact ⟨map, registrationMap, routeOpen, disconnected, answers⟩

/-- What one turn of the loop over `route_open` does: it refuses the registration
and forgets its pipe, or it opens the route. -/
inductive Opened (services : Services) (spec : NewRoute) :
    Services → Prop where
  | refused {after : Services} (status : Status) (body : Bytes) :
      status ≠ .ok → after.map = services.map →
      after.registrationMap = erase services.registrationMap spec.pipeID →
      after.answers = services.answers ++ [.settled spec status body] →
      Opened services spec after
  | opened {after : Services} (route : Route) :
      services.map spec.mapUri = none →
      route.path = spec.mapUri → route.opener = spec.pipeID →
      after.map = Function.update services.map spec.mapUri (some route) →
      after.registrationMap = services.registrationMap →
      after.answers = services.answers ++ [.settled spec .ok
        (spec.mapUri ++ ascii "\nEnrolled with this URI.")] →
      Opened services spec after

theorem openRoute_opened {after : Services} {spec : NewRoute} {dial : Dial}
    (returned : services.openRoute spec dial = some after) :
    Opened services spec after ∧ after.routeOpen = services.routeOpen ∧
      after.disconnected = services.disconnected := by
  have unavailable : Status.serviceUnavailable ≠ .ok := by decide
  cases openRoute_turned returned with
  | conflict route found => exact ⟨.refused .conflict _ (by decide) rfl rfl rfl, rfl, rfl⟩
  | unconstructed absent =>
      exact ⟨.refused _ _ unavailable (erase_of_none absent) rfl rfl, rfl, rfl⟩
  | abandoned connectors dialings absent =>
      exact ⟨.refused _ _ unavailable (erase_update_of_none absent) rfl rfl, rfl, rfl⟩
  | opened absent => exact ⟨.opened _ absent rfl rfl rfl rfl rfl, rfl, rfl⟩

/-- A turn of the loop removes no route. -/
theorem Opened.keeps {spec : NewRoute} {after : Services} {uri : Bytes} {route : Route}
    (opened : Opened services spec after) (found : services.map uri = some route) :
    after.map uri = some route := by
  cases opened with
  | refused status body _ map _ _ =>
      rw [map]
      exact found
  | opened other absent _ _ map _ _ =>
      have different : uri ≠ spec.mapUri := by
        rintro rfl
        exact absurd (found.symm.trans absent) (by simp)
      rw [map, Function.update_of_ne different]
      exact found

/-- What the loss of a pipe does: the URI recorded for it is not routed any more,
and everything else stays. -/
structure Lost (services : Services) (pipeID : PipeID) (after : Services) :
    Prop where
  map : ∀ uri route, after.map uri = some route ↔
    services.map uri = some route ∧ services.registrationMap pipeID ≠ some uri
  registrationMap :
    after.registrationMap = erase services.registrationMap pipeID
  routeOpen : after.routeOpen = services.routeOpen
  disconnected : after.disconnected = pipeID :: services.disconnected
  answers : after.answers = services.answers

theorem pipeEvent_lost {after : Services} {pipeID : PipeID}
    (lost : services.pipeEvent pipeID = some after) : Lost services pipeID after := by
  obtain ⟨path, recorded, rfl⟩ := pipeEvent_eq_some lost
  refine ⟨fun uri route => ?_, rfl, rfl, rfl, rfl⟩
  rw [recorded, erase_eq_some, and_comm]
  simp [eq_comm]

/-- A property kept by every turn of the loop, whatever is still queued, holds
after the loop. -/
theorem openRoutes_induction (property : Services → Prop)
    (turn : ∀ services spec queue dial next, services.routeOpen = spec :: queue →
      property services →
      openRoute { services with routeOpen := queue } spec dial = some next →
      property next) {after : Services} :
    (queue : List NewRoute) → (dials : Nat → Dial) → (services : Services) →
      services.routeOpen = queue → property services →
      openRoutes queue dials services = some after →
      property after ∧ after.routeOpen = [] := by
  intro queue
  induction queue with
  | nil =>
      intro dials services empty holds returned
      obtain rfl := Option.some.inj returned
      exact ⟨holds, empty⟩
  | cons spec queue ih =>
      intro dials services queued holds returned
      simp only [openRoutes] at returned
      split at returned
      · contradiction
      · next next turned =>
          exact ih _ next (openRoute_opened turned).2.1
            (turn services spec queue (dials 0) next queued holds turned) returned

/-- A property that closing routes gives and every turn keeps holds after a pass. -/
theorem manage_induction (property : Services → Prop)
    (turn : ∀ services spec queue dial next, services.routeOpen = spec :: queue →
      property services →
      openRoute { services with routeOpen := queue } spec dial = some next →
      property next)
    (start : property services.closeRoutes) {dials : Nat → Dial} {after : Services}
    (passed : services.manage dials = some after) :
    property after ∧ after.routeOpen = [] :=
  openRoutes_induction property turn _ dials services.closeRoutes rfl start passed

/-- A route that exists survives the rest of a pass. -/
theorem openRoutes_keeps {uri : Bytes} {route : Route} {dials : Nat → Dial}
    {after : Services} (found : services.map uri = some route)
    (returned : openRoutes services.routeOpen dials services = some after) :
    after.map uri = some route := by
  refine (openRoutes_induction (fun current => current.map uri = some route)
    ?_ services.routeOpen dials services rfl found returned).1
  intro current spec queue dial next _ before turned
  exact (openRoute_opened turned).1.keeps before

/-- The loop returns when every key that comes to the map fits. -/
theorem openRoutes_isSome (queue : List NewRoute) :
    (dials : Nat → Dial) → (services : Services) → Storable queue dials →
      (openRoutes queue dials services).isSome := by
  induction queue with
  | nil => exact fun dials services storable => rfl
  | cons spec queue ih =>
      intro dials services storable
      obtain ⟨first, rest⟩ := storable_cons.mp storable
      obtain ⟨next, turned⟩ := Option.isSome_iff_exists.mp
        (@openRoute_isSome { services with routeOpen := queue } spec (dials 0) first)
      simp only [openRoutes, turned]
      exact ih _ next rest

theorem manage_isSome {dials : Nat → Dial} (storable : Storable services.routeOpen dials) :
    (services.manage dials).isSome := by
  rw [manage, (closeRoutes_same services).routeOpen]
  exact openRoutes_isSome _ dials _ storable

/-- A pass removes no route. -/
theorem manage_keeps {uri : Bytes} {route : Route} {dials : Nat → Dial} {after : Services}
    (found : services.map uri = some route) (passed : services.manage dials = some after) :
    after.map uri = some route :=
  openRoutes_keeps ((closeRoutes_same services).map ▸ found) passed

theorem asyncRecv_map (services : Services) (queryID : QueryID) (pipeID : PipeID)
    (msg : Bytes) : (services.asyncRecv queryID pipeID msg).map = services.map := by
  unfold asyncRecv
  split <;> rfl

/-- A turn that returns enters a key that fits. -/
theorem Bounded.openRoute (bounded : services.Bounded) {spec : NewRoute} {dial : Dial}
    {after : Services} (returned : services.openRoute spec dial = some after) :
    after.Bounded := by
  intro uri present
  cases openRoute_turned returned with
  | conflict => exact bounded uri present
  | unconstructed => exact bounded uri (isSome_erase.mp present).2
  | abandoned =>
      obtain ⟨other, present⟩ := isSome_erase.mp present
      exact bounded uri (by simpa [other] using present)
  | opened _ fits =>
      by_cases same : uri = spec.mapUri
      · exact same ▸ fits
      · exact bounded uri (by simpa [enrolled, same] using present)

theorem Bounded.openRoutes {after : Services} (queue : List NewRoute) :
    (dials : Nat → Dial) → (services : Services) → services.Bounded →
      openRoutes queue dials services = some after → after.Bounded := by
  induction queue with
  | nil => exact fun dials services bounded returned => Option.some.inj returned ▸ bounded
  | cons spec queue ih =>
      intro dials services bounded returned
      simp only [Services.openRoutes] at returned
      split at returned
      · contradiction
      · next next turned =>
          have dequeued : Bounded { services with routeOpen := queue } := bounded
          exact ih _ next (dequeued.openRoute turned) returned

/-- Where the keys of the map fit, the loop returns only when those of the queue do. -/
theorem openRoutes_isSome_iff (queue : List NewRoute) :
    (dials : Nat → Dial) → (services : Services) → services.Bounded →
      ((openRoutes queue dials services).isSome ↔ Storable queue dials) := by
  induction queue with
  | nil => exact fun dials services _ => by simp [openRoutes, Storable]
  | cons spec queue ih =>
      intro dials services bounded
      have dequeued : Bounded { services with routeOpen := queue } := bounded
      have first : (openRoute { services with routeOpen := queue } spec
        (dials 0)).isSome ↔ _ := openRoute_isSome_iff dequeued
      rw [storable_cons, ← first, openRoutes]
      cases turned : openRoute { services with routeOpen := queue } spec (dials 0) with
      | none => simp
      | some next => simp [ih _ next (dequeued.openRoute turned)]

theorem Bounded.closeRoutes (bounded : services.Bounded) : services.closeRoutes.Bounded :=
  fun uri present => bounded uri ((closeRoutes_same services).map ▸ present)

/-- A pass returns unless a key is too long. -/
theorem manage_isSome_iff (bounded : services.Bounded) (dials : Nat → Dial) :
    (services.manage dials).isSome ↔ Storable services.routeOpen dials := by
  rw [manage, (closeRoutes_same services).routeOpen]
  exact openRoutes_isSome_iff _ dials _ bounded.closeRoutes

theorem bounded_initial (address : Bytes) : (initial address).Bounded := by
  simp [Bounded, initial]

theorem Bounded.step (bounded : services.Bounded) {label : Label} {next : Services}
    (stepped : services.step label = some next) : next.Bounded := by
  cases label with
  | receive queryID pipeID msg =>
      obtain rfl := Option.some.inj stepped
      intro uri present
      rw [asyncRecv_map] at present
      exact bounded uri present
  | disconnect pipeID =>
      intro uri present
      obtain ⟨route, found⟩ := Option.isSome_iff_exists.mp present
      have before := ((pipeEvent_lost (step_disconnect stepped).2).map uri route).mp found
      exact bounded uri (by rw [before.1]; rfl)
  | drain dials => exact Bounded.openRoutes _ dials _ bounded.closeRoutes stepped

end Steps

/-! ## Orderly runs -/

/-- Every route belongs to a connected pipe, under the URI that is recorded for
that pipe. -/
def NoOrphan (services : Services) : Prop :=
  ∀ uri route, services.map uri = some route →
    route.opener ∉ services.disconnected ∧
      services.registrationMap route.opener = some uri

/-- A pipe registers only while it is connected and no registration is recorded
for it; it is lost once, with a record and no registration of its own in the queue; and
the keys of a pass fit into the map. -/
def Orderly (services : Services) : Label → Prop
  | .receive _ pipeID msg =>
      ∀ uri, decodeRegistration msg = .ok uri →
        pipeID ∉ services.disconnected ∧ services.registrationMap pipeID = none
  | .disconnect pipeID =>
      pipeID ∉ services.disconnected ∧ (services.registrationMap pipeID).isSome ∧
        ∀ spec ∈ services.routeOpen, spec.pipeID ≠ pipeID
  | .drain dials => Storable services.routeOpen dials

instance (services : Services) : (label : Label) → Decidable (services.Orderly label)
  | .receive _ pipeID msg =>
      match decoded : decodeRegistration msg with
      | .error _ => isTrue fun uri accepted => by simp [decoded] at accepted
      | .ok uri =>
          decidable_of_iff
            (pipeID ∉ services.disconnected ∧ services.registrationMap pipeID = none)
            ⟨fun free _ _ => free, fun orderly => orderly uri decoded⟩
  | .disconnect pipeID =>
      inferInstanceAs (Decidable (pipeID ∉ services.disconnected ∧
        (services.registrationMap pipeID).isSome = true ∧
          ∀ spec ∈ services.routeOpen, spec.pipeID ≠ pipeID))
  | .drain dials => inferInstanceAs (Decidable (Storable services.routeOpen dials))

/-- The ownership invariant: queued registrations are recorded for connected
pipes, which differ from each other and own no route yet. -/
structure Owned (services : Services) : Prop where
  routed : services.NoOrphan
  queued : ∀ spec ∈ services.routeOpen, spec.pipeID ∉ services.disconnected ∧
    services.registrationMap spec.pipeID = some spec.mapUri
  unrouted : ∀ spec ∈ services.routeOpen, ∀ uri route,
    services.map uri = some route → route.opener ≠ spec.pipeID
  distinct : (services.routeOpen.map NewRoute.pipeID).Nodup

theorem owned_initial (address : Bytes) : (initial address).Owned := by
  constructor <;> simp [initial, NoOrphan]

theorem Owned.of_same {before after : Services} (same : SameDirectory before after)
    (owned : before.Owned) : after.Owned := by
  obtain ⟨map, registrationMap, routeOpen, disconnected, _⟩ := same
  obtain ⟨routed, queued, unrouted, distinct⟩ := owned
  constructor
  · simpa only [NoOrphan, map, registrationMap, disconnected] using routed
  · simpa only [routeOpen, registrationMap, disconnected] using queued
  · simpa only [routeOpen, map] using unrouted
  · simpa only [routeOpen] using distinct

variable {services : Services}

theorem Owned.register {queryID : QueryID} {pipeID : PipeID} {uri : Bytes}
    (owned : services.Owned) (connected : pipeID ∉ services.disconnected)
    (unregistered : services.registrationMap pipeID = none) :
    (services.register queryID pipeID uri).Owned := by
  have recorded : (services.register queryID pipeID uri).registrationMap =
      Function.update services.registrationMap pipeID (some uri) :=
    emplace_of_none unregistered
  have keeps : ∀ other value, services.registrationMap other = some value →
      other ≠ pipeID ∧
        (services.register queryID pipeID uri).registrationMap other =
          some value := by
    intro other value found
    have different : other ≠ pipeID := by
      rintro rfl
      simp [unregistered] at found
    exact ⟨different, by rw [recorded, Function.update_of_ne different, found]⟩
  constructor
  · intro routedUri route found
    obtain ⟨alive, registered⟩ := owned.routed routedUri route found
    exact ⟨alive, (keeps _ _ registered).2⟩
  · intro spec member
    rcases List.mem_append.mp member with earlier | new
    · obtain ⟨alive, registered⟩ := owned.queued spec earlier
      exact ⟨alive, (keeps _ _ registered).2⟩
    · obtain rfl := List.mem_singleton.mp new
      exact ⟨connected, by rw [recorded, Function.update_self]⟩
  · intro spec member routedUri route found
    rcases List.mem_append.mp member with earlier | new
    · exact owned.unrouted spec earlier routedUri route found
    · obtain rfl := List.mem_singleton.mp new
      exact (keeps _ _ (owned.routed routedUri route found).2).1
  · have fresh : ∀ spec ∈ services.routeOpen, pipeID ≠ spec.pipeID := by
      intro spec earlier
      exact (keeps _ _ (owned.queued spec earlier).2).1.symm
    simp only [Services.register, List.map_append, List.map_cons, List.map_nil]
    refine List.nodup_append.mpr ⟨owned.distinct, by simp, ?_⟩
    rintro _ member _ new rfl
    obtain ⟨spec, earlier, same⟩ := List.mem_map.mp member
    exact fresh spec earlier (same.trans (List.mem_singleton.mp new)).symm

theorem Owned.pipeEvent {pipeID : PipeID} {after : Services} (owned : services.Owned)
    (unqueued : ∀ spec ∈ services.routeOpen, spec.pipeID ≠ pipeID)
    (lost : services.pipeEvent pipeID = some after) : after.Owned := by
  obtain ⟨map, registrationMap, routeOpen, disconnected, _⟩ := pipeEvent_lost lost
  constructor
  · intro uri route found
    obtain ⟨before, notRecorded⟩ := (map uri route).mp found
    obtain ⟨alive, registered⟩ := owned.routed uri route before
    have different : route.opener ≠ pipeID := by
      rintro rfl
      exact notRecorded registered
    rw [disconnected, registrationMap, erase_of_ne different]
    exact ⟨by simp [different, alive], registered⟩
  · intro spec member
    rw [routeOpen] at member
    have different := unqueued spec member
    obtain ⟨alive, registered⟩ := owned.queued spec member
    rw [disconnected, registrationMap, erase_of_ne different]
    exact ⟨by simp [different, alive], registered⟩
  · intro spec member uri route found
    rw [routeOpen] at member
    exact owned.unrouted spec member uri route ((map uri route).mp found).1
  · rw [routeOpen]
    exact owned.distinct

/-- The registrations behind the first one are of other pipes. -/
theorem Owned.dequeue {spec : NewRoute} {queue : List NewRoute}
    (owned : services.Owned) (queued : services.routeOpen = spec :: queue) :
    Owned { services with routeOpen := queue } ∧
      ∀ other ∈ queue, other.pipeID ≠ spec.pipeID := by
  have tail : ∀ other ∈ queue, other ∈ services.routeOpen := by
    intro other member
    simp [queued, member]
  have distinct := owned.distinct
  rw [queued, List.map_cons, List.nodup_cons] at distinct
  refine ⟨⟨owned.routed, fun other member => owned.queued other (tail other member),
    fun other member => owned.unrouted other (tail other member), distinct.2⟩, ?_⟩
  intro other member equal
  exact distinct.1 (List.mem_map.mpr ⟨other, member, equal⟩)

section Dequeued

variable {after : Services} {spec : NewRoute}

/-- A refused pipe is forgotten; it owns nothing. -/
theorem Owned.refuse (owned : services.Owned)
    (apart : ∀ other ∈ services.routeOpen, other.pipeID ≠ spec.pipeID)
    (unrouted : ∀ uri route, services.map uri = some route → route.opener ≠ spec.pipeID)
    (map : after.map = services.map)
    (registrationMap : after.registrationMap = erase services.registrationMap spec.pipeID)
    (routeOpen : after.routeOpen = services.routeOpen)
    (disconnected : after.disconnected = services.disconnected) : after.Owned := by
  constructor
  · intro uri route found
    rw [map] at found
    rw [disconnected, registrationMap, erase_of_ne (unrouted uri route found)]
    exact owned.routed uri route found
  · intro other member
    rw [routeOpen] at member
    rw [disconnected, registrationMap, erase_of_ne (apart other member)]
    exact owned.queued other member
  · rw [routeOpen, map]
    exact owned.unrouted
  · rw [routeOpen]
    exact owned.distinct

/-- A route that is opened belongs to the pipe of its registration. -/
theorem Owned.enroll {route : Route} (owned : services.Owned)
    (apart : ∀ other ∈ services.routeOpen, other.pipeID ≠ spec.pipeID)
    (registered : spec.pipeID ∉ services.disconnected ∧
      services.registrationMap spec.pipeID = some spec.mapUri)
    (opener : route.opener = spec.pipeID)
    (map : after.map = Function.update services.map spec.mapUri (some route))
    (registrationMap : after.registrationMap = services.registrationMap)
    (routeOpen : after.routeOpen = services.routeOpen)
    (disconnected : after.disconnected = services.disconnected) : after.Owned := by
  constructor
  · intro uri other found
    rw [map] at found
    rw [disconnected, registrationMap]
    rcases update_eq_some found with before | ⟨rfl, rfl⟩
    · exact owned.routed uri other before
    · rw [opener]
      exact registered
  · rw [routeOpen, disconnected, registrationMap]
    exact owned.queued
  · intro pending member uri other found
    rw [routeOpen] at member
    rw [map] at found
    rcases update_eq_some found with before | ⟨rfl, rfl⟩
    · exact owned.unrouted pending member uri other before
    · rw [opener]
      exact (apart pending member).symm
  · rw [routeOpen]
    exact owned.distinct

end Dequeued

theorem Owned.openRoute {spec : NewRoute} {queue : List NewRoute} {dial : Dial}
    {after : Services} (owned : services.Owned)
    (queued : services.routeOpen = spec :: queue)
    (returned : Services.openRoute { services with routeOpen := queue } spec dial =
      some after) : after.Owned := by
  obtain ⟨opened, routeOpen, disconnected⟩ := openRoute_opened returned
  have head : spec ∈ services.routeOpen := by simp [queued]
  obtain ⟨rest, apart⟩ := owned.dequeue queued
  cases opened with
  | refused status body _ map registrationMap _ =>
      exact rest.refuse apart (owned.unrouted spec head) map registrationMap routeOpen
        disconnected
  | opened route absent _ opener map registrationMap _ =>
      exact rest.enroll apart (owned.queued spec head) opener map registrationMap routeOpen
        disconnected

theorem Owned.manage (owned : services.Owned) {dials : Nat → Dial} {after : Services}
    (passed : services.manage dials = some after) : after.Owned :=
  (manage_induction Owned
    (fun _ _ _ _ _ queued holds returned => holds.openRoute queued returned)
    (owned.of_same (closeRoutes_same services)) passed).1

theorem manage_routeOpen {dials : Nat → Dial} {after : Services}
    (passed : services.manage dials = some after) : after.routeOpen = [] :=
  (manage_induction (fun _ => True) (fun _ _ _ _ _ _ _ _ => trivial) trivial passed).2

/-- Orderly steps keep the ownership invariant. -/
theorem Owned.step {next : Services} {label : Label} (owned : services.Owned)
    (orderly : services.Orderly label)
    (stepped : services.step label = some next) : next.Owned := by
  cases label with
  | receive queryID pipeID msg =>
      obtain rfl := Option.some.inj stepped
      simp only [asyncRecv]
      cases decoded : decodeRegistration msg with
      | error refusal =>
          exact ⟨owned.routed, owned.queued, owned.unrouted, owned.distinct⟩
      | ok uri =>
          obtain ⟨connected, unregistered⟩ := orderly uri decoded
          exact owned.register connected unregistered
  | disconnect pipeID => exact owned.pipeEvent orderly.2.2 (step_disconnect stepped).2
  | drain dials => exact owned.manage stepped

/-- The process survives an orderly step. -/
theorem Orderly.possible {label : Label} (orderly : services.Orderly label) :
    ∃ next, services.step label = some next := by
  cases label with
  | receive queryID pipeID msg => exact ⟨_, rfl⟩
  | disconnect pipeID =>
      obtain ⟨connected, recorded, _⟩ := orderly
      rw [step, if_neg connected]
      exact Option.isSome_iff_exists.mp (pipeEvent_isSome_iff.mpr recorded)
  | drain dials => exact Option.isSome_iff_exists.mp (manage_isSome orderly)

/-! ## Freed URIs -/

/-- The step records a registration of `uri` through `pipeID`. -/
def Registers (pipeID : PipeID) (uri : Bytes) : Label → Prop
  | .receive _ sender msg => sender = pipeID ∧ decodeRegistration msg = .ok uri
  | _ => False

theorem registrationMap_manage {pipeID : PipeID} {uri : Bytes} {dials : Nat → Dial}
    {after : Services} (passed : services.manage dials = some after)
    (recorded : after.registrationMap pipeID = some uri) :
    services.registrationMap pipeID = some uri := by
  refine (manage_induction (fun current => current.registrationMap pipeID = some uri →
    services.registrationMap pipeID = some uri) ?_ ?_ passed).1 recorded
  · intro current spec queue dial next _ holds turned recorded
    cases (openRoute_opened turned).1 with
    | refused status body _ _ registrationMap _ =>
        rw [registrationMap, erase_eq_some] at recorded
        exact holds recorded.2
    | opened route _ _ _ _ registrationMap _ =>
        rw [registrationMap] at recorded
        exact holds recorded
  · rw [(closeRoutes_same services).registrationMap]
    exact id

/-- What is recorded for a pipe was registered through it. -/
theorem registered_of_recorded {next : Services} {label : Label}
    {pipeID : PipeID} {uri : Bytes}
    (stepped : services.step label = some next)
    (recorded : next.registrationMap pipeID = some uri) :
    services.registrationMap pipeID = some uri ∨ Registers pipeID uri label := by
  cases label with
  | receive queryID sender msg =>
      obtain rfl := Option.some.inj stepped
      simp only [asyncRecv] at recorded
      cases decoded : decodeRegistration msg with
      | error refusal =>
          simp only [decoded] at recorded
          exact .inl recorded
      | ok path =>
          simp only [decoded, register] at recorded
          rcases emplace_eq_some recorded with before | ⟨rfl, rfl⟩
          · exact .inl before
          · exact .inr ⟨rfl, decoded⟩
  | disconnect lost =>
      have gone := pipeEvent_lost (step_disconnect stepped).2
      rw [gone.registrationMap, erase_eq_some] at recorded
      exact .inl recorded.2
  | drain dials => exact .inl (registrationMap_manage stepped recorded)

/-- A registration of a free URI, drained with a successful dial, is answered
with 200 and opens the route for its pipe. -/
theorem register_again {queryID : QueryID} {pipeID : PipeID} {uri msg : Bytes}
    (free : services.map uri = none) (drained : services.routeOpen = [])
    (decoded : decodeRegistration msg = .ok uri) (fits : uri.length ≤ maxKeySize) :
    ∃ next route,
      run step services [.receive queryID pipeID msg, .drain fun _ => .ok] =
        some next ∧
      next.map uri = some route ∧ route.opener = pipeID ∧
      .settled ⟨queryID, pipeID, uri⟩ .ok
        (uri ++ ascii "\nEnrolled with this URI.") ∈ next.answers := by
  have received : services.asyncRecv queryID pipeID msg =
      services.register queryID pipeID uri := by
    simp [asyncRecv, decoded]
  obtain ⟨map, _, routeOpen, _, _⟩ :=
    closeRoutes_same (services.register queryID pipeID uri)
  have queue : (services.register queryID pipeID uri).closeRoutes.routeOpen =
      [⟨queryID, pipeID, uri⟩] := by
    rw [routeOpen]
    simp [register, drained]
  have absent : (services.register queryID pipeID uri).closeRoutes.map uri =
      none := by
    rw [map]
    exact free
  obtain ⟨next, turned, entered, answers, _⟩ :=
    @openRoute_enters { (services.register queryID pipeID uri).closeRoutes with
      routeOpen := [] } ⟨queryID, pipeID, uri⟩ absent fits
  refine ⟨next, _, ?_, entered, rfl, ?_⟩
  · simp [run, step, received, manage, queue, openRoutes, turned]
  · rw [answers]
    exact List.mem_append_right _ (List.mem_singleton_self _)

/-! ## No orphan routes -/

/-- What is recorded for a pipe was registered through it in the run. -/
theorem registered_of_run {address uri : Bytes} {labels : List Label}
    {final : Services} (reached : run step (initial address) labels = some final) :
    ∀ pipeID, final.registrationMap pipeID = some uri →
      ∃ label ∈ labels, Registers pipeID uri label := by
  refine run_induction (fun labels current => ∀ pipeID,
    current.registrationMap pipeID = some uri →
      ∃ label ∈ labels, Registers pipeID uri label) ?_ ?_ (meets_true _ _) reached
  · simp [initial]
  · intro labels current label next _ earlier _ stepped pipeID recorded
    rcases registered_of_recorded stepped recorded with before | now
    · obtain ⟨past, member, registers⟩ := earlier pipeID before
      exact ⟨past, by simp [member], registers⟩
    · exact ⟨label, by simp, now⟩

/-- Every orderly run comes to its end without orphan routes in any state.  So once all
pipes that registered a URI are gone and the queue is drained, the URI is not routed,
and it can be registered again if it fits into the map. -/
theorem noOrphan_of_orderly (address : Bytes) (labels : List Label)
    (orderly : Meets step Orderly (initial address) labels) :
    ∃ final, run step (initial address) labels = some final ∧
      Along step NoOrphan (initial address) labels ∧
      ∀ uri, (∀ pipeID, (∃ label ∈ labels, Registers pipeID uri label) →
          pipeID ∈ final.disconnected) →
        final.routeOpen = [] →
        final.map uri = none ∧
          ∀ queryID pipeID msg, decodeRegistration msg = .ok uri →
            uri.length ≤ maxKeySize →
            ∃ next route,
              run step final [.receive queryID pipeID msg, .drain fun _ => .ok] =
                some next ∧
              next.map uri = some route ∧ route.opener = pipeID ∧
              .settled ⟨queryID, pipeID, uri⟩ .ok
                (uri ++ ascii "\nEnrolled with this URI.") ∈ next.answers := by
  obtain ⟨final, reached, owned⟩ := run_of_meets Owned
    (fun _ _ owned orderly => by
      obtain ⟨next, stepped⟩ := orderly.possible
      exact ⟨next, stepped, owned.step orderly stepped⟩)
    (owned_initial address) orderly
  refine ⟨final, reached, ?_, fun uri allGone drained => ?_⟩
  · exact along_of_meets Owned (fun _ owned => owned.routed)
      (fun _ _ _ owned condition stepped => owned.step condition stepped)
      (owned_initial address) orderly
  · have free : final.map uri = none := by
      cases found : final.map uri with
      | none => rfl
      | some route =>
          obtain ⟨alive, recorded⟩ := owned.routed uri route found
          exact absurd (allGone _ (registered_of_run reached _ recorded)) alive
    exact ⟨free, fun queryID pipeID msg decoded fits =>
      register_again free drained decoded fits⟩

/-- A registration request for the URI `/a`. -/
def requestA : Bytes := ascii "POST *services Tell/0\n\n/a\n/a"

/-- A service registers, is enrolled, and leaves. -/
def visit : List Label :=
  [.receive 7 1 requestA, .drain fun _ => .ok, .disconnect 1,
    .drain fun _ => .ok]

theorem noOrphan_of_orderly_visit :
    ∃ final, run step (initial []) visit = some final ∧
      Along step NoOrphan (initial []) visit ∧
      final.map (ascii "/a") = none := by
  have summary : (run step (initial []) visit).map
      (fun final => (final.disconnected, final.routeOpen)) = some ([1], []) := by
    decide +kernel
  obtain ⟨final, reached, along, freed⟩ :=
    noOrphan_of_orderly [] visit (by decide +kernel)
  rw [reached, Option.map_some, Option.some.injEq] at summary
  obtain ⟨gone, drained⟩ := Prod.mk.inj summary
  refine ⟨final, reached, along, (freed (ascii "/a") ?_ drained).1⟩
  rintro pipeID ⟨label, member, registers⟩
  simp only [visit, List.mem_cons, List.not_mem_nil, or_false] at member
  rcases member with rfl | rfl | rfl | rfl
  · simp [gone, ← registers.1]
  all_goals exact registers.elim

/-- A service that is lost between its registration and the next pass of the
management thread leaves a route behind. -/
theorem orphan_of_early_disconnect :
    ∃ final, run step (initial []) [.receive 7 1 requestA, .disconnect 1,
        .drain fun _ => .ok] = some final ∧
      (∃ route, final.map (ascii "/a") = some route ∧
        route.opener ∈ final.disconnected) ∧
      ¬final.NoOrphan := by
  have summary : (run step (initial []) [.receive 7 1 requestA, .disconnect 1,
      .drain fun _ => .ok]).map (fun final =>
        ((final.map (ascii "/a")).map Route.opener, final.disconnected)) =
          some (some 1, [1]) := by
    decide +kernel
  obtain ⟨final, reached, equal⟩ := Option.map_eq_some_iff.mp summary
  obtain ⟨routed, gone⟩ := Prod.mk.inj equal
  obtain ⟨route, found, opener⟩ := Option.map_eq_some_iff.mp routed
  have lost : route.opener ∈ final.disconnected := by simp [gone, opener]
  exact ⟨final, reached, ⟨route, found, lost⟩,
    fun noOrphan => (noOrphan _ route found).1 lost⟩

end Services

end Telling.Server
