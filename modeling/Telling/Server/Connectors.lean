import Telling.Server.Ownership

/-!
# The dialers of the publish relay

The server's subscriber dials every service it enrolls, at the address derived
from the service's URI.  When a route is closed the management thread passes the
URI itself to `disconnect`, which takes it for an address.  The connector of the
route stays, unless the URI is enrolled again in the same pass.
-/

namespace Telling.Server

open Lib Msg

theorem pubSubAddress_injective {left right : Bytes}
    (same : pubSubAddress left = pubSubAddress right) : left = right :=
  inProc_address_injective (by simp [servicePatterns]) same

namespace Services

/-! ## Where routes are filed -/

/-- Routes are filed under their paths, in the map or among the routes to be
closed, and each path is in one place only. -/
structure Filed (services : Services) : Prop where
  mapped : ∀ uri route, services.map uri = some route → route.path = uri
  apart : ∀ route ∈ services.routeClose, services.map route.path = none
  distinct : (services.routeClose.map Route.path).Nodup

theorem filed_initial (address : Bytes) : (initial address).Filed := by
  constructor <;> simp [initial]

variable {services next : Services}

theorem openRoute_routeClose {spec : NewRoute} {dial : Dial}
    (returned : services.openRoute spec dial = some next) :
    next.routeClose = services.routeClose := by
  cases openRoute_turned returned <;> rfl

theorem Opened.mapped {spec : NewRoute} (opened : Opened services spec next)
    (mapped : ∀ uri route, services.map uri = some route → route.path = uri) :
    ∀ uri route, next.map uri = some route → route.path = uri := by
  intro uri route found
  cases opened with
  | refused _ _ _ map _ _ => exact mapped uri route (map ▸ found)
  | opened added _ path _ map _ _ =>
      rw [map] at found
      rcases update_eq_some found with before | ⟨rfl, rfl⟩
      · exact mapped uri route before
      · exact path

/-- The pass of the management thread, from the closed routes on. -/
theorem Filed.manage (filed : services.Filed) {dials : Nat → Dial}
    (passed : services.manage dials = some next) :
    next.Filed ∧ next.routeOpen = [] ∧ next.routeClose = [] := by
  have same := closeRoutes_same services
  obtain ⟨⟨mapped, noneClosing⟩, noneQueued⟩ := manage_induction
    (fun current => (∀ uri route, current.map uri = some route → route.path = uri) ∧
      current.routeClose = [])
    (fun _ _ _ _ _ _ ⟨mapped, noneClosing⟩ returned =>
      ⟨(openRoute_opened returned).1.mapped mapped,
        (openRoute_routeClose returned).trans noneClosing⟩)
    ⟨by rw [same.map]; exact filed.mapped, rfl⟩ passed
  exact ⟨⟨mapped, by simp [noneClosing], by simp [noneClosing]⟩, noneQueued, noneClosing⟩

/-- What the loss of a pipe does to the routes: nothing, or it moves one of them
to those that are to be closed. -/
theorem pipeEvent_cases {pipeID : PipeID} (lost : services.pipeEvent pipeID = some next) :
    (next.map = services.map ∧ next.routeClose = services.routeClose) ∨
      ∃ path route, services.map path = some route ∧
        next.map = erase services.map path ∧
        next.routeClose = services.routeClose ++ [route] := by
  obtain ⟨path, _, rfl⟩ := pipeEvent_eq_some lost
  cases found : services.map path with
  | none => exact .inl ⟨erase_of_none found, by simp⟩
  | some route => exact .inr ⟨path, route, found, rfl, by simp⟩

theorem Filed.pipeEvent (filed : services.Filed) {pipeID : PipeID}
    (lost : services.pipeEvent pipeID = some next) : next.Filed := by
  rcases pipeEvent_cases lost with
    ⟨map, routeClose⟩ | ⟨path, route, found, map, routeClose⟩
  · exact ⟨map ▸ filed.mapped, by rw [map, routeClose]; exact filed.apart,
      routeClose ▸ filed.distinct⟩
  · have pathEq := filed.mapped path route found
    refine ⟨?_, ?_, ?_⟩
    · intro uri other found'
      rw [map, erase_eq_some] at found'
      exact filed.mapped uri other found'.2
    · rw [map, routeClose, List.forall_mem_append, List.forall_mem_singleton]
      refine ⟨fun other member => ?_, by rw [pathEq, erase_self]⟩
      by_cases same : other.path = path
      · rw [same, erase_self]
      · rw [erase_of_ne same]
        exact filed.apart other member
    · rw [routeClose, List.map_append, List.nodup_append]
      refine ⟨filed.distinct, by simp, ?_⟩
      rintro _ member _ new rfl
      obtain ⟨other, closing, equal⟩ := List.mem_map.mp member
      have absent := filed.apart other closing
      rw [equal, List.mem_singleton.mp new, pathEq, found] at absent
      contradiction

theorem Filed.asyncRecv (filed : services.Filed) (queryID : Io.QueryID)
    (pipeID : PipeID) (msg : Bytes) :
    (services.asyncRecv queryID pipeID msg).Filed := by
  unfold Services.asyncRecv
  split <;> exact ⟨filed.mapped, filed.apart, filed.distinct⟩

theorem Filed.step (filed : services.Filed) {label : Label}
    (stepped : services.step label = some next) : next.Filed := by
  cases label with
  | receive queryID pipeID msg =>
      exact Option.some.inj stepped ▸ filed.asyncRecv queryID pipeID msg
  | disconnect pipeID => exact filed.pipeEvent (step_disconnect stepped).2
  | drain dials => exact (filed.manage stepped).1

/-! ## Connectors -/

/-- The steps of runs in which every dial succeeds. -/
inductive Event where
  | receive (queryID : Io.QueryID) (pipeID : PipeID) (msg : Bytes)
  | disconnect (pipeID : PipeID)
  | pass

def Event.label : Event → Label
  | .receive queryID pipeID msg => .receive queryID pipeID msg
  | .disconnect pipeID => .disconnect pipeID
  | .pass => .drain fun _ => .ok

def happen (services : Services) (event : Event) : Option Services :=
  services.step event.label

/-- While nothing waits for the management thread, the connectors are the internal
address and the addresses of the routed services. -/
def Tracks (addressInternal : Bytes) (services : Services) : Prop :=
  services.routeOpen = [] → services.routeClose = [] →
    ∀ key, (services.connectors key).isSome ↔
      key = pubSubAddress addressInternal ∨
        ∃ uri, (services.map uri).isSome ∧ key = pubSubAddress uri

/-- A queued registration asks for the URI. -/
def Renews (services : Services) (uri : Bytes) : Prop :=
  ∃ spec ∈ services.routeOpen, spec.mapUri = uri

instance (services : Services) (uri : Bytes) : Decidable (services.Renews uri) :=
  inferInstanceAs (Decidable (∃ spec ∈ services.routeOpen, _))

/-- The name in a text that is the address of a subscriber. -/
def addressed (text : Bytes) : Bytes :=
  slice (ascii "inproc://").length
    (text.length - (ascii "inproc://").length - (ascii ".sub").length) text

theorem addressed_pubSubAddress (uri : Bytes) : addressed (pubSubAddress uri) = uri := by
  refine slice_middle (ascii "inproc://") uri (ascii ".sub") (pubSubAddress_eq uri) rfl ?_
  simp only [pubSubAddress_eq, List.length_append]
  omega

/-- The route that is closed leaves no connector behind, because its URI is
enrolled again or its connector is not its own or is erased by accident; and the
text that is erased in its name is not the address of a connector in use. -/
def ClosesCleanly (addressInternal : Bytes) (services : Services) (route : Route) :
    Prop :=
  (route.path = addressInternal ∨ services.Renews route.path ∨
      ∃ other ∈ services.routeClose, other.path = pubSubAddress route.path) ∧
    (route.path = pubSubAddress (addressed route.path) →
      services.map (addressed route.path) = none ∧
        (addressed route.path = addressInternal →
          services.Renews (addressed route.path)))

/-- Each route that a pass closes is closed cleanly. -/
def PassesCleanly (addressInternal : Bytes) (services : Services) : Event → Prop
  | .pass => ∀ route ∈ services.routeClose, services.ClosesCleanly addressInternal route
  | _ => True

instance (addressInternal : Bytes) (services : Services) (route : Route) :
    Decidable (services.ClosesCleanly addressInternal route) :=
  inferInstanceAs (Decidable (_ ∧ (_ → _)))

instance (addressInternal : Bytes) (services : Services) :
    (event : Event) → Decidable (services.PassesCleanly addressInternal event)
  | .pass => inferInstanceAs (Decidable (∀ route ∈ services.routeClose, _))
  | .receive _ _ _ | .disconnect _ => isTrue trivial

section Passes

variable {spec : NewRoute}

/-- What a turn of the loop over `route_open` adds. -/
theorem openRoute_ok_map (returned : services.openRoute spec .ok = some next)
    (uri : Bytes) :
    (next.map uri).isSome ↔ (services.map uri).isSome ∨ spec.mapUri = uri := by
  cases openRoute_turned returned with
  | conflict route found =>
      refine ⟨.inl, fun either => either.elim id fun equal => ?_⟩
      exact equal ▸ Option.isSome_of_eq_some found
  | abandoned _ _ _ _ notOk => exact absurd rfl notOk
  | opened absent _ =>
      have entered : (emplace services.map spec.mapUri (services.newRoute spec)
          uri).isSome ↔ _ := isSome_emplace
      rw [emplace_of_none absent] at entered
      exact entered.trans (or_congr_right eq_comm)

theorem openRoute_ok_connectors (returned : services.openRoute spec .ok = some next)
    (key : Bytes) :
    (next.connectors key).isSome ↔
      (services.connectors key).isSome ∨
        services.map spec.mapUri = none ∧ key = pubSubAddress spec.mapUri := by
  cases openRoute_turned returned with
  | conflict route found => simp [conflict, found]
  | abandoned _ _ _ _ notOk => exact absurd rfl notOk
  | opened absent _ =>
      rw [and_iff_right absent]
      exact isSome_emplace

/-- What the whole loop adds when every dial succeeds. -/
theorem openRoutes_ok_map (queue : List NewRoute) (uri : Bytes) :
    (services : Services) → openRoutes queue (fun _ => .ok) services = some next →
    ((next.map uri).isSome ↔
      (services.map uri).isSome ∨ ∃ spec ∈ queue, spec.mapUri = uri) := by
  induction queue with
  | nil =>
      intro services returned
      obtain rfl := Option.some.inj returned
      simp
  | cons spec queue ih =>
      intro services returned
      simp only [openRoutes] at returned
      split at returned
      · contradiction
      · next middle turned =>
          rw [ih middle returned, openRoute_ok_map turned, List.exists_mem_cons_iff,
            or_assoc]

theorem openRoutes_ok_connectors (queue : List NewRoute) (key : Bytes) :
    (services : Services) → openRoutes queue (fun _ => .ok) services = some next →
    ((next.connectors key).isSome ↔
      (services.connectors key).isSome ∨ ∃ spec ∈ queue,
        services.map spec.mapUri = none ∧ key = pubSubAddress spec.mapUri) := by
  induction queue with
  | nil =>
      intro services returned
      obtain rfl := Option.some.inj returned
      simp
  | cons spec queue ih =>
      intro services returned
      simp only [openRoutes] at returned
      split at returned
      · contradiction
      · next middle turned =>
          have turnMap : ∀ uri, middle.map uri = none ↔
              services.map uri = none ∧ spec.mapUri ≠ uri := by
            intro uri
            rw [← Option.not_isSome_iff_eq_none, openRoute_ok_map turned, not_or,
              Option.not_isSome_iff_eq_none]
          rw [ih middle returned, openRoute_ok_connectors turned,
            List.exists_mem_cons_iff, or_assoc]
          refine or_congr_right ⟨?_, ?_⟩
          · rintro (first | ⟨other, member, absent, equal⟩)
            · exact .inl first
            · exact .inr ⟨other, member, ((turnMap _).mp absent).1, equal⟩
          · rintro (first | ⟨other, member, absent, equal⟩)
            · exact .inl first
            · by_cases same : spec.mapUri = other.mapUri
              · exact .inl ⟨same ▸ absent, same ▸ equal⟩
              · exact .inr ⟨other, member, (turnMap _).mpr ⟨absent, same⟩, equal⟩

theorem foldl_closeRoute_connectors (routes : List Route) (key : Bytes) :
    (services : Services) →
    (((routes.foldl closeRoute services).connectors key).isSome ↔
      (services.connectors key).isSome ∧ ∀ route ∈ routes, route.path ≠ key) := by
  induction routes with
  | nil => simp
  | cons route routes ih =>
      intro services
      have turn : ((services.closeRoute route).connectors key).isSome ↔
          key ≠ route.path ∧ (services.connectors key).isSome := isSome_erase
      rw [List.foldl_cons, ih, turn, List.forall_mem_cons,
        and_comm (a := key ≠ route.path), and_assoc, ne_comm]

/-- What the loop over `route_close` takes away. -/
theorem closeRoutes_connectors (services : Services) (key : Bytes) :
    (services.closeRoutes.connectors key).isSome ↔
      (services.connectors key).isSome ∧
        ∀ route ∈ services.routeClose, route.path ≠ key :=
  foldl_closeRoute_connectors services.routeClose key services

/-- The routes after a pass in which every dial succeeds. -/
theorem pass_map (passed : services.manage (fun _ => .ok) = some next) (uri : Bytes) :
    (next.map uri).isSome ↔ (services.map uri).isSome ∨ services.Renews uri := by
  have same := closeRoutes_same services
  rw [openRoutes_ok_map _ uri _ passed, same.map, same.routeOpen, Renews]

/-- The connectors after such a pass. -/
theorem pass_connectors (passed : services.manage (fun _ => .ok) = some next)
    (key : Bytes) :
    (next.connectors key).isSome ↔
      ((services.connectors key).isSome ∧
        ∀ route ∈ services.routeClose, route.path ≠ key) ∨
      ∃ uri, services.Renews uri ∧ services.map uri = none ∧
        key = pubSubAddress uri := by
  have same := closeRoutes_same services
  rw [openRoutes_ok_connectors _ key _ passed, closeRoutes_connectors, same.map,
    same.routeOpen]
  refine or_congr_right ⟨?_, ?_⟩
  · rintro ⟨spec, member, absent, equal⟩
    exact ⟨spec.mapUri, ⟨spec, member, rfl⟩, absent, equal⟩
  · rintro ⟨_, ⟨spec, member, rfl⟩, absent, equal⟩
    exact ⟨spec, member, absent, equal⟩

end Passes

/-- The connectors are those of the internal address, of the routed services and of
the routes that are to be closed. -/
def Dialed (addressInternal : Bytes) (services : Services) : Prop :=
  ∀ key, (services.connectors key).isSome ↔
    key = pubSubAddress addressInternal ∨
      ∃ uri, ((services.map uri).isSome ∨ ∃ route ∈ services.routeClose,
        route.path = uri) ∧ key = pubSubAddress uri

variable {addressInternal : Bytes}

theorem dialed_initial : (initial addressInternal).Dialed addressInternal := by
  intro key
  simp [initial, isSome_emplace]

theorem Dialed.tracks (dialed : services.Dialed addressInternal) :
    services.Tracks addressInternal := by
  intro _ noneClosing key
  simpa [noneClosing] using dialed key

theorem Dialed.pipeEvent (dialed : services.Dialed addressInternal)
    (filed : services.Filed) {pipeID : PipeID}
    (lost : services.pipeEvent pipeID = some next) : next.Dialed addressInternal := by
  have connectors : next.connectors = services.connectors := by
    obtain ⟨_, _, rfl⟩ := pipeEvent_eq_some lost
    rfl
  intro key
  rw [connectors, dialed key]
  refine or_congr_right (exists_congr fun uri => and_congr_left fun _ => ?_)
  rcases pipeEvent_cases lost with
    ⟨map, routeClose⟩ | ⟨path, route, found, map, routeClose⟩
  · rw [map, routeClose]
  · have pathEq := filed.mapped path route found
    rw [map, routeClose, isSome_erase]
    by_cases same : uri = path
    · simp [same, found, pathEq]
    · have other : path ≠ uri := fun equal => same equal.symm
      simp [same, pathEq, other, or_and_right, exists_or]

theorem Dialed.asyncRecv (dialed : services.Dialed addressInternal)
    (queryID : Io.QueryID) (pipeID : PipeID) (msg : Bytes) :
    (services.asyncRecv queryID pipeID msg).Dialed addressInternal := by
  unfold Services.asyncRecv
  split <;> exact dialed

theorem ClosesCleanly.spares {route : Route} {uri : Bytes}
    (cleanly : services.ClosesCleanly addressInternal route)
    (address : route.path = pubSubAddress uri) :
    services.map uri = none ∧ (uri = addressInternal → services.Renews uri) := by
  have spares := cleanly.2
  rw [address, addressed_pubSubAddress] at spares
  exact spares rfl

/-- A clean pass leaves the connectors of the routes. -/
theorem Dialed.pass (dialed : services.Dialed addressInternal)
    (cleanly : ∀ route ∈ services.routeClose,
      services.ClosesCleanly addressInternal route)
    (passed : services.manage (fun _ => .ok) = some next) (key : Bytes) :
    (next.connectors key).isSome ↔
      key = pubSubAddress addressInternal ∨
        ∃ uri, (next.map uri).isSome ∧ key = pubSubAddress uri := by
  simp only [pass_map passed]
  rw [pass_connectors passed, dialed key]
  constructor
  · rintro (⟨internal | ⟨uri, routed | ⟨route, closing, path⟩, equal⟩, spared⟩ |
      ⟨uri, renews, _, equal⟩)
    · exact .inl internal
    · exact .inr ⟨uri, .inl routed, equal⟩
    · rcases (cleanly route closing).1 with internal | renews | ⟨other, closing', erased⟩
      · exact .inl (by rw [equal, ← path, internal])
      · exact .inr ⟨uri, .inr (path ▸ renews), equal⟩
      · exact absurd (by rw [erased, path, equal]) (spared other closing')
    · exact .inr ⟨uri, .inr renews, equal⟩
  · by_cases spared : ∀ route ∈ services.routeClose, route.path ≠ key
    · rintro (internal | ⟨uri, routed | renews, equal⟩)
      · exact .inl ⟨.inl internal, spared⟩
      · exact .inl ⟨.inr ⟨uri, .inl routed, equal⟩, spared⟩
      · cases found : services.map uri with
        | none => exact .inr ⟨uri, renews, found, equal⟩
        | some route =>
            exact .inl ⟨.inr ⟨uri, .inl (by rw [found]; rfl), equal⟩, spared⟩
    · obtain ⟨route, closing, erased⟩ :
          ∃ route ∈ services.routeClose, route.path = key := by simpa using spared
      rintro (internal | ⟨uri, routed | renews, equal⟩)
      · obtain ⟨absent, renews⟩ :=
          (cleanly route closing).spares (erased.trans internal)
        exact .inr ⟨addressInternal, renews rfl, absent, internal⟩
      · have absent := ((cleanly route closing).spares (erased.trans equal)).1
        rw [absent] at routed
        contradiction
      · have absent := ((cleanly route closing).spares (erased.trans equal)).1
        exact .inr ⟨uri, renews, absent, equal⟩

/-- A pass after which the connectors track the routes was clean. -/
theorem cleanly_of_tracks (dialed : services.Dialed addressInternal)
    (filed : services.Filed) (passed : services.manage (fun _ => .ok) = some next)
    (tracks : next.Tracks addressInternal) :
    ∀ route ∈ services.routeClose, services.ClosesCleanly addressInternal route := by
  obtain ⟨_, noneQueued, noneClosing⟩ := filed.manage passed
  have keys := tracks noneQueued noneClosing
  simp only [pass_map passed, pass_connectors passed] at keys
  intro route closing
  have absent := filed.apart route closing
  refine ⟨?_, fun address => ⟨?_, fun internal => ?_⟩⟩
  · by_contra other
    rw [not_or, not_or] at other
    obtain ⟨notInternal, notRenewed, notErased⟩ := other
    have dialedKey : (services.connectors (pubSubAddress route.path)).isSome :=
      (dialed _).mpr (.inr ⟨route.path, .inr ⟨route, closing, rfl⟩, rfl⟩)
    rcases (keys _).mp (.inl ⟨dialedKey, fun other closing' equal =>
        notErased ⟨other, closing', equal⟩⟩) with
      internal | ⟨uri, routed | renews, equal⟩
    · exact notInternal (pubSubAddress_injective internal)
    · rw [← pubSubAddress_injective equal, absent] at routed
      contradiction
    · exact notRenewed (pubSubAddress_injective equal ▸ renews)
  · -- the erased connector belongs to a routed service and is not made again
    by_contra routed
    have isRouted := Option.isSome_iff_ne_none.mpr routed
    rcases (keys route.path).mpr (.inr ⟨_, .inl isRouted, address⟩) with
      ⟨_, spared⟩ | ⟨uri, _, absent', equal⟩
    · exact spared route closing rfl
    · rw [pubSubAddress_injective (address.symm.trans equal)] at routed
      exact routed absent'
  · rcases (keys route.path).mpr (.inl (internal ▸ address)) with
      ⟨_, spared⟩ | ⟨uri, renews, _, equal⟩
    · exact absurd rfl (spared route closing)
    · rw [pubSubAddress_injective (address.symm.trans equal)]
      exact renews

/-- The connectors of the publish relay track the routing table exactly in the runs
in which every pass of the management thread is clean. -/
theorem tracks_iff_passesCleanly (addressInternal : Bytes) (events : List Event)
    (final : Services)
    (reached : run happen (initial addressInternal) events = some final) :
    Along happen (Tracks addressInternal) (initial addressInternal) events ↔
      Meets happen (PassesCleanly addressInternal) (initial addressInternal) events := by
  refine along_iff_meets
    (fun services => services.Filed ∧ services.Dialed addressInternal)
    (fun _ ⟨_, dialed⟩ => dialed.tracks) ?_ ?_
    ⟨filed_initial addressInternal, dialed_initial⟩ reached
  · rintro services event next ⟨filed, dialed⟩ cleanly stepped
    refine ⟨filed.step stepped, ?_⟩
    cases event with
    | receive queryID pipeID msg =>
        obtain rfl := Option.some.inj stepped
        exact dialed.asyncRecv queryID pipeID msg
    | disconnect pipeID =>
        exact dialed.pipeEvent filed (step_disconnect stepped).2
    | pass =>
        intro key
        rw [dialed.pass cleanly stepped key]
        simp [(filed.manage stepped).2.2]
  · rintro services event next ⟨filed, dialed⟩ uncleanly stepped tracks
    cases event with
    | pass => exact uncleanly (cleanly_of_tracks dialed filed stepped tracks)
    | _ => exact uncleanly trivial

/-- A service that loses its connection is enrolled again before the management
thread has closed its route. -/
def reconnection : List Event :=
  [.receive 1 10 (enrollment "/a"), .pass, .disconnect 10,
    .receive 2 11 (enrollment "/a"), .pass]

theorem tracks_reconnection :
    (run happen (initial (ascii "s")) reconnection).map
        (fun final => (final.connectors (pubSubAddress (ascii "/a"))).isSome) =
      some true ∧
    Along happen (Tracks (ascii "s")) (initial (ascii "s")) reconnection := by
  have summary : (run happen (initial (ascii "s")) reconnection).map
        (fun final => (final.connectors (pubSubAddress (ascii "/a"))).isSome) =
      some true := by
    decide +kernel
  obtain ⟨final, reached, _⟩ := Option.map_eq_some_iff.mp summary
  exact ⟨summary, (tracks_iff_passesCleanly (ascii "s") reconnection final reached).mpr
    (by decide +kernel)⟩

/-- Enrolling a service and disconnecting it leaves its connector behind. -/
theorem connector_left_behind :
    ∃ final, run happen (initial (ascii "s"))
        [.receive 1 10 (enrollment "/a"), .pass, .disconnect 10, .pass] = some final ∧
      final.map (ascii "/a") = none ∧
      (final.connectors (ascii "inproc:///a.sub")).isSome ∧
      ¬final.Tracks (ascii "s") := by
  have summary : (run happen (initial (ascii "s"))
        [.receive 1 10 (enrollment "/a"), .pass, .disconnect 10, .pass]).map
      (fun final => ((final.routeOpen, final.routeClose), final.map (ascii "/a"),
        (final.connectors (ascii "inproc:///a.sub")).isSome)) =
      some (([], []), none, true) := by
    decide +kernel
  obtain ⟨final, reached, equal⟩ := Option.map_eq_some_iff.mp summary
  simp only [Prod.mk.injEq] at equal
  obtain ⟨⟨noneQueued, noneClosing⟩, unrouted, dialed⟩ := equal
  refine ⟨final, reached, unrouted, dialed, fun tracks => ?_⟩
  have address : ascii "inproc:///a.sub" = pubSubAddress (ascii "/a") := by
    decide +kernel
  rcases (tracks noneQueued noneClosing _).mp dialed with internal | ⟨uri, routed, same⟩
  · exact absurd internal (by decide +kernel)
  · rw [← pubSubAddress_injective (address.symm.trans same), unrouted] at routed
    contradiction

end Services

end Telling.Server
