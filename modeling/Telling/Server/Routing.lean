import Mathlib.Data.List.Nodup
import Telling.Server.Ledger

/-!
# Routes as objects

The directory holds pointers: the values of the map and the entries of
`route_close`.  A route is constructed by the management thread and destroyed by it
in a later pass.  Every pointer that is followed leads to a route that exists, and no
route is destroyed twice, whatever registrations, losses of pipes and passes come in
which order.  Only the routes whose services could not be dialed are never destroyed.
-/

namespace Telling.Server

open Lib Msg

namespace Services

/-! ## The longest prefix -/

/-- The route is filed under the longest key that is an initial part of the path. -/
def LongestPrefix (services : Services) (path : Bytes) (route : Route) : Prop :=
  ∃ key, key <+: path ∧ services.map key = some route ∧
    ∀ other, other <+: path → (services.map other).isSome → other.length ≤ key.length

variable {services next : Services}

theorem route_eq_some_iff {path : Bytes} {route : Route} :
    services.route path = some route ↔ services.LongestPrefix path route := by
  rw [Services.route, findSome_downward_eq_some_iff]
  constructor
  · rintro ⟨length, inside, found, longer⟩
    refine ⟨path.take length, List.take_prefix _ _, found, fun other initial present => ?_⟩
    rw [List.length_take_of_le inside]
    by_contra beyond
    have absent := longer other.length initial.length_le (Nat.lt_of_not_le beyond)
    rw [← List.prefix_iff_eq_take.mp initial] at absent
    simp [absent] at present
  · rintro ⟨key, initial, found, longest⟩
    refine ⟨key.length, initial.length_le, ?_, fun length inside beyond => ?_⟩
    · rw [← List.prefix_iff_eq_take.mp initial]
      exact found
    · by_contra present
      have shorter := longest (path.take length) (List.take_prefix _ _)
        (Option.isSome_iff_ne_none.mpr present)
      rw [List.length_take_of_le inside] at shorter
      exact absurd beyond (Nat.not_lt_of_le shorter)

theorem route_eq_none_iff {path : Bytes} :
    services.route path = none ↔ ∀ key, key <+: path → services.map key = none := by
  rw [Services.route, findSome_downward_eq_none_iff]
  constructor
  · intro absent key initial
    rw [List.prefix_iff_eq_take.mp initial]
    exact absent key.length initial.length_le
  · intro absent length _
    exact absent _ (List.take_prefix _ _)

/-! ## Pointers -/

/-- The dials of the route failed after it had been constructed, and the registration it
was constructed for was answered with 503. -/
def Abandoned (services : Services) (route : Route) : Prop :=
  ∃ queryID body, (route, queryID) ∈ services.abandoned ∧
    Answer.settled ⟨queryID, route.opener, route.path⟩ .serviceUnavailable body ∈
      services.answers

/-- The pointers of the directory lead to routes that exist, and a route that exists can
be looked up, waits to be destroyed, or was abandoned. -/
structure Tracked (services : Services) : Prop where
  lookedUp : ∀ uri route, services.map uri = some route → route ∈ services.liveRoutes
  destroyed : ∀ route ∈ services.routeClose, route ∈ services.liveRoutes
  placed : ∀ route ∈ services.liveRoutes, services.map route.path = some route ∨
    route ∈ services.routeClose ∨ services.Abandoned route

/-- In addition, a route that waits to be destroyed waits once and cannot be looked up any
more. -/
structure PointersSafe (services : Services) : Prop extends Tracked services where
  once : services.routeClose.Nodup
  unreachable : ∀ route ∈ services.routeClose, ∀ uri, services.map uri ≠ some route

/-- What carries the safety of the pointers: routes are filed, no two routes that exist
have the same address, and the next one is a new one. -/
structure Kept (services : Services) : Prop extends Tracked services where
  filed : services.Filed
  distinct : (services.liveRoutes.map Route.serial).Nodup
  fresh : ∀ route ∈ services.liveRoutes, route.serial < services.allocated

theorem Kept.safe (kept : services.Kept) : services.PointersSafe where
  toTracked := kept.toTracked
  once := List.Nodup.of_map _ kept.filed.distinct
  unreachable route closing uri found := by
    have absent := kept.filed.apart route closing
    rw [kept.filed.mapped uri route found, found] at absent
    contradiction

theorem kept_initial (address : Bytes) : (initial address).Kept where
  lookedUp := by simp [initial]
  destroyed := by simp [initial]
  placed := by simp [initial]
  filed := filed_initial address
  distinct := by simp [initial]
  fresh := by simp [initial]

/-- Nothing that was answered is taken back, and what was abandoned stays so. -/
theorem Abandoned.of_answers {route : Route} {answers : List Answer}
    {more : List (Route × Io.QueryID)} (abandoned : services.Abandoned route)
    (grown : next.answers = services.answers ++ answers)
    (left : next.abandoned = services.abandoned ++ more) : next.Abandoned route := by
  obtain ⟨queryID, body, failed, answered⟩ := abandoned
  exact ⟨queryID, body, left ▸ List.mem_append_left _ failed,
    grown ▸ List.mem_append_left _ answered⟩

/-- Registration requests touch no route. -/
theorem Kept.asyncRecv (kept : services.Kept) (queryID : Io.QueryID) (pipeID : PipeID)
    (msg : Bytes) : (services.asyncRecv queryID pipeID msg).Kept := by
  have filed := kept.filed.asyncRecv queryID pipeID msg
  unfold Services.asyncRecv at filed ⊢
  cases decoded : decodeRegistration msg with
  | error refusal =>
      rw [decoded] at filed
      refine ⟨⟨kept.lookedUp, kept.destroyed, fun route live => ?_⟩, filed, kept.distinct,
        kept.fresh⟩
      apply (kept.placed route live).imp_right
      apply Or.imp_right
      exact fun left => left.of_answers rfl (List.append_nil _).symm
  | ok uri =>
      rw [decoded] at filed
      exact ⟨⟨kept.lookedUp, kept.destroyed, kept.placed⟩, filed, kept.distinct, kept.fresh⟩

/-- The loss of a pipe constructs, destroys and abandons nothing. -/
theorem pipeEvent_objects {pipeID : PipeID}
    (lost : services.pipeEvent pipeID = some next) :
    next.liveRoutes = services.liveRoutes ∧ next.allocated = services.allocated ∧
      next.abandoned = services.abandoned := by
  obtain ⟨_, _, rfl⟩ := pipeEvent_eq_some lost
  exact ⟨rfl, rfl, rfl⟩

/-- A pointer that leaves the map is among those to be destroyed from then on. -/
theorem Kept.pipeEvent (kept : services.Kept) {pipeID : PipeID}
    (lost : services.pipeEvent pipeID = some next) : next.Kept := by
  obtain ⟨liveRoutes, allocated, left⟩ := pipeEvent_objects lost
  have answers := (pipeEvent_lost lost).answers
  have abandoned (route : Route) : services.Abandoned route → next.Abandoned route :=
    fun before => before.of_answers (answers.trans (List.append_nil _).symm)
      (left.trans (List.append_nil _).symm)
  refine ⟨⟨?_, ?_, ?_⟩, kept.filed.pipeEvent lost, liveRoutes ▸ kept.distinct, ?_⟩
  · intro uri route found
    rw [liveRoutes]
    exact kept.lookedUp uri route (((pipeEvent_lost lost).map uri route).mp found).1
  · rw [liveRoutes]
    rcases pipeEvent_cases lost with ⟨_, routeClose⟩ | ⟨path, route, found, _, routeClose⟩
    · exact routeClose ▸ kept.destroyed
    · rw [routeClose, List.forall_mem_append, List.forall_mem_singleton]
      exact ⟨kept.destroyed, kept.lookedUp path route found⟩
  · rw [liveRoutes]
    intro route live
    rcases pipeEvent_cases lost with
      ⟨map, routeClose⟩ | ⟨path, lost, found, map, routeClose⟩
    · rw [map, routeClose]
      exact (kept.placed route live).imp_right (.imp_right (abandoned route))
    · rw [map, routeClose]
      rcases kept.placed route live with mapped | closing | answered
      · by_cases same : route.path = path
        · rw [same, found] at mapped
          exact .inr (.inl (by simp [Option.some.inj mapped]))
        · exact .inl (by rw [erase_of_ne same]; exact mapped)
      · exact .inr (.inl (List.mem_append_left _ closing))
      · exact .inr (.inr (abandoned route answered))
  · rw [liveRoutes, allocated]
    exact kept.fresh

/-! ## A pass of the management thread -/

theorem foldl_closeRoute_objects (routes : List Route) :
    (services : Services) →
      (routes.foldl closeRoute services).liveRoutes = services.liveRoutes.diff routes ∧
        (routes.foldl closeRoute services).allocated = services.allocated ∧
        (routes.foldl closeRoute services).abandoned = services.abandoned := by
  induction routes with
  | nil => intro services; exact ⟨rfl, rfl, rfl⟩
  | cons route routes ih =>
      intro services
      obtain ⟨liveRoutes, others⟩ := ih (services.closeRoute route)
      refine ⟨?_, others⟩
      rw [List.foldl_cons, liveRoutes, List.diff_cons]
      rfl

/-- After the loop over `route_close` exactly the routes that waited there are gone. -/
theorem Kept.closeRoutes (kept : services.Kept) : services.closeRoutes.Kept := by
  obtain ⟨liveRoutes, allocated, left⟩ :=
    foldl_closeRoute_objects services.routeClose services
  have same := closeRoutes_same services
  have routes : services.liveRoutes.Nodup := List.Nodup.of_map _ kept.distinct
  have remaining (route : Route) : route ∈ services.closeRoutes.liveRoutes ↔
      route ∈ services.liveRoutes ∧ route ∉ services.routeClose := by
    rw [Services.closeRoutes, liveRoutes, routes.mem_sdiff_iff]
  refine ⟨⟨?_, by simp [Services.closeRoutes], ?_⟩, ⟨same.map ▸ kept.filed.mapped,
    by simp [Services.closeRoutes], by simp [Services.closeRoutes]⟩, ?_, ?_⟩
  · intro uri route found
    rw [same.map] at found
    refine (remaining route).mpr ⟨kept.lookedUp uri route found, fun closing => ?_⟩
    exact kept.safe.unreachable route closing uri found
  · intro route live
    obtain ⟨before, notClosing⟩ := (remaining route).mp live
    rw [same.map]
    rcases kept.placed route before with mapped | closing | answered
    · exact .inl mapped
    · exact absurd closing notClosing
    · exact .inr (.inr (answered.of_answers (same.answers.trans (List.append_nil _).symm)
        (left.trans (List.append_nil _).symm)))
  · rw [Services.closeRoutes, liveRoutes]
    exact kept.distinct.sublist ((List.diff_sublist _ _).map _)
  · intro route live
    rw [Services.closeRoutes, allocated]
    exact kept.fresh route ((remaining route).mp live).1

/-- What one turn of the loop over `route_open` constructs: nothing, a route that is
abandoned, or a route that is entered in the map. -/
inductive Constructed (services : Services) (spec : NewRoute) : Services → Prop where
  | nothing {after : Services} :
      after.map = services.map → after.liveRoutes = services.liveRoutes →
      after.allocated = services.allocated → Constructed services spec after
  | abandoned {after : Services} :
      after.map = services.map →
      after.liveRoutes = services.newRoute spec :: services.liveRoutes →
      after.allocated = services.allocated + 1 →
      after.Abandoned (services.newRoute spec) → Constructed services spec after
  | entered {after : Services} :
      services.map spec.mapUri = none →
      after.map = Function.update services.map spec.mapUri
        (some (services.newRoute spec)) →
      after.liveRoutes = services.newRoute spec :: services.liveRoutes →
      after.allocated = services.allocated + 1 → Constructed services spec after

theorem openRoute_constructed {spec : NewRoute} {dial : Dial}
    (returned : services.openRoute spec dial = some next) :
    Constructed services spec next := by
  cases openRoute_turned returned with
  | conflict route found => exact .nothing rfl rfl rfl
  | unconstructed absent => exact .nothing (erase_of_none absent) rfl rfl
  | abandoned connectors dialings absent =>
      exact .abandoned (erase_update_of_none absent) rfl rfl ⟨spec.queryID, _,
        List.mem_append_right _ (List.mem_singleton_self _),
        List.mem_append_right _ (List.mem_singleton_self _)⟩
  | opened absent _ => exact .entered absent rfl rfl rfl

/-- What was abandoned before a turn stays so. -/
theorem openRoute_abandoned {spec : NewRoute} {dial : Dial}
    (returned : services.openRoute spec dial = some next) {route : Route}
    (before : services.Abandoned route) : next.Abandoned route := by
  obtain ⟨status, body, answers, _⟩ := (openRoute_settled returned).answer
  cases openRoute_turned returned with
  | abandoned => exact before.of_answers answers rfl
  | conflict => exact before.of_answers answers (List.append_nil _).symm
  | unconstructed => exact before.of_answers answers (List.append_nil _).symm
  | opened => exact before.of_answers answers (List.append_nil _).symm

/-- A route that enters the map is new. -/
theorem openRoute_entered {spec : NewRoute} {dial : Dial}
    (returned : services.openRoute spec dial = some next) :
    services.allocated ≤ next.allocated ∧
      ∀ uri route, next.map uri = some route →
        services.map uri = some route ∨ services.allocated ≤ route.serial := by
  cases openRoute_constructed returned with
  | nothing map _ allocated =>
      exact ⟨allocated.ge, fun uri route found => .inl (map ▸ found)⟩
  | abandoned map _ allocated _ =>
      exact ⟨allocated.ge.trans' (Nat.le_succ _), fun uri route found => .inl (map ▸ found)⟩
  | entered _ map _ allocated =>
      refine ⟨allocated.ge.trans' (Nat.le_succ _), fun uri route found => ?_⟩
      rw [map] at found
      rcases update_eq_some found with before | ⟨_, rfl⟩
      · exact .inl before
      · exact .inr (Nat.le_refl _)

/-- A new route has an address of its own. -/
theorem Kept.construct (kept : services.Kept) (spec : NewRoute) :
    ((services.newRoute spec :: services.liveRoutes).map Route.serial).Nodup ∧
      ∀ route ∈ services.newRoute spec :: services.liveRoutes,
        route.serial < services.allocated + 1 := by
  constructor
  · rw [List.map_cons, List.nodup_cons]
    refine ⟨fun member => ?_, kept.distinct⟩
    obtain ⟨route, live, same⟩ := List.mem_map.mp member
    exact absurd (kept.fresh route live) (by simp [same, newRoute])
  · rw [List.forall_mem_cons]
    exact ⟨Nat.lt_succ_self _, fun route live => Nat.lt_succ_of_lt (kept.fresh route live)⟩

theorem Kept.openRoute (kept : services.Kept) (noneClosing : services.routeClose = [])
    {spec : NewRoute} {dial : Dial}
    (returned : services.openRoute spec dial = some next) : next.Kept := by
  have mapped := (openRoute_opened returned).1.mapped kept.filed.mapped
  have closing : next.routeClose = [] := (openRoute_routeClose returned).trans noneClosing
  have placed (route : Route) (live : route ∈ services.liveRoutes) :
      services.map route.path = some route ∨ next.Abandoned route := by
    rcases kept.placed route live with found | waiting | answered
    · exact .inl found
    · simp [noneClosing] at waiting
    · exact .inr (openRoute_abandoned returned answered)
  have filed : next.Filed := ⟨mapped, by simp [closing], by simp [closing]⟩
  obtain ⟨distinct, fresh⟩ := kept.construct spec
  cases openRoute_constructed returned with
  | nothing map liveRoutes allocated =>
      refine ⟨⟨?_, by simp [closing], ?_⟩, filed, liveRoutes ▸ kept.distinct, ?_⟩
      · rw [map, liveRoutes]
        exact kept.lookedUp
      · rw [map, liveRoutes]
        exact fun route live => (placed route live).imp_right .inr
      · rw [liveRoutes, allocated]
        exact kept.fresh
  | abandoned map liveRoutes allocated left =>
      refine ⟨⟨?_, by simp [closing], ?_⟩, filed, liveRoutes ▸ distinct, ?_⟩
      · rw [map, liveRoutes]
        exact fun uri route found => List.mem_cons_of_mem _ (kept.lookedUp uri route found)
      · rw [map, liveRoutes, List.forall_mem_cons]
        exact ⟨.inr (.inr left), fun route live => (placed route live).imp_right .inr⟩
      · rw [liveRoutes, allocated]
        exact fresh
  | entered absent map liveRoutes allocated =>
      refine ⟨⟨?_, by simp [closing], ?_⟩, filed, liveRoutes ▸ distinct, ?_⟩
      · rw [map, liveRoutes]
        intro uri route found
        rcases update_eq_some found with before | ⟨_, rfl⟩
        · exact List.mem_cons_of_mem _ (kept.lookedUp uri route before)
        · exact List.mem_cons_self
      · rw [map, liveRoutes, List.forall_mem_cons]
        refine ⟨.inl (Function.update_self _ _ _), fun route live => ?_⟩
        refine (placed route live).imp (fun found => ?_) .inr
        rw [Function.update_of_ne (fun same => by simp [same, absent] at found)]
        exact found
      · rw [liveRoutes, allocated]
        exact fresh

theorem Kept.manage (kept : services.Kept) {dials : Nat → Dial}
    (passed : services.manage dials = some next) : next.Kept := by
  refine (manage_induction (fun current => current.Kept ∧ current.routeClose = [])
    (fun current spec queue dial after _ ⟨kept, noneClosing⟩ returned => ?_)
    ⟨kept.closeRoutes, rfl⟩ passed).1.1
  have dequeued : ({ current with routeOpen := queue } : Services).Kept :=
    ⟨⟨kept.lookedUp, kept.destroyed, kept.placed⟩,
      ⟨kept.filed.mapped, kept.filed.apart, kept.filed.distinct⟩, kept.distinct, kept.fresh⟩
  exact ⟨dequeued.openRoute noneClosing returned,
    (openRoute_routeClose returned).trans noneClosing⟩

theorem Kept.step (kept : services.Kept) {label : Label}
    (stepped : services.step label = some next) : next.Kept := by
  cases label with
  | receive queryID pipeID msg =>
      exact Option.some.inj stepped ▸ kept.asyncRecv queryID pipeID msg
  | disconnect pipeID => exact kept.pipeEvent (step_disconnect stepped).2
  | drain dials => exact kept.manage stepped

theorem step_entered {label : Label} (stepped : services.step label = some next) :
    services.allocated ≤ next.allocated ∧
      ∀ uri route, next.map uri = some route →
        services.map uri = some route ∨ services.allocated ≤ route.serial := by
  cases label with
  | receive queryID pipeID msg =>
      obtain rfl := Option.some.inj stepped
      unfold Services.asyncRecv
      split <;> exact ⟨Nat.le_refl _, fun uri route found => .inl found⟩
  | disconnect pipeID =>
      have lost := (step_disconnect stepped).2
      refine ⟨(pipeEvent_objects lost).2.1.ge, fun uri route found => ?_⟩
      exact .inl (((pipeEvent_lost lost).map uri route).mp found).1
  | drain dials =>
      refine (manage_induction (fun current =>
        services.allocated ≤ current.allocated ∧
          ∀ uri route, current.map uri = some route →
            services.map uri = some route ∨ services.allocated ≤ route.serial)
        (fun current spec queue dial after _ ⟨grown, entered⟩ returned => ?_) ?_ stepped).1
      · obtain ⟨more, new⟩ := openRoute_entered returned
        refine ⟨grown.trans more, fun uri route found => ?_⟩
        exact (new uri route found).elim (entered uri route) (.inr ∘ grown.trans)
      · have allocated : services.closeRoutes.allocated = services.allocated :=
          (foldl_closeRoute_objects services.routeClose services).2.1
        rw [allocated, (closeRoutes_same services).map]
        exact ⟨Nat.le_refl _, fun uri route found => .inl found⟩

/-- The address of a route identifies it among those that exist. -/
theorem Kept.find_eq_some (kept : services.Kept) {route : Route}
    (live : route ∈ services.liveRoutes) :
    services.liveRoutes.find? (fun other => decide (other.serial = route.serial)) =
      some route := by
  cases search : services.liveRoutes.find?
      (fun other => decide (other.serial = route.serial)) with
  | none => exact absurd (decide_eq_true rfl) (List.find?_eq_none.mp search route live)
  | some other =>
      have same : other.serial = route.serial := by simpa using List.find?_some search
      rw [List.inj_on_of_nodup_map kept.distinct (List.mem_of_find?_eq_some search) live same]

theorem kept_of_run {address : Bytes} {labels : List Label}
    (reached : run step (initial address) labels = some services) : services.Kept :=
  invariant_of_run Kept (kept_initial address)
    (fun _ _ _ kept _ stepped => kept.step stepped) (meets_true _ _) reached

/-- In every state of every run the pointers of the directory are safe, and what a path
is routed to is the route of its longest enrolled prefix, which exists. -/
theorem pointers_safe (address : Bytes) (labels : List Label) (services : Services)
    (reached : run step (initial address) labels = some services) :
    services.PointersSafe ∧
      ∀ path route, services.route path = some route ↔
        services.LongestPrefix path route ∧ route ∈ services.liveRoutes := by
  have kept := kept_of_run reached
  refine ⟨kept.safe, fun path route => ?_⟩
  rw [route_eq_some_iff]
  refine ⟨fun longest => ⟨longest, ?_⟩, And.left⟩
  obtain ⟨key, _, found, _⟩ := longest
  exact kept.lookedUp key route found

/-- Two services, one below the other. -/
def nested : List Label :=
  [.receive 1 10 (enrollment "/a"), .receive 2 11 (enrollment "/a/b"),
    .drain fun _ => .ok]

theorem pointers_safe_nested :
    ∃ services, run step (initial (ascii "s")) nested = some services ∧
      services.PointersSafe ∧
      services.LongestPrefix (ascii "/a/b/c") ⟨1, ascii "/a/b", 11⟩ := by
  have routes : (run step (initial (ascii "s")) nested).map
      (fun services => services.route (ascii "/a/b/c")) =
        some (some ⟨1, ascii "/a/b", 11⟩) := by decide +kernel
  obtain ⟨services, reached, found⟩ := Option.map_eq_some_iff.mp routes
  have safe := pointers_safe (ascii "s") nested services reached
  exact ⟨services, reached, safe.1, ((safe.2 _ _).mp found).1⟩

end Services

end Telling.Server
