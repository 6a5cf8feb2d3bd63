import Telling.Io.Nng
import Telling.Lib.Machine
import Telling.Lib.Map
import Telling.Msg.View
import Telling.Server.HostAddress

/-!
# The directory of services

`Server::Services` records registrations under a mutex and leaves the opening and
closing of routes to a management thread.  Its steps are the receipt of a
registration request, the loss of a pipe, and one pass of the management thread,
which holds the mutex from the first close to the last open.

Two of them can end the process, and then there is no next state: `pipeEvent` erases
the end iterator when the pipe has no record, and a pass throws `std::length_error`
when a key is too long for the map, which is no `nng::exception` and leaves the thread.
-/

namespace Telling.Server

open Lib Msg
open Io (QueryID)
open HostAddress (Base)

abbrev PipeID := Nat

/-- `Server::Route`.  The pipe on whose behalf the route was opened is not stored
by the source; it is recorded here to state who owns a route.  The serial number
stands for the address of the object. -/
structure Route where
  serial : Nat
  path : Bytes
  opener : PipeID
  deriving DecidableEq, Repr

/-- `NewRoute`: a registration that waits for the management thread.  The host is
always the in-process address of the URI. -/
structure NewRoute where
  queryID : QueryID
  pipeID : PipeID
  mapUri : Bytes
  deriving DecidableEq, Repr

/-- `NewRoute::host`. -/
def NewRoute.host (spec : NewRoute) : Base := .inProc spec.mapUri

/-- The sockets that dial a service: the subscriber of the publish relay, and the
request and push sockets of its route. -/
inductive Caller where
  | subscriber
  | req (route : Route)
  | push (route : Route)
  deriving DecidableEq, Repr

/-- `Socket::pattern`. -/
def Caller.pattern : Caller → Pattern
  | .subscriber => .pubSub
  | .req _ => .reqRep
  | .push _ => .pushPull

/-- A dial that did not throw. -/
structure Dialing where
  caller : Caller
  address : Bytes
  deriving DecidableEq, Repr

/-- Replies to registration requests: sent at once through the reply tag, or
later through `respondTo`. -/
inductive Answer where
  | refused (queryID : QueryID) (status : Status) (body : Bytes)
  | settled (spec : NewRoute) (status : Status) (body : Bytes)
  deriving DecidableEq, Repr

/-- A report published on `*services`. -/
structure Announcement where
  status : Status
  body : Bytes
  deriving DecidableEq, Repr

/-- The longest key of `tsl::htrie_map`: the sizes are `uint16_t`, and the greatest
of them marks the end of a bucket. -/
def maxKeySize : Nat := 65534

/-- The state of `Server::Services`, with the connectors of the subscriber it
dials, the routes that exist, and what was sent and dialed so far.  `disconnected` holds
the pipes whose removal was reported, and `abandoned` the routes that were constructed
and not entered, each with the query that was told so. -/
structure Services where
  map : Bytes → Option Route
  registrationMap : PipeID → Option Bytes
  routeOpen : List NewRoute
  routeClose : List Route
  connectors : Bytes → Option Unit
  allocated : Nat
  liveRoutes : List Route
  answers : List Answer
  announcements : List Announcement
  dialings : List Dialing
  abandoned : List (Route × QueryID)
  disconnected : List PipeID

namespace Services

/-- After construction the subscriber listens on the internal address. -/
def initial (addressInternal : Bytes) : Services where
  map := fun _ => none
  registrationMap := fun _ => none
  routeOpen := []
  routeClose := []
  connectors := emplace (fun _ => none) (pubSubAddress addressInternal) ()
  allocated := 0
  liveRoutes := []
  answers := []
  announcements := []
  dialings := []
  abandoned := []
  disconnected := []

/-- `route`: the entry with the longest key that is an initial part of the
path. -/
def route (services : Services) (path : Bytes) : Option Route :=
  (List.range (path.length + 1)).reverse.findSome? fun length =>
    services.map (path.take length)

/-- A path that has an entry of its own is routed to that entry. -/
theorem route_of_map {services : Services} {path : Bytes} {entry : Route}
    (found : services.map path = some entry) :
    services.route path = some entry := by
  simp [route, List.range_succ, found]

/-! ## Registration requests -/

/-- The URI that a registration request asks for, or the status and body of the
reply that refuses it.  The URI of the request itself is only logged. -/
def decodeRegistration (msg : Bytes) : Except (Status × Bytes) Bytes :=
  match MsgView.parse msg .request with
  | .error exception =>
      .error (exception.replyStatus,
        exception.replyBody (ascii "Service Registry"))
  | .ok view =>
      let (pathPrefix, afterPrefix) := consumeLine view.bodyString
      let (_, afterConfig) := consumeLine afterPrefix
      if afterConfig ≠ [] then
        .error (.badRequest, ascii "Malformed Registration Request Body.")
      else .ok pathPrefix

/-- The request of a service for its enrollment. -/
def enrollment (path : String) : Bytes :=
  ascii "POST *services Tell/0\n\n" ++ ascii path

/-- The part of `async_recv` under the mutex. -/
def register (services : Services) (queryID : QueryID) (pipeID : PipeID)
    (pathPrefix : Bytes) : Services :=
  { services with
    registrationMap := emplace services.registrationMap pipeID pathPrefix
    routeOpen := services.routeOpen ++ [⟨queryID, pipeID, pathPrefix⟩] }

def asyncRecv (services : Services) (queryID : QueryID) (pipeID : PipeID)
    (msg : Bytes) : Services :=
  match decodeRegistration msg with
  | .error (status, body) =>
      { services with
        answers := services.answers ++ [.refused queryID status body] }
  | .ok pathPrefix => services.register queryID pipeID pathPrefix

/-! ## Loss of a pipe -/

/-- `pipeEvent` for `rem_post`.  The route is looked up by the URI that is recorded for
the pipe.  There is no result when an `erase` has none. -/
def pipeEvent (services : Services) (pipeID : PipeID) : Option Services :=
  let services := { services with disconnected := pipeID :: services.disconnected }
  match find services.registrationMap pipeID with
  | none => do
      -- The branch that logs "not registered" erases the end iterator all the same.
      let registrationMap ← eraseAt services.registrationMap none
      return { services with registrationMap := registrationMap }
  | some pipePos => do
      let path ← services.registrationMap pipePos
      let registrationMap ← eraseAt services.registrationMap (some pipePos)
      let services := { services with registrationMap := registrationMap }
      match find services.map path with
      | none => return services
      | some pos =>
          let route ← services.map pos
          let map ← eraseAt services.map (some pos)
          return { services with
            map := map
            routeClose := services.routeClose ++ [route] }

/-! ## The management thread -/

/-- One turn of the loop over `route_close`.  The string overload of `disconnect`
erases the connector whose key is the path itself. -/
def closeRoute (services : Services) (route : Route) : Services :=
  { services with
    connectors := erase services.connectors route.path
    announcements := services.announcements ++ [⟨.gone, route.path⟩]
    liveRoutes := services.liveRoutes.erase route }

/-- The loop over `route_close`. -/
def closeRoutes (services : Services) : Services :=
  { services.routeClose.foldl closeRoute services with routeClose := [] }

/-- How setting up a route ends: normally, or with an `nng::exception` while the
route is constructed, the subscriber dials, or the route dials its request or
push socket. -/
inductive Dial where
  | ok
  | routeThrows
  | subscribeThrows
  | reqThrows
  | pushThrows
  deriving DecidableEq, Repr

/-- The `catch` block. -/
def dialFailed (services : Services) (spec : NewRoute) : Services :=
  { services with
    map := erase services.map spec.mapUri
    registrationMap := erase services.registrationMap spec.pipeID
    answers := services.answers ++ [.settled spec .serviceUnavailable
      (spec.host.base.text ++ ascii "\nCould not dial specified service URI.")] }

/-- The `catch` block, with a route whose pointer it erases from the map. -/
def abandonRoute (services : Services) (spec : NewRoute) (route : Route) : Services :=
  { services.dialFailed spec with
    abandoned := services.abandoned ++ [(route, spec.queryID)] }

/-- The route that `new Route` makes. -/
def newRoute (services : Services) (spec : NewRoute) : Route :=
  ⟨services.allocated, spec.mapUri, spec.pipeID⟩

/-- `new Route` and its insertion in the map, which throws when the key is too long. -/
def addRoute (services : Services) (spec : NewRoute) : Option Services :=
  if maxKeySize < spec.mapUri.length then none
  else some
    { services with
      map := emplace services.map spec.mapUri (services.newRoute spec)
      allocated := services.allocated + 1
      liveRoutes := services.newRoute spec :: services.liveRoutes }

/-- `Socket::dial` of a base: the address is the one for the pattern of the socket. -/
def dial (services : Services) (caller : Caller) (host : Base) : Services :=
  { services with
    dialings := services.dialings ++ [⟨caller, host.address caller.pattern⟩] }

/-- `server.publish.subscribe.dial`, whose connectors are kept in a map. -/
def dialSubscriber (services : Services) (host : Base) : Services :=
  { services.dial .subscriber host with
    connectors := emplace services.connectors (host.address .pubSub) () }

/-- The replies and reports for a service that was dialed. -/
def enrolled (services : Services) (spec : NewRoute) : Services :=
  { services with
    answers := services.answers ++ [.settled spec .ok
      (spec.mapUri ++ ascii "\nEnrolled with this URI.")]
    announcements := services.announcements ++ [⟨.created, spec.mapUri⟩] }

/-- The refusal of a URI that is routed. -/
def conflict (services : Services) (spec : NewRoute) : Services :=
  { services with
    registrationMap := erase services.registrationMap spec.pipeID
    answers := services.answers ++ [.settled spec .conflict
      (spec.mapUri ++ ascii "\nThis URI is already registered.")] }

/-- One turn of the loop over `route_open`. -/
def openRoute (services : Services) (spec : NewRoute) (outcome : Dial) :
    Option Services :=
  if (services.map spec.mapUri).isSome then some (services.conflict spec)
  else
    let sockets := services.newRoute spec
    match outcome with
    | .routeThrows => some (services.dialFailed spec)
    | .subscribeThrows =>
        (services.addRoute spec).map fun services => services.abandonRoute spec sockets
    | .reqThrows =>
        (services.addRoute spec).map fun services =>
          (services.dialSubscriber spec.host).abandonRoute spec sockets
    | .pushThrows =>
        (services.addRoute spec).map fun services =>
          ((services.dialSubscriber spec.host).dial (.req sockets) spec.host).abandonRoute
            spec sockets
    | .ok =>
        (services.addRoute spec).map fun services =>
          -- `Route::dial` dials the request socket first.
          (((services.dialSubscriber spec.host).dial (.req sockets) spec.host).dial
            (.push sockets) spec.host).enrolled spec

/-- The loop over `route_open`; `dials` gives the outcome of each turn. -/
def openRoutes : (queue : List NewRoute) → (dials : Nat → Dial) → Services →
    Option Services
  | [], _, services => some services
  | spec :: queue, dials, services =>
      match openRoute { services with routeOpen := queue } spec (dials 0) with
      | none => none
      | some next => openRoutes queue (fun turn => dials (turn + 1)) next

/-- One pass of `run_management_thread` between two waits. -/
def manage (services : Services) (dials : Nat → Dial) : Option Services :=
  openRoutes services.closeRoutes.routeOpen dials services.closeRoutes

/-! ## Steps -/

/-- The steps that take the mutex. -/
inductive Label where
  | receive (queryID : QueryID) (pipeID : PipeID) (msg : Bytes)
  | disconnect (pipeID : PipeID)
  | drain (dials : Nat → Dial)

/-- The machine.  NNG reports the removal of a pipe once; a request that arrived
through a pipe may still be handed over after its removal. -/
def step (services : Services) : Label → Option Services
  | .receive queryID pipeID msg => some (services.asyncRecv queryID pipeID msg)
  | .disconnect pipeID =>
      if pipeID ∈ services.disconnected then none else services.pipeEvent pipeID
  | .drain dials => services.manage dials

variable {services next : Services}

theorem step_disconnect {pipeID : PipeID}
    (stepped : services.step (.disconnect pipeID) = some next) :
    pipeID ∉ services.disconnected ∧ services.pipeEvent pipeID = some next := by
  simp only [step] at stepped
  split at stepped
  · contradiction
  · next connected => exact ⟨connected, stepped⟩

/-! ## The loss of a pipe as one update -/

/-- A pipe with a record takes the route of the recorded URI with it, if there is one. -/
theorem pipeEvent_of_recorded {pipeID : PipeID} {path : Bytes}
    (recorded : services.registrationMap pipeID = some path) :
    services.pipeEvent pipeID = some
      { services with
        map := erase services.map path
        registrationMap := erase services.registrationMap pipeID
        routeClose := services.routeClose ++ (services.map path).toList
        disconnected := pipeID :: services.disconnected } := by
  cases found : services.map path with
  | none =>
      simp [pipeEvent, find_of_some recorded, recorded, eraseAt_of_some recorded,
        find_of_none found, erase_of_none found]
  | some route =>
      simp [pipeEvent, find_of_some recorded, recorded, eraseAt_of_some recorded,
        find_of_some found, found, eraseAt_of_some found]

/-- The loss of a pipe without a record ends the process. -/
theorem pipeEvent_of_unrecorded {pipeID : PipeID}
    (unrecorded : services.registrationMap pipeID = none) :
    services.pipeEvent pipeID = none := by
  simp [pipeEvent, find_of_none unrecorded, eraseAt]

theorem pipeEvent_isSome_iff {pipeID : PipeID} :
    (services.pipeEvent pipeID).isSome ↔ (services.registrationMap pipeID).isSome := by
  cases recorded : services.registrationMap pipeID with
  | none => simp [pipeEvent_of_unrecorded recorded]
  | some path => simp [pipeEvent_of_recorded recorded]

theorem pipeEvent_eq_some {pipeID : PipeID} (lost : services.pipeEvent pipeID = some next) :
    ∃ path, services.registrationMap pipeID = some path ∧
      next =
        { services with
          map := erase services.map path
          registrationMap := erase services.registrationMap pipeID
          routeClose := services.routeClose ++ (services.map path).toList
          disconnected := pipeID :: services.disconnected } := by
  have recorded := pipeEvent_isSome_iff.mp (by rw [lost]; rfl)
  obtain ⟨path, found⟩ := Option.isSome_iff_exists.mp recorded
  rw [pipeEvent_of_recorded found] at lost
  exact ⟨path, found, (Option.some.inj lost).symm⟩

/-! ## One turn of the loop over `route_open` -/

/-- What a turn that returns can do. -/
inductive Turned (services : Services) (spec : NewRoute) : Dial → Services → Prop where
  | conflict {outcome : Dial} (route : Route) :
      services.map spec.mapUri = some route →
      Turned services spec outcome (services.conflict spec)
  | unconstructed :
      services.map spec.mapUri = none →
      Turned services spec .routeThrows (services.dialFailed spec)
  | abandoned {outcome : Dial} (connectors : Bytes → Option Unit)
      (dialings : List Dialing) :
      services.map spec.mapUri = none → spec.mapUri.length ≤ maxKeySize →
      outcome ≠ .ok → outcome ≠ .routeThrows →
      Turned services spec outcome (abandonRoute
        { services with
          map := Function.update services.map spec.mapUri (some (services.newRoute spec))
          allocated := services.allocated + 1
          liveRoutes := services.newRoute spec :: services.liveRoutes
          connectors := connectors
          dialings := dialings } spec (services.newRoute spec))
  | opened :
      services.map spec.mapUri = none → spec.mapUri.length ≤ maxKeySize →
      Turned services spec .ok (enrolled
        { services with
          map := Function.update services.map spec.mapUri (some (services.newRoute spec))
          allocated := services.allocated + 1
          liveRoutes := services.newRoute spec :: services.liveRoutes
          connectors := emplace services.connectors (pubSubAddress spec.mapUri) ()
          dialings := services.dialings ++
            [⟨.subscriber, spec.host.address .pubSub⟩,
              ⟨.req (services.newRoute spec), spec.host.address .reqRep⟩,
              ⟨.push (services.newRoute spec), spec.host.address .pushPull⟩] } spec)

/-- A route that is added enters the map under a key that fits. -/
theorem addRoute_eq_some {spec : NewRoute} (absent : services.map spec.mapUri = none)
    (added : services.addRoute spec = some next) :
    spec.mapUri.length ≤ maxKeySize ∧
      next =
        { services with
          map := Function.update services.map spec.mapUri (some (services.newRoute spec))
          allocated := services.allocated + 1
          liveRoutes := services.newRoute spec :: services.liveRoutes } := by
  unfold addRoute at added
  split at added
  · contradiction
  · next fits =>
      rw [emplace_of_none absent] at added
      exact ⟨Nat.le_of_not_lt fits, (Option.some.inj added).symm⟩

theorem openRoute_turned {spec : NewRoute} {outcome : Dial}
    (returned : services.openRoute spec outcome = some next) :
    Turned services spec outcome next := by
  unfold openRoute at returned
  cases found : services.map spec.mapUri with
  | some route =>
      simp only [found, Option.isSome_some, if_true, Option.some.injEq] at returned
      exact returned ▸ .conflict route found
  | none =>
      simp only [found, Option.isSome_none, Bool.false_eq_true, if_false] at returned
      cases outcome with
      | routeThrows => exact Option.some.inj returned ▸ .unconstructed found
      | subscribeThrows | reqThrows | pushThrows =>
          obtain ⟨middle, added, rfl⟩ := Option.map_eq_some_iff.mp returned
          obtain ⟨fits, rfl⟩ := addRoute_eq_some found added
          exact .abandoned _ _ found fits (by decide) (by decide)
      | ok =>
          obtain ⟨middle, added, rfl⟩ := Option.map_eq_some_iff.mp returned
          obtain ⟨fits, rfl⟩ := addRoute_eq_some found added
          have opened := Turned.opened found fits
          simpa [enrolled, dial, dialSubscriber, Caller.pattern, pubSubAddress,
            NewRoute.host] using opened

/-! ## Passes that return -/

/-- Every key that reaches the map fits into it. -/
def Storable (queue : List NewRoute) (dials : Nat → Dial) : Prop :=
  ∀ index < queue.length, ∀ spec ∈ queue[index]?,
    spec.mapUri.length ≤ maxKeySize ∨ dials index = .routeThrows

instance (queue : List NewRoute) (dials : Nat → Dial) :
    Decidable (Storable queue dials) :=
  inferInstanceAs (Decidable (∀ index < queue.length, ∀ spec ∈ queue[index]?, _))

theorem storable_cons {spec : NewRoute} {queue : List NewRoute} {dials : Nat → Dial} :
    Storable (spec :: queue) dials ↔
      (spec.mapUri.length ≤ maxKeySize ∨ dials 0 = .routeThrows) ∧
        Storable queue fun turn => dials (turn + 1) := by
  constructor
  · intro storable
    refine ⟨storable 0 (by simp) spec (by simp), fun index inside next member => ?_⟩
    exact storable (index + 1) (by simpa using inside) next (by simpa using member)
  · rintro ⟨first, rest⟩ index inside next member
    cases index with
    | zero =>
        obtain rfl : spec = next := by simpa using member
        exact first
    | succ index => exact rest index (by simpa using inside) next (by simpa using member)

/-- A turn whose key fits, or that does not come to the map, returns. -/
theorem openRoute_isSome {spec : NewRoute} {outcome : Dial}
    (fits : spec.mapUri.length ≤ maxKeySize ∨ outcome = .routeThrows) :
    (services.openRoute spec outcome).isSome := by
  unfold openRoute
  split
  · rfl
  · cases outcome with
    | routeThrows => rfl
    | ok | subscribeThrows | reqThrows | pushThrows =>
        have short := fits.resolve_right (by simp)
        simp [addRoute, Nat.not_lt.mpr short]

/-- A turn with a free key that fits and dials that succeed enters the route, answers
with 200 and has dialed the host in all three patterns. -/
theorem openRoute_enters {spec : NewRoute} (absent : services.map spec.mapUri = none)
    (fits : spec.mapUri.length ≤ maxKeySize) :
    ∃ after, services.openRoute spec .ok = some after ∧
      after.map spec.mapUri = some (services.newRoute spec) ∧
      after.answers = services.answers ++ [.settled spec .ok
        (spec.mapUri ++ ascii "\nEnrolled with this URI.")] ∧
      after.dialings = services.dialings ++
        [⟨.subscriber, spec.host.address .pubSub⟩,
          ⟨.req (services.newRoute spec), spec.host.address .reqRep⟩,
          ⟨.push (services.newRoute spec), spec.host.address .pushPull⟩] := by
  have returns : (services.openRoute spec .ok).isSome := openRoute_isSome (.inl fits)
  obtain ⟨after, returned⟩ := Option.isSome_iff_exists.mp returns
  refine ⟨after, returned, ?_⟩
  cases openRoute_turned returned with
  | conflict route found => simp [absent] at found
  | abandoned _ _ _ _ notOk => exact absurd rfl notOk
  | opened _ _ => exact ⟨Function.update_self _ _ _, rfl, rfl⟩

/-- The keys of the map fit into it. -/
def Bounded (services : Services) : Prop :=
  ∀ uri, (services.map uri).isSome → uri.length ≤ maxKeySize

theorem openRoute_isSome_iff {spec : NewRoute} {outcome : Dial} (bounded : services.Bounded) :
    (services.openRoute spec outcome).isSome ↔
      spec.mapUri.length ≤ maxKeySize ∨ outcome = .routeThrows := by
  refine ⟨fun returns => ?_, openRoute_isSome⟩
  obtain ⟨next, returned⟩ := Option.isSome_iff_exists.mp returns
  cases openRoute_turned returned with
  | conflict route found => exact .inl (bounded _ (by rw [found]; rfl))
  | unconstructed => exact .inr rfl
  | abandoned _ _ _ fits => exact .inl fits
  | opened _ fits => exact .inl fits

end Services

end Telling.Server
