import Telling.Server.Ledger

/-!
# Where a registered service is dialed

A service listens at the addresses of its own path.  The request it registers with
names the alias first and the path second, and the server takes the first line for
both the key of the route and the host to dial.  The two sides meet only when the
service is registered under its own path.
-/

namespace Telling.Server

open Lib Msg
open Io (QueryID)
open HostAddress (Base)

/-- `Service_Base::inProcAddress`. -/
def inProcAddress (uri : Bytes) : Base := .inProc uri

/-- The address at which a socket of `Service` listens. -/
def serviceAddress (uri : Bytes) (pattern : Pattern) : Bytes :=
  (inProcAddress uri).address pattern

theorem registeredName_eq_path {servicePath servicePathAlias : Bytes} :
    registeredName servicePath servicePathAlias = servicePath ↔
      servicePathAlias = [] ∨ servicePathAlias = servicePath := by
  unfold registeredName
  split
  · next empty => simp [empty]
  · next nonempty => simp [nonempty]

namespace Services

/-- What the server makes of the request of a service. -/
theorem asyncRecv_registration {servicePath servicePathAlias msg : Bytes}
    (plainPath : Plain servicePath) (plainAlias : Plain servicePathAlias)
    (built : (registrationRequest servicePath servicePathAlias).result = .ok (some msg))
    (services : Services) (queryID : QueryID) (pipeID : PipeID) :
    services.asyncRecv queryID pipeID msg = services.register queryID pipeID
      (registeredName servicePath servicePathAlias) := by
  rw [registrationRequest_result, Except.ok.injEq, Option.some.injEq] at built
  exact asyncRecv_ok (built ▸ decodeRegistration_twoLines
    (registeredName_plain plainPath plainAlias) plainPath)

/-- The subscriber and both sockets of the route were dialed, each at the address where
the socket of the service for its pattern listens. -/
def Reaches (before after : Services) (route : Route) (servicePath : Bytes) : Prop :=
  after.dialings = before.dialings ++ [.subscriber, .req route, .push route].map
    fun caller : Caller => ⟨caller, serviceAddress servicePath caller.pattern⟩

/-- The dials of a turn reach the service exactly when the host is its own address. -/
theorem reaches_iff {before after : Services} {route : Route} {host servicePath : Bytes}
    (dialed : after.dialings = before.dialings ++
      [⟨.subscriber, (Base.inProc host).address .pubSub⟩,
        ⟨.req route, (Base.inProc host).address .reqRep⟩,
        ⟨.push route, (Base.inProc host).address .pushPull⟩]) :
    before.Reaches after route servicePath ↔ host = servicePath := by
  constructor
  · intro reaches
    rw [Reaches, dialed] at reaches
    have addresses := List.append_cancel_left reaches
    simp only [List.map_cons, List.map_nil, List.cons.injEq, Dialing.mk.injEq] at addresses
    exact inProc_address_injective (by simp [servicePatterns]) addresses.1.2
  · rintro rfl
    exact dialed

/-- A turn whose dials succeed enters the route and reaches the service, unless the key is
too long or the service listens elsewhere. -/
theorem openRoute_reaches_iff {services : Services} {spec : NewRoute} {servicePath : Bytes}
    (absent : services.map spec.mapUri = none) :
    (∃ after route, services.openRoute spec .ok = some after ∧
        after.map spec.mapUri = some route ∧ route.path = spec.mapUri ∧
        services.Reaches after route servicePath) ↔
      spec.mapUri = servicePath ∧ spec.mapUri.length ≤ maxKeySize := by
  constructor
  · rintro ⟨after, route, returned, found, _, reaches⟩
    cases openRoute_turned returned with
    | conflict _ present => simp [absent] at present
    | abandoned _ _ _ _ notOk => exact absurd rfl notOk
    | opened _ fits =>
        obtain rfl : services.newRoute spec = route := by
          simpa [enrolled] using found
        exact ⟨(reaches_iff rfl).mp reaches, fits⟩
  · rintro ⟨same, fits⟩
    obtain ⟨after, returned, entered, _, dialed⟩ := openRoute_enters absent fits
    exact ⟨after, _, returned, entered, rfl, (reaches_iff dialed).mpr same⟩

/-- The request that `Registration` builds is understood, and the turn that opens its
route dials the service where it listens, in all three patterns, exactly when the alias
is the path of the service or empty and the key fits into the map. -/
theorem registration_reaches_iff {servicePath servicePathAlias : Bytes}
    (plainPath : Plain servicePath) (plainAlias : Plain servicePathAlias)
    (services current : Services) (queryID : QueryID) (pipeID : PipeID)
    (absent : current.map (registeredName servicePath servicePathAlias) = none) :
    ∃ msg spec,
      (registrationRequest servicePath servicePathAlias).result = .ok (some msg) ∧
      (services.asyncRecv queryID pipeID msg).routeOpen = services.routeOpen ++ [spec] ∧
      spec.mapUri = registeredName servicePath servicePathAlias ∧
      ((∃ after route, current.openRoute spec .ok = some after ∧
          after.map (registeredName servicePath servicePathAlias) = some route ∧
          route.path = registeredName servicePath servicePathAlias ∧
          current.Reaches after route servicePath) ↔
        (servicePathAlias = [] ∨ servicePathAlias = servicePath) ∧
          (registeredName servicePath servicePathAlias).length ≤ maxKeySize) := by
  have built := registrationRequest_result servicePath servicePathAlias
  have queued := asyncRecv_registration plainPath plainAlias built services queryID pipeID
  let spec : NewRoute := ⟨queryID, pipeID, registeredName servicePath servicePathAlias⟩
  have reaches := @openRoute_reaches_iff current spec servicePath absent
  refine ⟨_, spec, built, ?_, rfl, ?_⟩
  · rw [queued]
    rfl
  · rw [← registeredName_eq_path]
    exact reaches

/-- A service that registers under its own path is reached. -/
theorem registration_reaches_path :
    ∃ msg spec, (registrationRequest (ascii "/svc") []).result = .ok (some msg) ∧
      ((initial []).asyncRecv 1 2 msg).routeOpen = [spec] ∧
      ∃ after route, (initial []).openRoute spec .ok = some after ∧
        after.map (ascii "/svc") = some route ∧ route.path = ascii "/svc" ∧
        (initial []).Reaches after route (ascii "/svc") := by
  obtain ⟨msg, spec, built, queued, _, reaches⟩ :=
    registration_reaches_iff (show Plain (ascii "/svc") by decide +kernel)
      (show Plain [] by simp) (initial []) (initial []) 1 2 rfl
  exact ⟨msg, spec, built, queued, reaches.mpr ⟨.inl rfl, by decide +kernel⟩⟩

/-- A service that registers under an alias is entered under the alias and dialed
there, where nobody listens. -/
theorem alias_dialed :
    ∃ msg after,
      (registrationRequest (ascii "/svc") (ascii "/alias")).result = .ok (some msg) ∧
      ((initial []).asyncRecv 1 2 msg).routeOpen = [⟨1, 2, ascii "/alias"⟩] ∧
      (initial []).openRoute ⟨1, 2, ascii "/alias"⟩ .ok = some after ∧
      after.answers.length = 1 ∧ (after.map (ascii "/alias")).isSome ∧
      after.dialings.map Dialing.address = [ascii "inproc:///alias.sub",
        ascii "inproc:///alias.req", ascii "inproc:///alias.push"] ∧
      servicePatterns.map (serviceAddress (ascii "/svc")) = [ascii "inproc:///svc.req",
        ascii "inproc:///svc.sub", ascii "inproc:///svc.push"] := by
  have built := registrationRequest_result (ascii "/svc") (ascii "/alias")
  have queued := asyncRecv_registration (by decide +kernel) (by decide +kernel) built
    (initial []) 1 2
  have summary : ((initial []).openRoute ⟨1, 2, ascii "/alias"⟩ .ok).map (fun after =>
      (after.answers.length, (after.map (ascii "/alias")).isSome,
        after.dialings.map Dialing.address)) = some (1, true, [ascii "inproc:///alias.sub",
          ascii "inproc:///alias.req", ascii "inproc:///alias.push"]) := by
    decide +kernel
  obtain ⟨after, returned, equal⟩ := Option.map_eq_some_iff.mp summary
  simp only [Prod.mk.injEq] at equal
  refine ⟨_, after, built, ?_, returned, equal.1, equal.2.1, equal.2.2, by decide +kernel⟩
  rw [queued]
  rfl

end Services

end Telling.Server
