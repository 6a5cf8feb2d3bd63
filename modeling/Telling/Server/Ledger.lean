import Telling.Server.Connectors
import Telling.Server.Registration

/-!
# What the directory answers and publishes

A pass of the management thread settles every queued registration with one answer, and
announces the services it enrolls and those whose routes it closes.  From one turn of
the loop follows what holds of a pass that returns, and from the steps what holds of the
answers and announcements of a run.
-/

namespace Telling.Server

open Lib Msg
open Io (QueryID)

namespace Services

section Turns

variable {services next : Services} {spec : NewRoute} {dial : Dial}

/-- What one turn answers and publishes. -/
inductive Settled (services : Services) (spec : NewRoute) (dial : Dial) :
    Services → Prop where
  | refused {after : Services} (status : Status) (body : Bytes) :
      status = .conflict ∨ status = .serviceUnavailable → after.map = services.map →
      after.answers = services.answers ++ [.settled spec status body] →
      after.announcements = services.announcements → Settled services spec dial after
  | enrolled {after : Services} (route : Route) (body : Bytes) :
      dial = .ok → services.map spec.mapUri = none →
      after.map = Function.update services.map spec.mapUri (some route) →
      after.answers = services.answers ++ [.settled spec .ok body] →
      after.announcements = services.announcements ++ [⟨.created, spec.mapUri⟩] →
      Settled services spec dial after

theorem openRoute_settled (returned : services.openRoute spec dial = some next) :
    Settled services spec dial next := by
  cases openRoute_turned returned with
  | conflict route found => exact .refused _ _ (.inl rfl) rfl rfl rfl
  | unconstructed absent => exact .refused _ _ (.inr rfl) (erase_of_none absent) rfl rfl
  | abandoned connectors dialings absent =>
      exact .refused _ _ (.inr rfl) (erase_update_of_none absent) rfl rfl
  | opened absent _ => exact .enrolled _ _ rfl absent rfl rfl rfl

end Turns

/-! ## Answers -/

end Services

/-- What becomes of a request: a refusal, or a place in the queue. -/
inductive Verdict where
  | refused (queryID : QueryID) (status : Status) (body : Bytes)
  | queued (spec : NewRoute)
  deriving DecidableEq, Repr

/-- The verdict that an answer goes back to. -/
def Answer.verdict : Answer → Verdict
  | .refused queryID status body => .refused queryID status body
  | .settled spec _ _ => .queued spec

/-- The query that an answer is for. -/
def Answer.queryID : Answer → QueryID
  | .refused queryID _ _ => queryID
  | .settled spec _ _ => spec.queryID

/-- The statuses of answers: 400 or 431 for a request that is not understood, and 409,
503 or 200 for a registration. -/
def Answer.Proper : Answer → Prop
  | .refused _ status _ =>
      status = .badRequest ∨ status = .requestHeaderFieldsTooLarge
  | .settled _ status _ =>
      status = .conflict ∨ status = .serviceUnavailable ∨ status = .ok

/-- The answer enrolls a service under the URI. -/
def Answer.enrolls (uri : Bytes) : Answer → Bool
  | .refused _ _ _ => false
  | .settled spec status _ => decide (spec.mapUri = uri) && decide (status = .ok)

namespace Services

/-- How often a service was enrolled under the URI. -/
def enrollments (services : Services) (uri : Bytes) : Nat :=
  services.answers.countP (Answer.enrolls uri)

def present (services : Services) (uri : Bytes) : Nat :=
  if (services.map uri).isSome then 1 else 0

section Answers

variable {services after : Services} {spec : NewRoute} {dial : Dial}

/-- A service is enrolled when its URI enters the map. -/
theorem Settled.enrollments (settled : Settled services spec dial after) (uri : Bytes) :
    after.enrollments uri + services.present uri =
      services.enrollments uri + after.present uri := by
  cases settled with
  | refused status body failed map answers _ =>
      have notOk : status ≠ .ok := by rcases failed with rfl | rfl <;> decide
      simp [Services.enrollments, present, map, answers, Answer.enrolls, notOk]
  | enrolled route body _ absent map answers _ =>
      by_cases same : spec.mapUri = uri
      · subst same
        simp [Services.enrollments, present, map, answers, Answer.enrolls, absent]
      · have other : uri ≠ spec.mapUri := fun equal => same equal.symm
        simp [Services.enrollments, present, map, answers, Answer.enrolls, same,
          Function.update_of_ne other]

/-- A turn answers its registration with a status that fits. -/
theorem Settled.answer (settled : Settled services spec dial after) :
    ∃ status body, after.answers = services.answers ++ [.settled spec status body] ∧
      (Answer.settled spec status body).Proper := by
  cases settled with
  | refused status body failed _ answers _ =>
      exact ⟨status, body, answers, failed.imp_right .inl⟩
  | enrolled _ body _ _ _ answers _ => exact ⟨.ok, body, answers, .inr (.inr rfl)⟩

/-- A pass answers every queued registration once, in the order of the queue. -/
theorem openRoutes_answers (queue : List NewRoute) :
    (dials : Nat → Dial) → (services : Services) →
      openRoutes queue dials services = some after →
      ∃ answers, after.answers = services.answers ++ answers ∧
        answers.map Answer.verdict = queue.map Verdict.queued ∧
        answers.map Answer.queryID = queue.map NewRoute.queryID ∧
        ∀ answer ∈ answers, answer.Proper := by
  induction queue with
  | nil =>
      intro dials services returned
      obtain rfl := Option.some.inj returned
      exact ⟨[], by simp⟩
  | cons spec queue ih =>
      intro dials services returned
      simp only [openRoutes] at returned
      split at returned
      · contradiction
      · next middle turned =>
          obtain ⟨answers, rest, verdicts, queries, proper⟩ := ih _ middle returned
          obtain ⟨status, body, first, known⟩ := (openRoute_settled turned).answer
          refine ⟨.settled spec status body :: answers, ?_, ?_, ?_, ?_⟩
          · rw [rest, first, List.append_assoc, List.singleton_append]
          · simp [Answer.verdict, verdicts]
          · simp [Answer.queryID, queries]
          · exact List.forall_mem_cons.mpr ⟨known, proper⟩

variable {dials : Nat → Dial}

theorem manage_answers (passed : services.manage dials = some after) :
    ∃ answers, after.answers = services.answers ++ answers ∧
      answers.map Answer.verdict = services.routeOpen.map Verdict.queued ∧
      answers.map Answer.queryID = services.routeOpen.map NewRoute.queryID ∧
      ∀ answer ∈ answers, answer.Proper := by
  have same := closeRoutes_same services
  rw [manage, same.routeOpen] at passed
  have settled := openRoutes_answers services.routeOpen dials services.closeRoutes passed
  rw [same.answers] at settled
  exact settled

/-- Over a pass: each URI that entered the map was answered with one 200. -/
theorem manage_enrollments (passed : services.manage dials = some after) (uri : Bytes) :
    after.enrollments uri + services.present uri =
      services.enrollments uri + after.present uri := by
  have same := closeRoutes_same services
  refine (manage_induction (fun current =>
    current.enrollments uri + services.present uri =
      services.enrollments uri + current.present uri) ?_ ?_ passed).1
  · intro current spec queue dial next _ balanced turned
    have turn := (openRoute_settled turned).enrollments uri
    have unchanged : ({ current with routeOpen := queue } : Services).present uri =
        current.present uri := rfl
    have counted : ({ current with routeOpen := queue } : Services).enrollments uri =
        current.enrollments uri := rfl
    omega
  · simp [Services.enrollments, present, same.answers, same.map]

/-- A step answers with 200 exactly for the URIs that it enters in the map. -/
def Inserted (before after : Services) : Prop :=
  ∀ uri, after.enrollments uri = before.enrollments uri +
    if (before.map uri).isNone ∧ (after.map uri).isSome then 1 else 0

theorem inserted_of_same {before : Services}
    (answers : ∀ uri, after.enrollments uri = before.enrollments uri)
    (map : ∀ uri, (after.map uri).isSome → (before.map uri).isSome) :
    Inserted before after := by
  intro uri
  have notNew : ¬ ((before.map uri).isNone ∧ (after.map uri).isSome) := by
    rintro ⟨absent, present⟩
    have found := map uri present
    rw [Option.isNone_iff_eq_none] at absent
    simp [absent] at found
  rw [answers, if_neg notNew, Nat.add_zero]

theorem inserted_manage (passed : services.manage dials = some after) :
    Inserted services after := by
  intro uri
  have balanced := manage_enrollments passed uri
  cases found : services.map uri with
  | some route =>
      have kept : after.map uri = some route := manage_keeps found passed
      simpa [present, found, kept] using balanced
  | none => simpa [present, found] using balanced

/-- The loss of a pipe takes the URI that is recorded for it out of the map. -/
theorem present_pipeEvent {pipeID : PipeID} {path : Bytes}
    (recorded : services.registrationMap pipeID = some path)
    (lost : services.pipeEvent pipeID = some after) (uri : Bytes) :
    services.present uri = after.present uri +
      if path = uri ∧ (services.map path).isSome then 1 else 0 := by
  rw [pipeEvent_of_recorded recorded] at lost
  obtain rfl := Option.some.inj lost
  by_cases same : path = uri
  · subst same
    simp [present]
  · have other : uri ≠ path := fun equal => same equal.symm
    simp [present, same, erase_of_ne other]

end Answers

/-! ## Announcements -/

/-- The statuses that were published for the URI, in order. -/
def history (services : Services) (uri : Bytes) : List Status :=
  (services.announcements.filter fun report => decide (report.body = uri)).map
    Announcement.status

/-- Created, Gone, Created and so on. -/
def Alternates (statuses : List Status) : Prop :=
  ∀ index status, statuses[index]? = some status →
    status = if index % 2 = 0 then .created else .gone

theorem alternates_nil : Alternates [] := by simp [Alternates]

theorem Alternates.concat {statuses : List Status} (alternates : Alternates statuses)
    {status : Status}
    (due : status = if statuses.length % 2 = 0 then .created else .gone) :
    Alternates (statuses ++ [status]) := by
  intro index found member
  rw [List.getElem?_append] at member
  split at member
  · exact alternates index found member
  · next outside =>
      obtain ⟨inside, equal⟩ := List.getElem?_eq_some_iff.mp member
      have last : index = statuses.length := by
        simp only [List.length_singleton] at inside
        omega
      simp only [last, Nat.sub_self, List.getElem_singleton] at equal
      rw [← equal, due, last]

theorem history_announce {services after : Services} {report : Announcement}
    (announced : after.announcements = services.announcements ++ [report])
    (uri : Bytes) :
    after.history uri =
      if report.body = uri then services.history uri ++ [report.status]
      else services.history uri := by
  by_cases same : report.body = uri
  · simp [history, announced, same]
  · simp [history, announced, same]

theorem history_congr {services after : Services}
    (same : after.announcements = services.announcements) (uri : Bytes) :
    after.history uri = services.history uri := by
  rw [history, same, history]

/-- The reports for each URI alternate, and the last one is Created as long as the URI
is routed or its route is among those still to be closed. -/
def Reported (services : Services) (closing : List Bytes) : Prop :=
  ∀ uri, Alternates (services.history uri) ∧
    ((services.history uri).length % 2 = 1 ↔
      (services.map uri).isSome ∨ uri ∈ closing)

section Announcements

variable {services after : Services}

/-- The next report for a URI is due by what was reported before. -/
theorem Reported.announce {closing later : List Bytes} {report : Announcement}
    (reported : services.Reported closing)
    (announced : after.announcements = services.announcements ++ [report])
    (due : report.status =
      if (services.map report.body).isSome ∨ report.body ∈ closing then .gone
      else .created)
    (turned : ((after.map report.body).isSome ∨ report.body ∈ later) ↔
      ¬ ((services.map report.body).isSome ∨ report.body ∈ closing))
    (others : ∀ uri, uri ≠ report.body →
      (((after.map uri).isSome ∨ uri ∈ later) ↔
        ((services.map uri).isSome ∨ uri ∈ closing))) :
    after.Reported later := by
  intro uri
  obtain ⟨alternates, parity⟩ := reported uri
  rw [history_announce announced]
  by_cases same : report.body = uri
  · subst same
    rw [if_pos rfl, turned, ← parity]
    refine ⟨alternates.concat ?_, ?_⟩
    · by_cases routed : (services.map report.body).isSome ∨ report.body ∈ closing
      · have odd := parity.mpr routed
        rw [due, if_pos routed, if_neg (by omega)]
      · have even := mt parity.mp routed
        rw [due, if_neg routed, if_pos (by omega)]
    · rw [List.length_append, List.length_singleton]
      omega
  · rw [if_neg same, others uri fun equal => same equal.symm]
    exact ⟨alternates, parity⟩

theorem Reported.congr {closing later : List Bytes} (reported : services.Reported closing)
    (same : after.announcements = services.announcements)
    (kept : ∀ uri, ((after.map uri).isSome ∨ uri ∈ later) ↔
      ((services.map uri).isSome ∨ uri ∈ closing)) : after.Reported later := by
  intro uri
  rw [history_congr same, kept]
  exact reported uri

/-- The loop over `route_close` reports every route that is closed. -/
theorem Reported.foldl_closeRoute (routes : List Route) :
    (services : Services) → (∀ route ∈ routes, services.map route.path = none) →
      (routes.map Route.path).Nodup → services.Reported (routes.map Route.path) →
      (routes.foldl closeRoute services).Reported [] := by
  induction routes with
  | nil => exact fun services _ _ reported => reported
  | cons route routes ih =>
      intro services apart distinct reported
      obtain ⟨absent, apart⟩ := List.forall_mem_cons.mp apart
      obtain ⟨unique, distinct⟩ := List.nodup_cons.mp distinct
      refine ih (services.closeRoute route) apart distinct ?_
      refine reported.announce rfl ?_ ?_ ?_
      · simp
      · simpa [closeRoute, absent] using unique
      · intro uri other
        simp [closeRoute, other]

theorem Reported.closeRoutes (filed : services.Filed)
    (reported : services.Reported (services.routeClose.map Route.path)) :
    services.closeRoutes.Reported [] :=
  Reported.foldl_closeRoute services.routeClose services filed.apart filed.distinct
    reported

theorem Reported.openRoute {spec : NewRoute} {dial : Dial}
    (reported : services.Reported [])
    (returned : services.openRoute spec dial = some after) : after.Reported [] := by
  cases openRoute_settled returned with
  | refused _ _ _ map _ announcements =>
      exact reported.congr announcements fun uri => by rw [map]
  | enrolled route _ _ absent map _ announcements =>
      refine reported.announce announcements ?_ ?_ ?_
      · simp [absent]
      · simp [map, absent]
      · intro uri other
        simp [map, Function.update_of_ne other]

/-- Over a pass the reports go on as they should. -/
theorem Reported.manage (filed : services.Filed)
    (reported : services.Reported (services.routeClose.map Route.path))
    {dials : Nat → Dial} (passed : services.manage dials = some after) :
    after.Reported [] := by
  refine (manage_induction (fun current => current.Reported []) ?_
    (reported.closeRoutes filed) passed).1
  intro current spec queue dial next _ reported returned
  exact (show ({ current with routeOpen := queue } : Services).Reported [] from
    reported).openRoute returned

/-- The loss of a pipe moves a route from the map to those that are to be closed. -/
theorem Reported.pipeEvent (filed : services.Filed)
    (reported : services.Reported (services.routeClose.map Route.path))
    {pipeID : PipeID} (lost : services.pipeEvent pipeID = some after) :
    after.Reported (after.routeClose.map Route.path) := by
  have silent : after.announcements = services.announcements := by
    obtain ⟨_, _, rfl⟩ := pipeEvent_eq_some lost
    rfl
  rcases pipeEvent_cases lost with
    ⟨map, routeClose⟩ | ⟨path, route, found, map, routeClose⟩
  · exact reported.congr silent fun uri => by rw [map, routeClose]
  · refine reported.congr silent fun uri => ?_
    have pathEq := filed.mapped path route found
    by_cases same : uri = path
    · simp [map, routeClose, same, pathEq, found]
    · simp [map, routeClose, same, pathEq]

end Announcements

/-! ## The ledger over steps -/

/-- Routes are filed, keys fit, and answers and reports are in order. -/
structure Recorded (services : Services) : Prop where
  filed : services.Filed
  bounded : services.Bounded
  reported : services.Reported (services.routeClose.map Route.path)
  proper : ∀ answer ∈ services.answers, answer.Proper

theorem recorded_initial (address : Bytes) : (initial address).Recorded where
  filed := filed_initial address
  bounded := bounded_initial address
  reported := by simp [Reported, initial, history, alternates_nil]
  proper := by simp [initial]

section Recorded

variable {services next : Services}

theorem asyncRecv_error {queryID : QueryID} {pipeID : PipeID} {msg body : Bytes}
    {status : Status} (decoded : decodeRegistration msg = .error (status, body)) :
    services.asyncRecv queryID pipeID msg =
      { services with
        answers := services.answers ++ [.refused queryID status body] } := by
  simp [asyncRecv, decoded]

theorem asyncRecv_ok {queryID : QueryID} {pipeID : PipeID} {msg uri : Bytes}
    (decoded : decodeRegistration msg = .ok uri) :
    services.asyncRecv queryID pipeID msg = services.register queryID pipeID uri := by
  simp [asyncRecv, decoded]

theorem Recorded.asyncRecv (recorded : services.Recorded) (queryID : QueryID)
    (pipeID : PipeID) (msg : Bytes) :
    (services.asyncRecv queryID pipeID msg).Recorded := by
  have filed := recorded.filed.asyncRecv queryID pipeID msg
  cases decoded : decodeRegistration msg with
  | error refusal =>
      obtain ⟨status, body⟩ := refusal
      rw [asyncRecv_error decoded] at filed ⊢
      refine ⟨filed, recorded.bounded, recorded.reported, ?_⟩
      exact List.forall_mem_append.mpr ⟨recorded.proper,
        List.forall_mem_singleton.mpr (decodeRegistration_error decoded)⟩
  | ok uri =>
      rw [asyncRecv_ok decoded] at filed ⊢
      exact ⟨filed, recorded.bounded, recorded.reported, recorded.proper⟩

theorem Recorded.pipeEvent (recorded : services.Recorded) {pipeID : PipeID}
    (lost : services.pipeEvent pipeID = some next) : next.Recorded where
  filed := recorded.filed.pipeEvent lost
  bounded := by
    intro uri present
    obtain ⟨route, found⟩ := Option.isSome_iff_exists.mp present
    have before := ((pipeEvent_lost lost).map uri route).mp found
    exact recorded.bounded uri (by rw [before.1]; rfl)
  reported := recorded.reported.pipeEvent recorded.filed lost
  proper := (pipeEvent_lost lost).answers ▸ recorded.proper

theorem Recorded.manage (recorded : services.Recorded) {dials : Nat → Dial}
    (passed : services.manage dials = some next) : next.Recorded := by
  obtain ⟨answers, appended, _, _, proper⟩ := manage_answers passed
  obtain ⟨filed, _, noneClosing⟩ := recorded.filed.manage passed
  have bounded := Bounded.openRoutes _ dials _ recorded.bounded.closeRoutes passed
  refine ⟨filed, bounded, ?_, ?_⟩
  · rw [noneClosing]
    exact recorded.reported.manage recorded.filed passed
  · rw [appended]
    exact List.forall_mem_append.mpr ⟨recorded.proper, proper⟩

end Recorded

/-! ## 200 and the map -/

theorem inserted_refl (services : Services) : Inserted services services :=
  inserted_of_same (fun _ => rfl) fun _ present => present

theorem inserted_asyncRecv (services : Services) (queryID : QueryID) (pipeID : PipeID)
    (msg : Bytes) : Inserted services (services.asyncRecv queryID pipeID msg) := by
  cases decoded : decodeRegistration msg with
  | error refusal =>
      obtain ⟨status, body⟩ := refusal
      rw [asyncRecv_error decoded]
      refine inserted_of_same (fun uri => ?_) fun uri present => present
      simp [enrollments, Answer.enrolls]
  | ok uri =>
      rw [asyncRecv_ok decoded]
      exact inserted_of_same (fun uri => rfl) fun uri present => present

theorem inserted_pipeEvent {services next : Services} {pipeID : PipeID}
    (gone : services.pipeEvent pipeID = some next) : Inserted services next := by
  have lost := pipeEvent_lost gone
  refine inserted_of_same (fun uri => ?_) fun uri present => ?_
  · rw [enrollments, lost.answers, enrollments]
  · obtain ⟨route, found⟩ := Option.isSome_iff_exists.mp present
    rw [((lost.map uri route).mp found).1]
    rfl

/-- Every step of the directory answers with 200 exactly for the URIs that it enters. -/
theorem inserted_step {services next : Services} {label : Label}
    (stepped : services.step label = some next) : Inserted services next := by
  cases label with
  | receive queryID pipeID msg =>
      exact Option.some.inj stepped ▸ inserted_asyncRecv services queryID pipeID msg
  | disconnect pipeID => exact inserted_pipeEvent (step_disconnect stepped).2
  | drain dials => exact inserted_manage stepped

/-- No answer is taken back. -/
theorem step_answers {services next : Services} {label : Label}
    (stepped : services.step label = some next) : services.answers ⊆ next.answers := by
  cases label with
  | receive queryID pipeID msg =>
      obtain rfl := Option.some.inj stepped
      unfold Services.asyncRecv
      split
      · exact List.subset_append_left _ _
      · exact List.Subset.refl _
  | disconnect pipeID =>
      rw [(pipeEvent_lost (step_disconnect stepped).2).answers]
      exact List.Subset.refl _
  | drain dials =>
      obtain ⟨answers, grown, _⟩ := manage_answers stepped
      rw [grown]
      exact List.subset_append_left _ _

end Services

end Telling.Server
