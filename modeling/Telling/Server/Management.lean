import Telling.Lib.Monitor
import Telling.Server.Connectors

/-!
# The management thread and its condition variable

`run_management_thread` closes and opens routes while it holds the mutex and then
waits without a predicate.  The monitor below has its loops one turn at a time, and
the sections of `async_recv`, `pipeEvent` and the destructor one statement at a
time.  Whenever the thread sleeps and was not notified, there is nothing to do.
-/

namespace Telling.Server

open Lib Msg
open Io (QueryID)

/-- What the mutex of `Server::Services` protects. -/
structure Management where
  services : Services
  run : Bool

namespace Management

def withServices (management : Management) (services : Services) : Management :=
  { management with services }

/-! ## The thread -/

/-- The points of `run_management_thread` at which the mutex is held: the test of the
outer loop, and the tests of the loops over `route_close` and `route_open`. -/
inductive Point where
  | running
  | closing
  | opening
  deriving DecidableEq, Repr

/-- One test of a loop of `run_management_thread`, with the turn it admits. -/
def turn : Point → Services.Dial → Management → Option (Management × Next Point)
  | .running, _, management =>
      some (management, if management.run then .goto .closing else .leave)
  | .closing, _, management =>
      match management.services.routeClose with
      | [] => some (management, .goto .opening)
      | route :: queue =>
          some (management.withServices
              (Services.closeRoute { management.services with routeClose := queue }
                route),
            .goto .closing)
  | .opening, dial, management =>
      match management.services.routeOpen with
      | [] => some (management, .wait)
      | spec :: queue =>
          (Services.openRoute { management.services with routeOpen := queue } spec
            dial).map fun services => (management.withServices services, .goto .opening)

/-- `run_management_thread`.  After a wait the outer loop tests `run` again. -/
def thread : Program Management Point Services.Dial where
  start := .running
  resume := .running
  act := turn

/-! ## The other threads -/

/-- The callers that lock the mutex: `async_recv` for a request it has understood,
`pipeEvent` for `rem_post`, and the destructor. -/
inductive Request where
  | register (queryID : QueryID) (pipeID : PipeID) (pathPrefix : Bytes)
  | lose (pipeID : PipeID)
  | shutdown

/-- A statement that changes the directory. -/
def change (edit : Services → Services) : Statement Management :=
  .update fun management => management.withServices (edit management.services)

/-- The section of `pipeEvent`.  For a pipe without a record it erases the end iterator
and has no end. -/
def loseSection (services : Services) (pipeID : PipeID) :
    Option (List (Statement Management)) :=
  let removed := change fun services =>
    { services with disconnected := pipeID :: services.disconnected }
  match services.registrationMap pipeID with
  | none => none
  | some path =>
      let forgotten := change fun services =>
        { services with registrationMap := erase services.registrationMap pipeID }
      match services.map path with
      | none => some [removed, forgotten]
      | some route =>
          some [removed, forgotten,
            change fun services => { services with map := erase services.map path },
            change fun services =>
              { services with routeClose := services.routeClose ++ [route] },
            .notify]

/-- What each caller does while it holds the mutex. -/
def sections : Sections Request Management
  | .register queryID pipeID pathPrefix, _ =>
      some [change fun services =>
          { services with
            registrationMap := emplace services.registrationMap pipeID pathPrefix },
        change fun services =>
          { services with
            routeOpen := services.routeOpen ++ [⟨queryID, pipeID, pathPrefix⟩] },
        .notify]
  | .lose pipeID, management => loseSection management.services pipeID
  | .shutdown, _ =>
      some [.update fun management => { management with run := false }, .notify]

abbrev Label := Monitor.Label Request Services.Dial

abbrev step : Monitor Management Point → Label → Option (Monitor Management Point) :=
  Monitor.step thread sections

/-- The thread was created and has not locked the mutex; the directory may have
changed since construction. -/
def created (services : Services) : Monitor Management Point :=
  ⟨⟨services, true⟩, .entering⟩

/-! ## Sections and passes are steps of the directory -/

/-- What a caller leaves when its section has come to its end. -/
def after (management : Management) (request : Request) : Option Management :=
  (sections request management).map (Monitor.updated management)

theorem after_register (management : Management) (queryID : QueryID) (pipeID : PipeID)
    (pathPrefix : Bytes) :
    management.after (.register queryID pipeID pathPrefix) =
      some (management.withServices
        (management.services.register queryID pipeID pathPrefix)) := rfl

theorem after_lose (management : Management) (pipeID : PipeID) :
    management.after (.lose pipeID) =
      (management.services.pipeEvent pipeID).map management.withServices := by
  cases recorded : management.services.registrationMap pipeID with
  | none =>
      simp [after, sections, loseSection, recorded,
        Services.pipeEvent_of_unrecorded recorded]
  | some path =>
      rw [Services.pipeEvent_of_recorded recorded]
      cases found : management.services.map path with
      | none =>
          simp [after, sections, loseSection, recorded, found, change, Monitor.updated,
            withServices, erase_of_none found]
      | some route =>
          simp [after, sections, loseSection, recorded, found, change, Monitor.updated,
            withServices]

/-- Closing routes and taking them off the queue can be exchanged. -/
theorem foldl_closeRoute_routeClose (routes queue : List Route) :
    (services : Services) →
      routes.foldl Services.closeRoute { services with routeClose := queue } =
        { routes.foldl Services.closeRoute services with routeClose := queue } := by
  induction routes with
  | nil => exact fun services => rfl
  | cons route routes ih => exact fun services => ih (services.closeRoute route)

theorem closeRoutes_cons {services : Services} {route : Route} {queue : List Route}
    (queued : services.routeClose = route :: queue) :
    (Services.closeRoute { services with routeClose := queue } route).closeRoutes =
      services.closeRoutes := by
  have rest := foldl_closeRoute_routeClose queue queue (services.closeRoute route)
  simp only [Services.closeRoutes, queued, List.foldl_cons]
  exact congrArg (fun closed : Services => { closed with routeClose := [] }) rest

section Turns

variable {services : Services} {run : Bool} {dial : Services.Dial}

theorem turn_closing_nil (empty : services.routeClose = []) :
    turn .closing dial ⟨services, run⟩ = some (⟨services, run⟩, .goto .opening) := by
  simp [turn, empty]

theorem turn_closing_cons {route : Route} {queue : List Route}
    (queued : services.routeClose = route :: queue) :
    turn .closing dial ⟨services, run⟩ =
      some (⟨Services.closeRoute { services with routeClose := queue } route, run⟩,
        .goto .closing) := by
  simp [turn, queued, withServices]

theorem turn_opening_nil (empty : services.routeOpen = []) :
    turn .opening dial ⟨services, run⟩ = some (⟨services, run⟩, .wait) := by
  simp [turn, empty]

theorem turn_opening_cons {spec : NewRoute} {queue : List NewRoute}
    (queued : services.routeOpen = spec :: queue) :
    turn .opening dial ⟨services, run⟩ =
      (Services.openRoute { services with routeOpen := queue } spec dial).map fun next =>
        (⟨next, run⟩, .goto .opening) := by
  simp [turn, queued, withServices]

theorem run_turn {point : Point} {before after : Management} {onward : Next Point}
    (turned : turn point dial before = some (after, onward)) (labels : List Label) :
    Lib.run step ⟨before, .inside point⟩ (.act dial :: labels) =
      Lib.run step ⟨after, onward.consumer⟩ labels :=
  Monitor.run_act turned labels

end Turns

/-- The loop over `route_close`, turn by turn. -/
theorem run_closing (run : Bool) (queue : List Route) :
    (services : Services) → services.routeClose = queue →
      Lib.run step ⟨⟨services, run⟩, .inside .closing⟩
          (List.replicate (queue.length + 1) (.act .ok)) =
        some ⟨⟨services.closeRoutes, run⟩, .inside .opening⟩ := by
  induction queue with
  | nil =>
      intro services empty
      have unchanged : services.closeRoutes = services := by
        rw [Services.closeRoutes, empty, List.foldl_nil, ← empty]
      rw [List.length_nil, List.replicate_succ, run_turn (turn_closing_nil empty),
        unchanged]
      rfl
  | cons route queue ih =>
      intro services queued
      have rest := ih (Services.closeRoute { services with routeClose := queue } route)
        rfl
      rw [closeRoutes_cons queued] at rest
      rw [List.length_cons, List.replicate_succ, run_turn (turn_closing_cons queued)]
      exact rest

/-- The choices the thread makes in the loop over `route_open`. -/
def dialings : List NewRoute → (Nat → Services.Dial) → List Label
  | [], _ => [.act .ok]
  | _ :: queue, dials => .act (dials 0) :: dialings queue fun turn => dials (turn + 1)

/-- The loop over `route_open`, turn by turn, to the wait. -/
theorem run_opening {after : Services} (run : Bool) (queue : List NewRoute) :
    (dials : Nat → Services.Dial) → (services : Services) →
      services.routeOpen = queue → Services.openRoutes queue dials services = some after →
      Lib.run step ⟨⟨services, run⟩, .inside .opening⟩ (dialings queue dials) =
        some ⟨⟨after, run⟩, .blocked⟩ := by
  induction queue with
  | nil =>
      intro dials services empty returned
      obtain rfl := Option.some.inj returned
      rw [dialings, run_turn (turn_opening_nil empty)]
      rfl
  | cons spec queue ih =>
      intro dials services queued returned
      simp only [Services.openRoutes] at returned
      split at returned
      · contradiction
      · next next turned =>
          have acted : turn .opening (dials 0) ⟨services, run⟩ =
              some (⟨next, run⟩, .goto .opening) := by
            rw [turn_opening_cons queued, turned]
            rfl
          rw [dialings, run_turn acted]
          exact ih (fun turn => dials (turn + 1)) next
            (Services.openRoute_opened turned).2.1 returned

/-- Between two waits the thread makes one pass of the directory's machine. -/
theorem run_pass {services after : Services} {dials : Nat → Services.Dial}
    (passed : services.manage dials = some after) :
    Lib.run step ⟨⟨services, true⟩, .woken⟩
        (.acquire :: .act .ok ::
          (List.replicate (services.routeClose.length + 1) (.act .ok) ++
            dialings services.routeOpen dials)) =
      some ⟨⟨after, true⟩, .blocked⟩ := by
  have same := (Services.closeRoutes_same services).routeOpen
  rw [Services.manage, same] at passed
  have closed := run_closing true services.routeClose services rfl
  have opened := run_opening true services.routeOpen dials services.closeRoutes same passed
  have whole : Lib.run step ⟨⟨services, true⟩, .inside .closing⟩
      (List.replicate (services.routeClose.length + 1) (.act .ok) ++
        dialings services.routeOpen dials) = some ⟨⟨after, true⟩, .blocked⟩ := by
    rw [run_append, closed]
    exact opened
  exact whole

/-! ## No work is slept on -/

/-- There is nothing to close, nothing to open, and no shutdown. -/
def Calm (management : Management) : Prop :=
  management.services.routeOpen = [] ∧ management.services.routeClose = [] ∧
    management.run = true

/-- What the thread knows at each point. -/
def Known : Point → Management → Prop
  | .running, _ => True
  | .closing, management => management.run = true
  | .opening, management =>
      management.run = true ∧ management.services.routeClose = []

theorem known_of_goto {point after : Point} {dial : Services.Dial}
    {management next : Management} (known : Known point management)
    (turned : turn point dial management = some (next, .goto after)) :
    Known after next := by
  obtain ⟨services, run⟩ := management
  cases point with
  | running =>
      simp only [turn, Option.some.injEq, Prod.mk.injEq] at turned
      obtain ⟨rfl, onward⟩ := turned
      split at onward
      · next running =>
          cases onward
          exact running
      · contradiction
  | closing =>
      cases queued : services.routeClose with
      | nil =>
          rw [turn_closing_nil queued] at turned
          cases turned
          exact ⟨known, queued⟩
      | cons route queue =>
          rw [turn_closing_cons queued] at turned
          cases turned
          exact known
  | opening =>
      cases queued : services.routeOpen with
      | nil =>
          rw [turn_opening_nil queued] at turned
          cases turned
      | cons spec queue =>
          rw [turn_opening_cons queued] at turned
          obtain ⟨opened, returned, same⟩ := Option.map_eq_some_iff.mp turned
          cases same
          exact ⟨known.1, (Services.openRoute_routeClose returned).trans known.2⟩

theorem calm_of_wait {point : Point} {dial : Services.Dial} {management next : Management}
    (known : Known point management)
    (turned : turn point dial management = some (next, .wait)) : Calm next := by
  obtain ⟨services, run⟩ := management
  cases point with
  | running =>
      simp only [turn, Option.some.injEq, Prod.mk.injEq] at turned
      have onward := turned.2
      split at onward <;> contradiction
  | closing =>
      cases queued : services.routeClose with
      | nil =>
          rw [turn_closing_nil queued] at turned
          cases turned
      | cons route queue =>
          rw [turn_closing_cons queued] at turned
          cases turned
  | opening =>
      cases queued : services.routeOpen with
      | nil =>
          rw [turn_opening_nil queued] at turned
          cases turned
          exact ⟨queued, known.2, known.1⟩
      | cons spec queue =>
          rw [turn_opening_cons queued] at turned
          obtain ⟨opened, _, same⟩ := Option.map_eq_some_iff.mp turned
          cases same

/-- Only `pipeEvent` may leave the mutex without a notification, and then it has
queued nothing. -/
theorem calm_or_notify (request : Request) (management : Management)
    (calm : Calm management) : Monitor.Heeds sections Calm management request := by
  intro statements begun
  cases request with
  | register queryID pipeID pathPrefix =>
      cases begun
      exact Or.inr rfl
  | shutdown =>
      cases begun
      exact Or.inr rfl
  | lose pipeID =>
      simp only [sections, loseSection] at begun
      split at begun
      · contradiction
      · split at begun
        · cases begun
          exact Or.inl calm
        · cases begun
          exact Or.inr rfl

theorem attentive : Monitor.Attentive thread sections Calm Known where
  start _ := trivial
  resume _ := trivial
  goes _ _ _ _ _ known turned := known_of_goto known turned
  waits _ _ _ _ known turned := calm_of_wait known turned
  notifies := calm_or_notify

/-- The management thread never sleeps on pending work. -/
theorem nothing_pending_of_blocked {services : Services} {labels : List Label}
    {final : Monitor Management Point}
    (reached : Lib.run step (created services) labels = some final)
    (blocked : final.consumer = .blocked) :
    final.data.services.routeOpen = [] ∧ final.data.services.routeClose = [] ∧
      final.data.run = true :=
  attentive.calm_of_blocked reached blocked

/-- A registration that arrives before the thread has locked the mutex, and the loss
of its pipe while the thread waits, are both attended to before it sleeps. -/
theorem nothing_pending_early_notice :
    ∃ final, Lib.run step (created (Services.initial []))
        [.produce (.register 1 7 (ascii "/a")), .acquire, .act .ok, .act .ok, .act .ok,
          .act .ok, .produce (.lose 7), .acquire, .act .ok, .act .ok, .act .ok,
          .act .ok] = some final ∧
      final.consumer = .blocked ∧ final.data.services.answers.length = 1 ∧
      final.data.services.routeOpen = [] ∧ final.data.services.routeClose = [] ∧
      final.data.run = true := by
  have reached : (Lib.run step (created (Services.initial []))
      [.produce (.register 1 7 (ascii "/a")), .acquire, .act .ok, .act .ok, .act .ok,
        .act .ok, .produce (.lose 7), .acquire, .act .ok, .act .ok, .act .ok,
        .act .ok]).map (fun final =>
          (final.consumer, final.data.services.answers.length)) = some (.blocked, 1) := by
    decide +kernel
  obtain ⟨final, run, summary⟩ := Option.map_eq_some_iff.mp reached
  simp only [Prod.mk.injEq] at summary
  exact ⟨final, run, summary.1, summary.2, nothing_pending_of_blocked run summary.1⟩

/-- The same between any two statements: a thread that is asleep when the section that
is open has come to its end has nothing to do. -/
theorem nothing_pending_interleaved {services : Services}
    {labels : List (Interleaved.Label Request Services.Dial)}
    {final : Interleaved Management Point}
    (reached : Lib.run (Interleaved.step thread sections) ⟨created services, none⟩
      labels = some final)
    (blocked : final.view.consumer = .blocked) : Calm final.view.data :=
  Interleaved.calm_of_blocked attentive reached blocked

end Management

end Telling.Server
