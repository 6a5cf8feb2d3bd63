import Telling.Lib.Machine

/-!
# Monitors with one waiting thread

Data under a mutex, any number of producers, and one consumer that waits on a
condition variable.  A producer locks the mutex, executes the statements of its
section and unlocks it; the consumer runs a program and gives the mutex up only
while it waits.  A notification wakes the consumer if it is waiting and is
otherwise lost.  A section or a turn of the program may end the process; then it has no
result, and nothing follows.

Nobody sees the data in the middle of a section, so the machine takes a section in
one step; `Interleaved` takes one statement at a time and refines it.  The rule at
the end gives what a waiting consumer can rely on.
-/

namespace Telling.Lib

universe u v w x

/-- What a thread does while it holds the mutex. -/
inductive Statement (Data : Type u) where
  | update (change : Data → Data)
  | notify

def Statement.isNotify {Data : Type u} : Statement Data → Bool
  | .notify => true
  | .update _ => false

/-- Where the consumer is: before its first lock, at a point of its program, waiting,
notified and without the mutex, or past its program. -/
inductive Consumer (Point : Type v) where
  | entering
  | inside (point : Point)
  | blocked
  | woken
  | finished
  deriving DecidableEq, Repr

/-- `notify_one`. -/
def Consumer.notified {Point : Type v} : Consumer Point → Consumer Point
  | .blocked => .woken
  | consumer => consumer

/-- Where a program goes on. -/
inductive Next (Point : Type v) where
  | goto (point : Point)
  | wait
  | leave
  deriving DecidableEq, Repr

def Next.consumer {Point : Type v} : Next Point → Consumer Point
  | .goto point => .inside point
  | .wait => .blocked
  | .leave => .finished

/-- The program of the consumer: where it begins after its first lock and after a
wait, and what it does at each point. -/
structure Program (Data : Type u) (Point : Type v) (Choice : Type w) where
  start : Point
  resume : Point
  act : Point → Choice → Data → Option (Data × Next Point)

/-- What each producer does while it holds the mutex. -/
abbrev Sections (Request : Type x) (Data : Type u) :=
  Request → Data → Option (List (Statement Data))

structure Monitor (Data : Type u) (Point : Type v) where
  data : Data
  consumer : Consumer Point

namespace Monitor

variable {Data : Type u} {Point : Type v} {Choice : Type w} {Request : Type x}

def perform (monitor : Monitor Data Point) : Statement Data → Monitor Data Point
  | .update change => { monitor with data := change monitor.data }
  | .notify => { monitor with consumer := monitor.consumer.notified }

def performAll (monitor : Monitor Data Point) (statements : List (Statement Data)) :
    Monitor Data Point :=
  statements.foldl perform monitor

inductive Label (Request : Type x) (Choice : Type w) where
  | produce (request : Request)
  | acquire
  | act (choice : Choice)
  | spurious

/-- The consumer takes the mutex. -/
def acquire (program : Program Data Point Choice) (monitor : Monitor Data Point) :
    Option (Monitor Data Point) :=
  match monitor.consumer with
  | .entering => some { monitor with consumer := .inside program.start }
  | .woken => some { monitor with consumer := .inside program.resume }
  | _ => none

/-- The consumer does what its program says. -/
def act (program : Program Data Point Choice) (monitor : Monitor Data Point)
    (choice : Choice) : Option (Monitor Data Point) :=
  match monitor.consumer with
  | .inside point =>
      (program.act point choice monitor.data).map fun (data, next) => ⟨data, next.consumer⟩
  | _ => none

/-- The consumer wakes up without a notification. -/
def spurious (monitor : Monitor Data Point) : Option (Monitor Data Point) :=
  match monitor.consumer with
  | .blocked => some { monitor with consumer := .woken }
  | _ => none

/-- A producer executes its section; the consumer must not hold the mutex. -/
def produce (sections : Sections Request Data) (monitor : Monitor Data Point)
    (request : Request) : Option (Monitor Data Point) :=
  match monitor.consumer with
  | .inside _ => none
  | _ => (sections request monitor.data).map monitor.performAll

def step (program : Program Data Point Choice) (sections : Sections Request Data)
    (monitor : Monitor Data Point) :
    Label Request Choice → Option (Monitor Data Point)
  | .produce request => monitor.produce sections request
  | .acquire => monitor.acquire program
  | .act choice => monitor.act program choice
  | .spurious => monitor.spurious

/-! ## Sections -/

/-- The data after a section. -/
def updated (data : Data) (statements : List (Statement Data)) : Data :=
  statements.foldl (fun data statement =>
    match statement with
    | .update change => change data
    | .notify => data) data

theorem updated_append (data : Data) (left right : List (Statement Data)) :
    updated data (left ++ right) = updated (updated data left) right :=
  List.foldl_append

@[simp] theorem notified_notified (consumer : Consumer Point) :
    consumer.notified.notified = consumer.notified := by
  cases consumer <;> rfl

/-- A section changes the data, and wakes the consumer if it notifies. -/
theorem performAll_eq (statements : List (Statement Data)) :
    (monitor : Monitor Data Point) → monitor.performAll statements =
      ⟨updated monitor.data statements,
        if statements.any Statement.isNotify then monitor.consumer.notified
        else monitor.consumer⟩ := by
  induction statements with
  | nil => exact fun monitor => rfl
  | cons statement statements ih =>
      intro monitor
      have rest := ih (monitor.perform statement)
      rw [performAll] at rest ⊢
      rw [List.foldl_cons, rest]
      cases statement with
      | update change => rfl
      | notify => simp [perform, updated, Statement.isNotify]

theorem blocked_of_section {consumer : Consumer Point}
    {statements : List (Statement Data)}
    (blocked : (if statements.any Statement.isNotify then consumer.notified
      else consumer) = .blocked) :
    consumer = .blocked ∧ ¬ statements.any Statement.isNotify = true := by
  split at blocked
  · cases consumer <;> simp [Consumer.notified] at blocked
  · next silent => exact ⟨blocked, silent⟩

theorem inside_of_section {consumer : Consumer Point}
    {statements : List (Statement Data)} {point : Point}
    (inside : (if statements.any Statement.isNotify then consumer.notified
      else consumer) = .inside point) : consumer = .inside point := by
  split at inside
  · cases consumer <;> simp_all [Consumer.notified]
  · exact inside

/-! ## Steps -/

section Steps

variable {program : Program Data Point Choice}
variable {sections : Sections Request Data}
variable {monitor next : Monitor Data Point}

theorem act_eq_some {choice : Choice}
    (stepped : monitor.act program choice = some next) :
    ∃ point data onward, monitor.consumer = .inside point ∧
      program.act point choice monitor.data = some (data, onward) ∧
      next = ⟨data, onward.consumer⟩ := by
  unfold act at stepped
  split at stepped
  · next point inside =>
      obtain ⟨⟨data, onward⟩, acted, rfl⟩ := Option.map_eq_some_iff.mp stepped
      exact ⟨point, data, onward, inside, acted, rfl⟩
  · contradiction

/-- A turn of the consumer that returns. -/
theorem run_act {point : Point} {choice : Choice} {data after : Data}
    {onward : Next Point} (acted : program.act point choice data = some (after, onward))
    (labels : List (Label Request Choice)) :
    run (step program sections) ⟨data, .inside point⟩ (.act choice :: labels) =
      run (step program sections) ⟨after, onward.consumer⟩ labels := by
  simp [run, step, act, acted]

theorem spurious_eq_some (stepped : monitor.spurious = some next) :
    monitor.consumer = .blocked ∧ { monitor with consumer := .woken } = next := by
  unfold spurious at stepped
  split at stepped
  · next blocked => exact ⟨blocked, Option.some.inj stepped⟩
  · contradiction

theorem produce_eq_some {request : Request}
    (stepped : monitor.produce sections request = some next) :
    (∀ point, monitor.consumer ≠ .inside point) ∧
      ∃ statements, sections request monitor.data = some statements ∧
        monitor.performAll statements = next := by
  unfold produce at stepped
  split at stepped
  · contradiction
  · next outside => exact ⟨outside, Option.map_eq_some_iff.mp stepped⟩

end Steps

/-! ## Waiting -/

section Waiting

variable {program : Program Data Point Choice}
variable {sections : Sections Request Data}

/-- What has to be shown of a program alone: with `Holds` for its points, it waits only
when the data is calm. -/
structure Watchful (program : Program Data Point Choice) (Calm : Data → Prop)
    (Holds : Point → Data → Prop) : Prop where
  start : ∀ data, Holds program.start data
  resume : ∀ data, Holds program.resume data
  goes : ∀ point choice data next after, Holds point data →
    program.act point choice data = some (next, .goto after) → Holds after next
  waits : ∀ point choice data next, Holds point data →
    program.act point choice data = some (next, .wait) → Calm next

/-- A section leaves the data calm or notifies. -/
def Heeds (sections : Sections Request Data) (Calm : Data → Prop) (data : Data)
    (request : Request) : Prop :=
  ∀ statements, sections request data = some statements →
    Calm (updated data statements) ∨ statements.any Statement.isNotify = true

/-- What has to be shown of a program and of sections: the program is watchful, and a
section that disturbs calm data notifies. -/
structure Attentive (program : Program Data Point Choice)
    (sections : Sections Request Data) (Calm : Data → Prop)
    (Holds : Point → Data → Prop) : Prop extends Watchful program Calm Holds where
  notifies : ∀ request data, Calm data → Heeds sections Calm data request

/-- A condition on the sections that are executed while the consumer waits. -/
def WhileBlocked (Heeded : Data → Request → Prop) (monitor : Monitor Data Point) :
    Label Request Choice → Prop
  | .produce request => monitor.consumer = .blocked → Heeded monitor.data request
  | .acquire | .act _ | .spurious => True

instance WhileBlocked.decidable [DecidableEq Point] {Heeded : Data → Request → Prop}
    [∀ data request, Decidable (Heeded data request)] (monitor : Monitor Data Point) :
    (label : Label Request Choice) → Decidable (monitor.WhileBlocked Heeded label)
  | .produce request =>
      inferInstanceAs (Decidable (monitor.consumer = .blocked →
        Heeded monitor.data request))
  | .acquire | .act _ | .spurious => isTrue trivial

/-- What is known of the data, by the place of the consumer. -/
def Knows (Calm : Data → Prop) (Holds : Point → Data → Prop)
    (monitor : Monitor Data Point) : Prop :=
  (monitor.consumer = .blocked → Calm monitor.data) ∧
    ∀ point, monitor.consumer = .inside point → Holds point monitor.data

variable {Calm : Data → Prop} {Holds : Point → Data → Prop}
variable {monitor next : Monitor Data Point}

/-- A waiting consumer sleeps on after a section exactly when that does not notify. -/
theorem blocked_section_iff {consumer : Consumer Point}
    {statements : List (Statement Data)} (blocked : consumer = .blocked) :
    (if statements.any Statement.isNotify then consumer.notified else consumer) =
        .blocked ↔ ¬ statements.any Statement.isNotify = true := by
  subst blocked
  by_cases notifies : statements.any Statement.isNotify = true
  · simp [notifies, Consumer.notified]
  · simp [notifies]

namespace Watchful

theorem acquire (watchful : Watchful program Calm Holds)
    (stepped : monitor.acquire program = some next) : next.Knows Calm Holds := by
  cases place : monitor.consumer with
  | entering =>
      simp only [Monitor.acquire, place, Option.some.injEq] at stepped
      subst stepped
      refine ⟨by simp, fun point inside => ?_⟩
      cases inside
      exact watchful.start monitor.data
  | woken =>
      simp only [Monitor.acquire, place, Option.some.injEq] at stepped
      subst stepped
      refine ⟨by simp, fun point inside => ?_⟩
      cases inside
      exact watchful.resume monitor.data
  | inside point => simp [Monitor.acquire, place] at stepped
  | blocked => simp [Monitor.acquire, place] at stepped
  | finished => simp [Monitor.acquire, place] at stepped

theorem act (watchful : Watchful program Calm Holds)
    (knows : monitor.Knows Calm Holds) {choice : Choice}
    (stepped : monitor.act program choice = some next) : next.Knows Calm Holds := by
  obtain ⟨point, data, onward, inside, acted, rfl⟩ := act_eq_some stepped
  have holds := knows.2 point inside
  cases onward with
  | goto after =>
      refine ⟨by simp [Next.consumer], fun other same => ?_⟩
      cases same
      exact watchful.goes point choice monitor.data data after holds acted
  | wait =>
      refine ⟨fun _ => ?_, by simp [Next.consumer]⟩
      exact watchful.waits point choice monitor.data data holds acted
  | leave => exact ⟨by simp [Next.consumer], by simp [Next.consumer]⟩

end Watchful

/-- A section that leaves a waiting consumer asleep leaves the data calm. -/
theorem knows_of_produce {request : Request}
    (heeds : monitor.consumer = .blocked → Heeds sections Calm monitor.data request)
    (stepped : monitor.produce sections request = some next) :
    next.Knows Calm Holds := by
  obtain ⟨outside, statements, begun, rfl⟩ := produce_eq_some stepped
  rw [performAll_eq]
  constructor
  · intro blocked
    obtain ⟨asleep, silent⟩ := blocked_of_section blocked
    exact (heeds asleep statements begun).resolve_right silent
  · intro point inside
    exact absurd (inside_of_section inside) (outside point)

namespace Watchful

theorem step (watchful : Watchful program Calm Holds)
    (knows : monitor.Knows Calm Holds) {label : Label Request Choice}
    (heeds : monitor.WhileBlocked (Heeds sections Calm) label)
    (stepped : monitor.step program sections label = some next) :
    next.Knows Calm Holds := by
  cases label with
  | produce request => exact knows_of_produce heeds stepped
  | acquire => exact watchful.acquire stepped
  | act choice => exact watchful.act knows stepped
  | spurious =>
      obtain ⟨-, rfl⟩ := spurious_eq_some stepped
      exact ⟨by simp, by simp⟩

/-- The exact condition under which a consumer sleeps on calm data only: each section
that is executed while it waits leaves the data calm or notifies. -/
theorem calm_iff_heeded (watchful : Watchful program Calm Holds)
    {Heeded : Data → Request → Prop}
    (heeded_iff : ∀ request data, Calm data →
      (Heeded data request ↔ Heeds sections Calm data request))
    {data : Data} {labels : List (Label Request Choice)} {final : Monitor Data Point}
    (reached : run (Monitor.step program sections) ⟨data, .entering⟩ labels = some final) :
    Along (Monitor.step program sections)
        (fun monitor => monitor.consumer = .blocked → Calm monitor.data)
        ⟨data, .entering⟩ labels ↔
      Meets (Monitor.step program sections) (WhileBlocked Heeded) ⟨data, .entering⟩
        labels := by
  refine along_iff_meets (Knows Calm Holds) (fun _ knows => knows.1) ?_ ?_
    ⟨by simp, by simp⟩ reached
  · intro monitor label next knows heeded stepped
    refine watchful.step knows ?_ stepped
    cases label with
    | produce request =>
        exact fun blocked =>
          (heeded_iff request _ (knows.1 blocked)).mp (heeded blocked)
    | acquire => trivial
    | act choice => trivial
    | spurious => trivial
  · intro monitor label next knows unheeded stepped calm
    cases label with
    | produce request =>
        obtain ⟨blocked, ignored⟩ := Classical.not_imp.mp unheeded
        obtain ⟨-, statements, begun, rfl⟩ := produce_eq_some stepped
        rw [heeded_iff request _ (knows.1 blocked)] at ignored
        apply ignored
        intro others same
        obtain rfl := Option.some.inj (begun.symm.trans same)
        by_contra unattended
        rw [not_or] at unattended
        rw [performAll_eq] at calm
        exact unattended.1 (calm ((blocked_section_iff blocked).mpr unattended.2))
    | acquire => exact unheeded trivial
    | act choice => exact unheeded trivial
    | spurious => exact unheeded trivial

end Watchful

namespace Attentive

/-- No wake-up is lost: whenever the consumer waits and was not notified, the data
is calm. -/
theorem calm_of_blocked (attentive : Attentive program sections Calm Holds)
    {data : Data} {labels : List (Label Request Choice)} {final : Monitor Data Point}
    (reached : run (Monitor.step program sections) ⟨data, .entering⟩ labels = some final)
    (blocked : final.consumer = .blocked) : Calm final.data := by
  -- Every section of an attentive monitor is heeded, so the condition is trivial.
  have always : ∀ request data, Calm data →
      (True ↔ Heeds sections Calm data request) :=
    fun request data calm => iff_of_true trivial (attentive.notifies request data calm)
  have along := (attentive.toWatchful.calm_iff_heeded always reached).mpr
    (meets_of_always (fun monitor label => by cases label <;> simp [WhileBlocked]) _ _)
  exact along.final reached blocked

end Attentive

end Waiting

end Monitor

/-! ## Interleaved statements -/

/-- A monitor whose sections are taken apart: `pending` holds what is left of the
section of the producer that has the mutex. -/
structure Interleaved (Data : Type u) (Point : Type v) where
  monitor : Monitor Data Point
  pending : Option (List (Statement Data))

namespace Interleaved

variable {Data : Type u} {Point : Type v} {Choice : Type w} {Request : Type x}

inductive Label (Request : Type x) (Choice : Type w) where
  | lock (request : Request)
  | statement
  | unlock
  | acquire
  | act (choice : Choice)
  | spurious

/-- A producer locks the mutex when nobody else holds it.  What it is going to do
depends on the data, which nobody else can change from here on. -/
def lock (sections : Sections Request Data) (state : Interleaved Data Point)
    (request : Request) : Option (Interleaved Data Point) :=
  match state.pending, state.monitor.consumer with
  | none, .inside _ => none
  | none, _ =>
      (sections request state.monitor.data).map fun statements =>
        { state with pending := some statements }
  | some _, _ => none

def step (program : Program Data Point Choice) (sections : Sections Request Data)
    (state : Interleaved Data Point) :
    Label Request Choice → Option (Interleaved Data Point)
  | .lock request => state.lock sections request
  | .statement =>
      match state.pending with
      | some (statement :: rest) => some ⟨state.monitor.perform statement, some rest⟩
      | _ => none
  | .unlock =>
      match state.pending with
      | some [] => some { state with pending := none }
      | _ => none
  | .acquire =>
      match state.pending with
      | none => (state.monitor.acquire program).map (⟨·, none⟩)
      | some _ => none
  | .act choice =>
      match state.pending with
      | none => (state.monitor.act program choice).map (⟨·, none⟩)
      | some _ => none
  | .spurious => state.monitor.spurious.map (⟨·, state.pending⟩)

/-- The monitor once the section that is open has come to its end. -/
def view (state : Interleaved Data Point) : Monitor Data Point :=
  state.monitor.performAll (state.pending.getD [])

/-- A section counts when its producer takes the mutex.  A consumer that wakes up in
the middle of a section which is about to notify it does nothing new. -/
def move (state : Interleaved Data Point) :
    Label Request Choice → Option (Monitor.Label Request Choice)
  | .lock request => some (.produce request)
  | .statement | .unlock => none
  | .acquire => some .acquire
  | .act choice => some (.act choice)
  | .spurious =>
      if (state.pending.getD []).any Statement.isNotify then none else some .spurious

section Refinement

variable {program : Program Data Point Choice}
variable {sections : Sections Request Data}
variable {state next : Interleaved Data Point}

theorem view_of_closed (closed : state.pending = none) : state.view = state.monitor := by
  rw [view, closed]
  rfl

theorem lock_refines {request : Request}
    (stepped : state.lock sections request = some next) :
    state.view.produce sections request = some next.view := by
  unfold lock at stepped
  split at stepped
  · contradiction
  · next closed outside =>
      obtain ⟨statements, begun, rfl⟩ := Option.map_eq_some_iff.mp stepped
      rw [view_of_closed closed]
      unfold Monitor.produce
      split
      · next point inside => exact absurd inside (outside point)
      · rw [begun]
        rfl
  · contradiction

theorem statement_refines
    (stepped : state.step program sections .statement = some next) :
    next.view = state.view := by
  simp only [step] at stepped
  split at stepped
  · next statement rest opened =>
      cases stepped
      simp [view, opened, Monitor.performAll]
  · contradiction

theorem unlock_refines (stepped : state.step program sections .unlock = some next) :
    next.view = state.view := by
  simp only [step] at stepped
  split at stepped
  · next opened =>
      cases stepped
      simp [view, opened]
  · contradiction

/-- What the consumer does with the mutex, it does while no section is open. -/
theorem consumer_refines (move : Monitor Data Point → Option (Monitor Data Point))
    (stepped : (match state.pending with
      | none => (move state.monitor).map (⟨·, none⟩)
      | some _ => none) = some next) :
    move state.view = some next.view := by
  split at stepped
  · next closed =>
      obtain ⟨monitor, moved, rfl⟩ := Option.map_eq_some_iff.mp stepped
      rw [view_of_closed closed, moved]
      rfl
  · contradiction

theorem spurious_refines
    (stepped : state.step program sections .spurious = some next) :
    if (state.pending.getD []).any Statement.isNotify then next.view = state.view
    else state.view.spurious = some next.view := by
  obtain ⟨monitor, moved, rfl⟩ := Option.map_eq_some_iff.mp stepped
  obtain ⟨blocked, rfl⟩ := Monitor.spurious_eq_some moved
  simp only [view, Monitor.performAll_eq, blocked]
  split
  · rfl
  · rfl

/-- Taking sections in one step loses no behaviour. -/
theorem refines :
    Refines (step program sections) (Monitor.step program sections) view move := by
  intro state label next stepped
  cases label with
  | lock request => simp [move, run, Monitor.step, lock_refines stepped]
  | statement => simp [move, statement_refines stepped]
  | unlock => simp [move, unlock_refines stepped]
  | acquire =>
      have matched := consumer_refines (Monitor.acquire program) stepped
      simp [move, run, Monitor.step, matched]
  | act choice =>
      have matched := consumer_refines (Monitor.act program · choice) stepped
      simp [move, run, Monitor.step, matched]
  | spurious =>
      have matched := spurious_refines stepped
      unfold move
      split at matched
      · simp [*]
      · simp [*, run, Monitor.step]

/-- No wake-up is lost between the statements of a section either: a consumer that is
asleep when the open section has ended sleeps on calm data. -/
theorem calm_of_blocked {Calm : Data → Prop} {Holds : Point → Data → Prop}
    (attentive : Monitor.Attentive program sections Calm Holds) {data : Data}
    {labels : List (Label Request Choice)} {final : Interleaved Data Point}
    (reached : run (step program sections) ⟨⟨data, .entering⟩, none⟩ labels =
      some final)
    (blocked : final.view.consumer = .blocked) : Calm final.view.data :=
  attentive.calm_of_blocked (refines.run_trace reached) blocked

end Refinement

end Interleaved

end Telling.Lib
