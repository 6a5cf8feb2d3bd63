import Mathlib.Data.List.Induction

/-!
# Runs of labelled machines

A machine is a partial step function on states.  A run feeds it a list of
labels.  The rules below turn facts about one step into facts about every state
of a run: invariants under a step condition, exact step conditions, and
refinement of a more abstract machine.
-/

namespace Telling.Lib

universe u v w x

variable {State : Type u} {Label : Type v}

/-- Feed a list of labels to a machine.  The result is `none` as soon as a label
is not enabled. -/
def run (step : State → Label → Option State) :
    State → List Label → Option State
  | state, [] => some state
  | state, label :: labels =>
      match step state label with
      | none => none
      | some next => run step next labels

/-- Every label of a run meets `condition` in the state it is taken from. -/
def Meets (step : State → Label → Option State)
    (condition : State → Label → Prop) : State → List Label → Prop
  | _, [] => True
  | state, label :: labels =>
      condition state label ∧
        ∀ next, step state label = some next → Meets step condition next labels

instance Meets.decidable {step : State → Label → Option State}
    {condition : State → Label → Prop} [∀ state label, Decidable (condition state label)] :
    (state : State) → (labels : List Label) →
      Decidable (Meets step condition state labels)
  | _, [] => isTrue trivial
  | state, label :: labels =>
      have : Decidable (∀ next, step state label = some next →
          Meets step condition next labels) :=
        match step state label with
        | none => isTrue (by simp)
        | some next =>
            have : Decidable (Meets step condition next labels) :=
              Meets.decidable next labels
            decidable_of_iff (Meets step condition next labels) (by simp)
      inferInstanceAs (Decidable (_ ∧ _))

/-- Every state of a run, the first and the last included, satisfies
`property`. -/
def Along (step : State → Label → Option State) (property : State → Prop) :
    State → List Label → Prop
  | state, [] => property state
  | state, label :: labels =>
      property state ∧
        ∀ next, step state label = some next → Along step property next labels

variable {step : State → Label → Option State}

@[simp] theorem run_nil (state : State) : run step state [] = some state := rfl

theorem run_cons_eq_some {state final : State} {label : Label}
    {labels : List Label} :
    run step state (label :: labels) = some final ↔
      ∃ next, step state label = some next ∧
        run step next labels = some final := by
  simp only [run]
  cases step state label with
  | none => simp
  | some next => simp

theorem run_append {state : State} {left right : List Label} :
    run step state (left ++ right) =
      (run step state left).bind fun middle => run step middle right := by
  induction left generalizing state with
  | nil => rfl
  | cons label labels ih =>
      simp only [List.cons_append, run]
      cases step state label with
      | none => rfl
      | some next => exact ih

theorem run_concat_eq_some {state final : State} {labels : List Label}
    {label : Label} :
    run step state (labels ++ [label]) = some final ↔
      ∃ middle, run step state labels = some middle ∧
        step middle label = some final := by
  rw [run_append]
  simp [Option.bind_eq_some_iff, run_cons_eq_some]

theorem meets_append {condition : State → Label → Prop} {state : State}
    {left right : List Label} :
    Meets step condition state (left ++ right) ↔
      Meets step condition state left ∧
        ∀ middle, run step state left = some middle →
          Meets step condition middle right := by
  induction left generalizing state with
  | nil => simp [Meets]
  | cons label labels ih =>
      simp only [List.cons_append, Meets, run_cons_eq_some]
      constructor
      · rintro ⟨head, tail⟩
        refine ⟨⟨head, fun next stepped => (ih.mp (tail next stepped)).1⟩, ?_⟩
        rintro middle ⟨next, stepped, reached⟩
        exact (ih.mp (tail next stepped)).2 middle reached
      · rintro ⟨⟨head, tail⟩, continued⟩
        refine ⟨head, fun next stepped => ih.mpr ⟨tail next stepped, ?_⟩⟩
        exact fun middle reached => continued middle ⟨next, stepped, reached⟩

/-- A condition that always holds is met by every run. -/
theorem meets_of_always {condition : State → Label → Prop}
    (holds : ∀ state label, condition state label) :
    (state : State) → (labels : List Label) → Meets step condition state labels
  | _, [] => trivial
  | state, label :: labels =>
      ⟨holds state label, fun next _ => meets_of_always holds next labels⟩

/-- Every run meets the trivial condition. -/
theorem meets_true (state : State) (labels : List Label) :
    Meets step (fun _ _ => True) state labels :=
  meets_of_always (fun _ _ => trivial) state labels

/-- A condition on labels alone is met by every run of such labels. -/
theorem meets_of_forall {condition : Label → Prop} :
    {state : State} → {labels : List Label} →
      (∀ label ∈ labels, condition label) →
      Meets step (fun _ label => condition label) state labels
  | _, [], _ => trivial
  | _, _ :: _, holds =>
      ⟨holds _ List.mem_cons_self, fun _ _ =>
        meets_of_forall fun label member => holds label (List.mem_cons_of_mem _ member)⟩

/-- Induction over a run that meets a step condition.  The property may mention
the labels fed so far. -/
theorem run_induction (property : List Label → State → Prop)
    {condition : State → Label → Prop} {initial : State}
    (start : property [] initial)
    (preserve : ∀ labels state label next,
      run step initial labels = some state → property labels state →
      condition state label → step state label = some next →
      property (labels ++ [label]) next)
    {labels : List Label} {final : State}
    (meets : Meets step condition initial labels)
    (reached : run step initial labels = some final) :
    property labels final := by
  induction labels using List.reverseRecOn generalizing final with
  | nil =>
      simp only [run_nil, Option.some.injEq] at reached
      exact reached ▸ start
  | append_singleton labels label ih =>
      obtain ⟨middle, before, stepped⟩ := run_concat_eq_some.mp reached
      obtain ⟨meetsBefore, meetsLast⟩ := meets_append.mp meets
      exact preserve labels middle label final before
        (ih meetsBefore before) (meetsLast middle before).1 stepped

/-- An invariant kept by the steps that meet a condition holds at the end of
every run that meets it. -/
theorem invariant_of_run (invariant : State → Prop)
    {condition : State → Label → Prop} {initial : State} (start : invariant initial)
    (preserve : ∀ state label next, invariant state → condition state label →
      step state label = some next → invariant next)
    {labels : List Label} {final : State}
    (meets : Meets step condition initial labels)
    (reached : run step initial labels = some final) : invariant final :=
  run_induction (fun _ state => invariant state) start
    (fun _ state label next _ => preserve state label next) meets reached

/-- The property that an invariant gives holds in every state of a run that meets
the condition. -/
theorem along_of_meets (invariant : State → Prop)
    {condition : State → Label → Prop} {property : State → Prop}
    (sound : ∀ state, invariant state → property state)
    (preserve : ∀ state label next, invariant state → condition state label →
      step state label = some next → invariant next)
    {state : State} {labels : List Label} (start : invariant state)
    (meets : Meets step condition state labels) :
    Along step property state labels := by
  induction labels generalizing state with
  | nil => exact sound state start
  | cons label labels ih =>
      refine ⟨sound state start, fun next stepped => ?_⟩
      exact ih (preserve state label next start meets.1 stepped)
        (meets.2 next stepped)

theorem Along.head {property : State → Prop} {state : State} {labels : List Label}
    (along : Along step property state labels) : property state := by
  cases labels with
  | nil => exact along
  | cons _ _ => exact along.1

/-- The exact-condition rule.  If an invariant gives the property, is kept by
every step inside the condition, and every step outside it breaks the property
at once, then a run keeps the property in all its states exactly when all its
steps meet the condition. -/
theorem along_iff_meets (invariant : State → Prop)
    {condition : State → Label → Prop} {property : State → Prop}
    (sound : ∀ state, invariant state → property state)
    (preserve : ∀ state label next, invariant state → condition state label →
      step state label = some next → invariant next)
    (broken : ∀ state label next, invariant state → ¬condition state label →
      step state label = some next → ¬property next)
    {state final : State} {labels : List Label} (start : invariant state)
    (reached : run step state labels = some final) :
    Along step property state labels ↔ Meets step condition state labels := by
  refine ⟨fun along => ?_, along_of_meets invariant sound preserve start⟩
  induction labels generalizing state with
  | nil => exact trivial
  | cons label labels ih =>
      obtain ⟨next, stepped, rest⟩ := run_cons_eq_some.mp reached
      have tail := along.2 next stepped
      have meetsHead : condition state label := by
        by_contra outside
        exact broken state label next start outside stepped tail.head
      simp only [Meets, stepped, Option.some.injEq, forall_eq']
      exact ⟨meetsHead,
        ih (preserve state label next start meetsHead stepped) rest tail⟩

/-- The exact-condition rule for properties of single steps.  If an invariant is
kept by every step inside the condition and makes the condition equivalent to the
property, then all steps of a run have the property exactly when all of them meet
the condition. -/
theorem meets_iff_meets (invariant : State → Prop)
    {condition property : State → Label → Prop}
    (exact : ∀ state label next, invariant state →
      step state label = some next →
      (property state label ↔ condition state label))
    (preserve : ∀ state label next, invariant state → condition state label →
      step state label = some next → invariant next)
    {state final : State} {labels : List Label} (start : invariant state)
    (reached : run step state labels = some final) :
    Meets step property state labels ↔ Meets step condition state labels := by
  induction labels generalizing state with
  | nil => exact Iff.rfl
  | cons label labels ih =>
      obtain ⟨next, stepped, rest⟩ := run_cons_eq_some.mp reached
      simp only [Meets, stepped, Option.some.injEq, forall_eq']
      rw [exact state label next start stepped]
      refine and_congr_right fun meetsHead => ?_
      exact ih (preserve state label next start meetsHead stepped) rest

/-- The same rule where the condition settles the property of every label, possible or
not: no run has to be given. -/
theorem meets_congr (invariant : State → Prop)
    {condition property : State → Label → Prop}
    (exact : ∀ state label, invariant state →
      (property state label ↔ condition state label))
    (preserve : ∀ state label next, invariant state → condition state label →
      step state label = some next → invariant next)
    {state : State} {labels : List Label} (start : invariant state) :
    Meets step property state labels ↔ Meets step condition state labels := by
  induction labels generalizing state with
  | nil => exact Iff.rfl
  | cons label labels ih =>
      simp only [Meets]
      rw [exact state label start]
      apply and_congr_right
      intro meetsHead
      apply forall₂_congr
      intro next stepped
      exact ih (preserve state label next start meetsHead stepped)

/-- The progress rule.  If the condition makes every step possible, then a run that
meets it comes to its end. -/
theorem run_of_meets (invariant : State → Prop) {condition : State → Label → Prop}
    (possible : ∀ state label, invariant state → condition state label →
      ∃ next, step state label = some next ∧ invariant next)
    {state : State} {labels : List Label} (start : invariant state)
    (meets : Meets step condition state labels) :
    ∃ final, run step state labels = some final ∧ invariant final := by
  induction labels generalizing state with
  | nil => exact ⟨state, rfl, start⟩
  | cons label labels ih =>
      obtain ⟨next, stepped, kept⟩ := possible state label start meets.1
      obtain ⟨final, reached, last⟩ := ih kept (meets.2 next stepped)
      exact ⟨final, run_cons_eq_some.mpr ⟨next, stepped, reached⟩, last⟩

/-- A property of every state of a run holds at its end. -/
theorem Along.final {property : State → Prop} {state final : State}
    {labels : List Label} (along : Along step property state labels)
    (reached : run step state labels = some final) : property final := by
  induction labels generalizing state with
  | nil =>
      simp only [run_nil, Option.some.injEq] at reached
      exact reached ▸ along
  | cons label labels ih =>
      obtain ⟨next, stepped, rest⟩ := run_cons_eq_some.mp reached
      exact ih (along.2 next stepped) rest

/-- The exact-condition rule for steps that do harm for good.  A step outside the
condition leads into states that no step leaves and that have no place at the end
of this run; then the run keeps the property in all its states only if all its
steps meet the condition. -/
theorem meets_of_along (invariant stuck : State → Prop)
    {condition : State → Label → Prop} {property : State → Prop}
    (preserve : ∀ state label next, invariant state → condition state label →
      step state label = some next → invariant next)
    (breach : ∀ state label next, invariant state → ¬condition state label →
      step state label = some next → stuck next)
    (absorb : ∀ state label next, stuck state →
      step state label = some next → stuck next)
    {state final : State} {labels : List Label} (start : invariant state)
    (reached : run step state labels = some final)
    (fatal : stuck final → ¬property final)
    (along : Along step property state labels) :
    Meets step condition state labels := by
  induction labels generalizing state with
  | nil => exact trivial
  | cons label labels ih =>
      obtain ⟨next, stepped, rest⟩ := run_cons_eq_some.mp reached
      have meetsHead : condition state label := by
        by_contra outside
        have stuckNext := breach state label next start outside stepped
        have stuckFinal : stuck final :=
          invariant_of_run stuck stuckNext
            (fun before label after stuckBefore _ => absorb before label after stuckBefore)
            (meets_true next labels) rest
        exact fatal stuckFinal (along.final reached)
      simp only [Meets, stepped, Option.some.injEq, forall_eq']
      exact ⟨meetsHead, ih (preserve state label next start meetsHead stepped) rest
        (along.2 next stepped)⟩

/-- If every step inside an invariant lowers a measure, then the measure bounds the
length of a run. -/
theorem length_le_of_run (invariant : State → Prop) (measure : State → Nat)
    (preserve : ∀ state label next, invariant state → step state label = some next →
      invariant next)
    (lowers : ∀ state label next, invariant state → step state label = some next →
      measure next < measure state)
    {state final : State} {labels : List Label} (start : invariant state)
    (reached : run step state labels = some final) : labels.length ≤ measure state := by
  induction labels generalizing state with
  | nil => exact Nat.zero_le _
  | cons label labels ih =>
      obtain ⟨next, stepped, rest⟩ := run_cons_eq_some.mp reached
      have bound := ih (preserve state label next start stepped) rest
      have lower := lowers state label next start stepped
      exact Nat.lt_of_le_of_lt bound lower

/-! ## Refinement -/

variable {Abstract : Type w} {Move : Type x}

/-- The abstract moves that a run makes, read off step by step. -/
def trace (step : State → Label → Option State)
    (move : State → Label → Option Move) : State → List Label → List Move
  | _, [] => []
  | state, label :: labels =>
      match step state label with
      | none => []
      | some next => (move state label).toList ++ trace step move next labels

/-- Refinement along an abstraction function: each step is one abstract move or
leaves the abstract state as it is. -/
def Refines (step : State → Label → Option State)
    (abstractStep : Abstract → Move → Option Abstract) (view : State → Abstract)
    (move : State → Label → Option Move) : Prop :=
  ∀ state label next, step state label = some next →
    run abstractStep (view state) (move state label).toList = some (view next)

namespace Refines

variable {abstractStep : Abstract → Move → Option Abstract}
variable {view : State → Abstract} {move : State → Label → Option Move}

/-- Every run of the concrete machine is a run of the abstract one. -/
theorem run_trace (refines : Refines step abstractStep view move) {state final : State}
    {labels : List Label} (reached : run step state labels = some final) :
    run abstractStep (view state) (trace step move state labels) =
      some (view final) := by
  induction labels generalizing state with
  | nil =>
      simp only [run_nil, Option.some.injEq] at reached
      rw [reached]
      rfl
  | cons label labels ih =>
      obtain ⟨next, stepped, rest⟩ := run_cons_eq_some.mp reached
      simp only [trace, stepped]
      rw [run_append, refines state label next stepped]
      exact ih rest

theorem taken (refines : Refines step abstractStep view move) {state next : State}
    {label : Label} {action : Move} (moved : move state label = some action)
    (stepped : step state label = some next) :
    abstractStep (view state) action = some (view next) := by
  have matched := refines state label next stepped
  rw [moved] at matched
  obtain ⟨after, taken, rest⟩ := run_cons_eq_some.mp matched
  exact taken.trans rest

theorem stutters (refines : Refines step abstractStep view move) {state next : State}
    {label : Label} (moved : move state label = none)
    (stepped : step state label = some next) : view next = view state := by
  have matched := refines state label next stepped
  rw [moved] at matched
  exact (Option.some.inj matched).symm

/-- A concrete step keeps what its abstract move keeps. -/
theorem preserve (refines : Refines step abstractStep view move)
    {invariant : Abstract → Prop} {condition : Abstract → Move → Prop}
    (kept : ∀ before action after, invariant before → condition before action →
      abstractStep before action = some after → invariant after)
    {state next : State} {label : Label} (holds : invariant (view state))
    (meets : ∀ action, move state label = some action →
      condition (view state) action)
    (stepped : step state label = some next) : invariant (view next) := by
  cases moved : move state label with
  | none => exact refines.stutters moved stepped ▸ holds
  | some action =>
      exact kept (view state) action (view next) holds (meets action moved)
        (refines.taken moved stepped)

end Refines

end Telling.Lib
