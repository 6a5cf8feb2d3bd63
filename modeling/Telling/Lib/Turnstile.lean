import Mathlib.Data.List.ReduceOption
import Telling.Lib.Machine

/-!
# One-at-a-time transmission behind a busy flag

A turnstile guards a resource that carries one item at a time.  Whoever submits
while the flag is down raises it and transmits for itself; everyone else leaves
the item in a queue.  When a transmission lands, the turn passes to the front of
the queue, or the flag goes down.

Items travel as handles, which may be null.  Activities that are about to
transmit are kept in a list, transmissions under way too: that there is never
more than one of them is a result, not an assumption.
-/

namespace Telling.Lib

universe u v w

/-- The state of a turnstile, with the items accepted and transmitted so far. -/
structure Turnstile (Item : Type u) where
  busy : Bool := false
  waiting : List (Option Item) := []
  /-- Activities past their decision, with the handle each one will transmit. -/
  holding : List (Option Item) := []
  flying : List Item := []
  /-- Finished transmissions whose turn has not been passed on. -/
  landed : Nat := 0
  accepted : List Item := []
  sent : List Item := []

namespace Turnstile

/-- The atomic moves. `abandon` forgets a turn instead of passing it on. -/
inductive Move (Item : Type u) where
  | submit (handle : Option Item)
  | transmit (index : Nat)
  | land
  | pass
  | abandon

variable {Item : Type u}

def submit (state : Turnstile Item) (handle : Option Item) : Turnstile Item :=
  if state.busy then
    { state with
      waiting := state.waiting ++ [handle]
      holding := state.holding ++ [none]
      accepted := state.accepted ++ handle.toList }
  else
    { state with
      busy := true
      holding := state.holding ++ [handle]
      accepted := state.accepted ++ handle.toList }

def transmit (state : Turnstile Item) (index : Nat) : Option (Turnstile Item) :=
  match state.holding[index]? with
  | none => none
  | some handle => some
      { state with
        holding := state.holding.eraseIdx index
        flying := state.flying ++ handle.toList
        sent := state.sent ++ handle.toList }

def land (state : Turnstile Item) : Option (Turnstile Item) :=
  match state.flying with
  | [] => none
  | _ :: rest => some { state with flying := rest, landed := state.landed + 1 }

def pass (state : Turnstile Item) : Option (Turnstile Item) :=
  match state.landed with
  | 0 => none
  | landed + 1 =>
      match state.waiting with
      | [] => some
          { state with
            busy := false
            landed := landed
            holding := state.holding ++ [none] }
      | front :: rest => some
          { state with
            waiting := rest
            landed := landed
            holding := state.holding ++ [front] }

def abandon (state : Turnstile Item) : Option (Turnstile Item) :=
  match state.landed with
  | 0 => none
  | landed + 1 => some
      { state with landed := landed, holding := state.holding ++ [none] }

def step (state : Turnstile Item) : Move Item → Option (Turnstile Item)
  | .submit handle => some (state.submit handle)
  | .transmit index => state.transmit index
  | .land => state.land
  | .pass => state.pass
  | .abandon => state.abandon

/-- The items taken by activities that have not transmitted them yet. -/
def held (state : Turnstile Item) : List Item :=
  state.holding.reduceOption

/-- The activities that can still lead to another turn. -/
def turns (state : Turnstile Item) : Nat :=
  state.held.length + state.flying.length + state.landed

/-! ## What each move does -/

section Moves

variable {state next : Turnstile Item}

@[simp] theorem reduceOption_concat (before : List (Option Item))
    (handle : Option Item) :
    (before ++ [handle]).reduceOption = before.reduceOption ++ handle.toList := by
  rw [← List.concat_eq_append, List.reduceOption_concat]

theorem submit_of_busy (busy : state.busy = true) (handle : Option Item) :
    state.submit handle =
      { state with
        waiting := state.waiting ++ [handle]
        holding := state.holding ++ [none]
        accepted := state.accepted ++ handle.toList } := by
  simp [submit, busy]

theorem submit_of_free (free : state.busy = false) (handle : Option Item) :
    state.submit handle =
      { state with
        busy := true
        holding := state.holding ++ [handle]
        accepted := state.accepted ++ handle.toList } := by
  simp [submit, free]

/-- A transmission takes one handle out of the middle of the held ones. -/
theorem transmit_eq_some {index : Nat} (moved : state.transmit index = some next) :
    ∃ before handle after, state.holding = before ++ handle :: after ∧
      next = { state with
        holding := before ++ after
        flying := state.flying ++ handle.toList
        sent := state.sent ++ handle.toList } := by
  simp only [transmit] at moved
  split at moved
  · contradiction
  · rename_i handle found
    obtain ⟨inside, equal⟩ := List.getElem?_eq_some_iff.mp found
    refine ⟨state.holding.take index, handle, state.holding.drop (index + 1), ?_, ?_⟩
    · rw [← equal, ← List.drop_eq_getElem_cons inside, List.take_append_drop]
    · rw [← List.eraseIdx_eq_take_drop_succ]
      exact (Option.some.inj moved).symm

theorem land_eq_some (moved : state.land = some next) :
    ∃ item rest, state.flying = item :: rest ∧
      next = { state with flying := rest, landed := state.landed + 1 } := by
  simp only [land] at moved
  split at moved
  · contradiction
  · rename_i item rest flying
    exact ⟨item, rest, flying, (Option.some.inj moved).symm⟩

theorem pass_eq_some (moved : state.pass = some next) :
    ∃ landed, state.landed = landed + 1 ∧
      ((state.waiting = [] ∧
          next = { state with
            busy := false, landed := landed, holding := state.holding ++ [none] }) ∨
        ∃ front rest, state.waiting = front :: rest ∧
          next = { state with
            waiting := rest
            landed := landed
            holding := state.holding ++ [front] }) := by
  simp only [pass] at moved
  split at moved
  · contradiction
  · rename_i landed equal
    refine ⟨landed, equal, ?_⟩
    split at moved
    · rename_i empty
      exact Or.inl ⟨empty, (Option.some.inj moved).symm⟩
    · rename_i front rest queued
      exact Or.inr ⟨front, rest, queued, (Option.some.inj moved).symm⟩

theorem abandon_eq_some (moved : state.abandon = some next) :
    ∃ landed, state.landed = landed + 1 ∧
      next = { state with landed := landed, holding := state.holding ++ [none] } := by
  simp only [abandon] at moved
  split at moved
  · contradiction
  · rename_i landed equal
    exact ⟨landed, equal, (Option.some.inj moved).symm⟩

/-- Items are sent by transmissions only. -/
theorem sent_of_step {move : Move Item} (moved : state.step move = some next)
    (other : ∀ index, move ≠ .transmit index) : next.sent = state.sent := by
  cases move with
  | submit handle =>
      obtain rfl := Option.some.inj moved
      rw [submit]
      split <;> rfl
  | transmit index => exact absurd rfl (other index)
  | land =>
      obtain ⟨_, _, _, rfl⟩ := land_eq_some moved
      rfl
  | pass =>
      obtain ⟨_, _, ⟨_, rfl⟩ | ⟨_, _, _, rfl⟩⟩ := pass_eq_some moved <;> rfl
  | abandon =>
      obtain ⟨_, _, rfl⟩ := abandon_eq_some moved
      rfl

/-- Nothing else takes off while no transmission is made. -/
theorem flying_subset_of_step {move : Move Item} (moved : state.step move = some next)
    (other : ∀ index, move ≠ .transmit index) : next.flying ⊆ state.flying := by
  cases move with
  | submit handle =>
      obtain rfl := Option.some.inj moved
      rw [submit]
      split <;> exact List.Subset.refl _
  | transmit index => exact absurd rfl (other index)
  | land =>
      obtain ⟨landed, rest, flying, rfl⟩ := land_eq_some moved
      rw [flying]
      exact List.subset_cons_self landed rest
  | pass =>
      obtain ⟨_, _, ⟨_, rfl⟩ | ⟨_, _, _, rfl⟩⟩ := pass_eq_some moved <;>
        exact List.Subset.refl _
  | abandon =>
      obtain ⟨_, _, rfl⟩ := abandon_eq_some moved
      exact List.Subset.refl _

/-- Items are accepted by submissions only. -/
theorem accepted_of_step {move : Move Item} (moved : state.step move = some next)
    (other : ∀ handle, move ≠ .submit handle) : next.accepted = state.accepted := by
  cases move with
  | submit handle => exact absurd rfl (other handle)
  | transmit index =>
      obtain ⟨_, _, _, _, rfl⟩ := transmit_eq_some moved
      rfl
  | land =>
      obtain ⟨_, _, _, rfl⟩ := land_eq_some moved
      rfl
  | pass =>
      obtain ⟨_, _, ⟨_, rfl⟩ | ⟨_, _, _, rfl⟩⟩ := pass_eq_some moved <;> rfl
  | abandon =>
      obtain ⟨_, _, rfl⟩ := abandon_eq_some moved
      rfl

/-! The number of turns changes only when a turn is taken or given up. -/

theorem turns_submit_of_busy (busy : state.busy = true) (handle : Option Item) :
    (state.submit handle).turns = state.turns := by
  rw [submit_of_busy busy]
  simp [turns, held]

theorem turns_submit_of_free (free : state.busy = false) (handle : Option Item) :
    (state.submit handle).turns = state.turns + handle.toList.length := by
  rw [submit_of_free free]
  simp only [turns, held, reduceOption_concat, List.length_append]
  omega

theorem turns_transmit {index : Nat} (moved : state.transmit index = some next) :
    next.turns = state.turns := by
  obtain ⟨before, handle, after, holding, rfl⟩ := transmit_eq_some moved
  have split : state.held =
      before.reduceOption ++ handle.toList ++ after.reduceOption := by
    rw [held, holding, List.append_cons, List.reduceOption_append, reduceOption_concat]
  simp only [turns, split]
  simp only [held, List.reduceOption_append, List.length_append]
  omega

theorem turns_land (moved : state.land = some next) : next.turns = state.turns := by
  obtain ⟨item, rest, flying, rfl⟩ := land_eq_some moved
  simp only [turns, held, flying, List.length_cons]
  omega

theorem turns_pass_empty (empty : state.waiting = []) (moved : state.pass = some next) :
    next.busy = false ∧ next.turns + 1 = state.turns := by
  obtain ⟨landed, equal, ⟨_, rfl⟩ | ⟨front, rest, queued, _⟩⟩ := pass_eq_some moved
  · refine ⟨rfl, ?_⟩
    simp only [turns, held, reduceOption_concat, Option.toList_none, List.append_nil,
      equal]
    omega
  · rw [empty] at queued
    contradiction

theorem turns_pass_queued {front : Option Item} {rest : List (Option Item)}
    (queued : state.waiting = front :: rest) (moved : state.pass = some next) :
    next.busy = state.busy ∧
      next.turns + 1 = state.turns + front.toList.length := by
  obtain ⟨landed, equal, ⟨empty, _⟩ | ⟨_, _, found, rfl⟩⟩ := pass_eq_some moved
  · rw [empty] at queued
    contradiction
  · obtain ⟨rfl, rfl⟩ := List.cons.inj (queued.symm.trans found)
    refine ⟨rfl, ?_⟩
    simp only [turns, held, reduceOption_concat, List.length_append, equal]
    omega

theorem turns_abandon (moved : state.abandon = some next) :
    next.busy = state.busy ∧ next.turns + 1 = state.turns := by
  obtain ⟨landed, equal, rfl⟩ := abandon_eq_some moved
  refine ⟨rfl, ?_⟩
  simp only [turns, held, reduceOption_concat, Option.toList_none, List.append_nil,
    equal]
  omega

end Moves

/-! ## Order and exclusion -/

/-- What every run keeps: items leave in the order they came, there is at most one
turn, and there is none while the flag is down. -/
structure Orderly (state : Turnstile Item) : Prop where
  fifo : state.sent ++ state.held ++ state.waiting.reduceOption = state.accepted
  single : state.turns ≤ 1
  free : state.busy = false → state.waiting = [] ∧ state.turns = 0

namespace Orderly

variable {state next : Turnstile Item}

theorem empty : Orderly ({} : Turnstile Item) where
  fifo := rfl
  single := Nat.zero_le 1
  free := fun _ => ⟨rfl, rfl⟩

theorem busy_of_turn (orderly : Orderly state) (turn : 0 < state.turns) :
    state.busy = true := by
  by_contra down
  have noTurn := (orderly.free (Bool.eq_false_iff.mpr down)).2
  omega

/-- While the flag is down every accepted item has been sent. -/
theorem of_free (orderly : Orderly state) (free : state.busy = false) :
    state.held = [] ∧ state.waiting = [] ∧ state.sent = state.accepted := by
  obtain ⟨noneWaiting, noTurn⟩ := orderly.free free
  have noneHeld : state.held = [] := by
    apply List.length_eq_zero_iff.mp
    simp only [turns] at noTurn
    omega
  have fifo := orderly.fifo
  rw [noneHeld, noneWaiting] at fifo
  exact ⟨noneHeld, noneWaiting, by simpa using fifo⟩

/-- While a finished transmission waits for its turn to be passed on, nobody
holds an item. -/
theorem of_landed (orderly : Orderly state) {landed : Nat}
    (equal : state.landed = landed + 1) : state.held = [] := by
  have single := orderly.single
  simp only [turns, equal] at single
  apply List.length_eq_zero_iff.mp
  omega

/-- Whoever holds an item is the only one, and nothing is under way. -/
theorem of_holding (orderly : Orderly state) {before after : List (Option Item)}
    {item : Item} (holding : state.holding = before ++ some item :: after) :
    before.reduceOption = [] ∧ after.reduceOption = [] ∧ state.flying = [] := by
  have single := orderly.single
  simp only [turns, held, holding, List.reduceOption_append,
    List.reduceOption_cons_of_some, List.length_append, List.length_cons] at single
  refine ⟨List.length_eq_zero_iff.mp ?_, List.length_eq_zero_iff.mp ?_,
    List.length_eq_zero_iff.mp ?_⟩ <;> omega

theorem submit (orderly : Orderly state) (handle : Option Item) :
    Orderly (state.submit handle) := by
  cases busy : state.busy with
  | true =>
      constructor
      · rw [submit_of_busy busy]
        simp [held, ← orderly.fifo]
      · rw [turns_submit_of_busy busy]
        exact orderly.single
      · intro down
        simp [submit_of_busy busy, busy] at down
  | false =>
      obtain ⟨noneHeld, noneWaiting, allSent⟩ := orderly.of_free busy
      constructor
      · rw [submit_of_free busy]
        simp only [held] at noneHeld
        simp [held, noneHeld, noneWaiting, allSent]
      · have atMostOne : handle.toList.length ≤ 1 := by cases handle <;> simp
        rw [turns_submit_of_free busy, (orderly.free busy).2]
        omega
      · intro down
        simp [submit_of_free busy] at down

theorem transmit (orderly : Orderly state) {index : Nat}
    (moved : state.transmit index = some next) : Orderly next := by
  have sameTurns := turns_transmit moved
  obtain ⟨before, handle, after, holding, rfl⟩ := transmit_eq_some moved
  constructor
  · have fifo := orderly.fifo
    simp only [held, holding] at fifo
    cases handle with
    | none => simpa [held, List.reduceOption_append] using fifo
    | some item =>
        obtain ⟨noneBefore, noneAfter, _⟩ := orderly.of_holding holding
        simpa [held, List.reduceOption_append, noneBefore, noneAfter] using fifo
  · exact sameTurns ▸ orderly.single
  · exact sameTurns ▸ orderly.free

theorem land (orderly : Orderly state) (moved : state.land = some next) :
    Orderly next := by
  have sameTurns := turns_land moved
  obtain ⟨item, rest, flying, rfl⟩ := land_eq_some moved
  exact ⟨orderly.fifo, sameTurns ▸ orderly.single, sameTurns ▸ orderly.free⟩

theorem pass (orderly : Orderly state) (moved : state.pass = some next) :
    Orderly next := by
  have single := orderly.single
  have fifo := orderly.fifo
  obtain ⟨landed, equal, ⟨empty, rfl⟩ | ⟨front, rest, queued, rfl⟩⟩ :=
    pass_eq_some moved
  · obtain ⟨_, fewer⟩ := turns_pass_empty empty moved
    exact ⟨by simpa [held] using fifo, by omega, fun _ => ⟨empty, by omega⟩⟩
  · obtain ⟨_, fewer⟩ := turns_pass_queued queued moved
    have noneHeld := orderly.of_landed equal
    simp only [held] at noneHeld
    rw [queued] at fifo
    refine ⟨?_, ?_, fun down => ?_⟩
    · cases front <;> simpa [held, noneHeld] using fifo
    · have atMostOne : front.toList.length ≤ 1 := by cases front <;> simp
      omega
    · have noneWaiting := (orderly.free down).1
      rw [queued] at noneWaiting
      contradiction

theorem abandon (orderly : Orderly state) (moved : state.abandon = some next) :
    Orderly next := by
  have single := orderly.single
  obtain ⟨_, fewer⟩ := turns_abandon moved
  obtain ⟨landed, equal, rfl⟩ := abandon_eq_some moved
  refine ⟨by simpa [held] using orderly.fifo, by omega, fun down => ?_⟩
  have noTurn := (orderly.free down).2
  omega

theorem step (orderly : Orderly state) {move : Move Item}
    (moved : state.step move = some next) : Orderly next := by
  cases move with
  | submit handle => exact Option.some.inj moved ▸ orderly.submit handle
  | transmit index => exact orderly.transmit moved
  | land => exact orderly.land moved
  | pass => exact orderly.pass moved
  | abandon => exact orderly.abandon moved

/-- Every run of an empty turnstile is orderly. -/
theorem of_run {moves : List (Move Item)}
    (reached : run Turnstile.step {} moves = some next) : Orderly next :=
  invariant_of_run Orderly empty
    (fun _ _ _ orderly _ moved => orderly.step moved) (meets_true _ _) reached

end Orderly

/-! ## Stalling -/

/-- A raised flag always belongs to a turn. -/
structure Flowing (state : Turnstile Item) : Prop extends Orderly state where
  turn : state.busy = true → state.turns = 1

/-- The flag is up and nobody is left to take it down. -/
structure Stalled (state : Turnstile Item) : Prop where
  busy : state.busy = true
  noTurn : state.turns = 0

/-- The moves that keep a turn alive: a free turnstile is given a real item, the
handle next in line is real, and no turn is abandoned. -/
def Passes (state : Turnstile Item) : Move Item → Prop
  | .submit handle => state.busy = true ∨ handle ≠ none
  | .pass => state.waiting.head? ≠ some none
  | .abandon => False
  | .transmit _ | .land => True

variable {state next : Turnstile Item}

theorem Flowing.empty : Flowing ({} : Turnstile Item) :=
  ⟨Orderly.empty, fun up => by contradiction⟩

/-- Between activities the flag says exactly whether a transmission is under way,
and items wait only behind one. -/
theorem Flowing.atRest (flowing : Flowing state) (noneHolding : state.holding = [])
    (noneLanded : state.landed = 0) :
    (state.busy = true ↔ state.flying.length = 1) ∧
      (state.flying = [] → state.waiting = []) := by
  have turnsEq : state.turns = state.flying.length := by
    simp [turns, held, noneHolding, noneLanded]
  refine ⟨⟨fun up => turnsEq ▸ flowing.turn up, fun one => ?_⟩, fun noneFlying => ?_⟩
  · exact flowing.busy_of_turn (by omega)
  · cases busy : state.busy with
    | false => exact (flowing.free busy).1
    | true =>
        have oneTurn := flowing.turn busy
        simp [turnsEq, noneFlying] at oneTurn

theorem Stalled.flying_eq_nil (stalled : Stalled state) : state.flying = [] := by
  have noTurn := stalled.noTurn
  simp only [turns] at noTurn
  apply List.length_eq_zero_iff.mp
  omega

/-- A move that keeps the turn alive keeps the turnstile flowing. -/
theorem Flowing.step (flowing : Flowing state) {move : Move Item}
    (passes : state.Passes move) (moved : state.step move = some next) :
    Flowing next := by
  refine ⟨flowing.toOrderly.step moved, ?_⟩
  have turn := flowing.turn
  cases move with
  | submit handle =>
      obtain rfl := Option.some.inj moved
      intro _
      cases busy : state.busy with
      | true => rw [turns_submit_of_busy busy, turn busy]
      | false =>
          have real : handle ≠ none := passes.resolve_left (by simp [busy])
          obtain ⟨item, rfl⟩ := Option.ne_none_iff_exists'.mp real
          rw [turns_submit_of_free busy, (flowing.free busy).2]
          rfl
  | transmit index =>
      rw [turns_transmit moved]
      obtain ⟨before, handle, after, holding, rfl⟩ := transmit_eq_some moved
      exact turn
  | land =>
      rw [turns_land moved]
      obtain ⟨item, rest, flying, rfl⟩ := land_eq_some moved
      exact turn
  | pass =>
      intro up
      cases queued : state.waiting with
      | nil =>
          have down := (turns_pass_empty queued moved).1
          exact absurd (up.symm.trans down) (by simp)
      | cons front rest =>
          obtain ⟨sameBusy, fewer⟩ := turns_pass_queued queued moved
          simp only [Passes, queued, List.head?_cons, ne_eq, Option.some.injEq] at passes
          obtain ⟨item, rfl⟩ := Option.ne_none_iff_exists'.mp passes
          have oneTurn := turn (sameBusy ▸ up)
          simp only [Option.toList_some, List.length_singleton] at fewer
          omega
  | abandon => exact passes.elim

/-- A move that does not keep the turn alive stalls the turnstile. -/
theorem Flowing.stalled (flowing : Flowing state) {move : Move Item}
    (fails : ¬state.Passes move) (moved : state.step move = some next) :
    Stalled next := by
  cases move with
  | submit handle =>
      obtain rfl := Option.some.inj moved
      simp only [Passes, not_or, Bool.not_eq_true, ne_eq, not_not] at fails
      obtain ⟨free, rfl⟩ := fails
      refine ⟨by simp [submit_of_free free], ?_⟩
      rw [turns_submit_of_free free, (flowing.free free).2]
      rfl
  | transmit index => exact absurd trivial fails
  | land => exact absurd trivial fails
  | pass =>
      simp only [Passes, ne_eq, not_not] at fails
      obtain ⟨rest, queued⟩ := List.head?_eq_some_iff.mp fails
      obtain ⟨sameBusy, fewer⟩ := turns_pass_queued queued moved
      have busy := flowing.busy_of_turn (by simp at fewer; omega)
      have oneTurn := flowing.turn busy
      exact ⟨sameBusy.trans busy, by simp at fewer; omega⟩
  | abandon =>
      obtain ⟨sameBusy, fewer⟩ := turns_abandon moved
      have busy := flowing.busy_of_turn (by omega)
      have oneTurn := flowing.turn busy
      exact ⟨sameBusy.trans busy, by omega⟩

/-- Nothing repairs a stalled turnstile. -/
theorem Stalled.step (stalled : Stalled state) {move : Move Item}
    (moved : state.step move = some next) : Stalled next := by
  have busy := stalled.busy
  have noTurn := stalled.noTurn
  cases move with
  | submit handle =>
      obtain rfl := Option.some.inj moved
      refine ⟨by simp [submit_of_busy busy, busy], ?_⟩
      rw [turns_submit_of_busy busy, noTurn]
  | transmit index =>
      have sameTurns := turns_transmit moved
      obtain ⟨before, handle, after, holding, rfl⟩ := transmit_eq_some moved
      exact ⟨busy, sameTurns.trans noTurn⟩
  | land =>
      have sameTurns := turns_land moved
      obtain ⟨item, rest, flying, rfl⟩ := land_eq_some moved
      exact ⟨busy, sameTurns.trans noTurn⟩
  | pass =>
      obtain ⟨landed, equal, _⟩ := pass_eq_some moved
      simp only [turns, equal] at noTurn
      omega
  | abandon =>
      obtain ⟨_, fewer⟩ := turns_abandon moved
      omega

/-! ## Machines that refine a turnstile -/

section Refinement

variable {State : Type v} {Label : Type w} {step : State → Label → Option State}
variable {view : State → Turnstile Item} {move : State → Label → Option (Move Item)}
variable {condition : State → Label → Prop} {property : State → Prop}

/-- The rule for machines that refine a turnstile.  Let `condition` single out
the steps whose move keeps the turn alive, and let flowing states have the
property.  Then runs inside the condition keep the property; and a run that keeps
it up to a state where stalling would show stays inside the condition. -/
theorem along_and_meets (refines : Refines step Turnstile.step view move)
    (exact : ∀ state label next, (view state).Orderly →
      step state label = some next →
      ((∀ action, move state label = some action → (view state).Passes action) ↔
        condition state label))
    (sound : ∀ state, (view state).Flowing → property state)
    {initial final : State} {labels : List Label} (start : (view initial).Flowing)
    (reached : run step initial labels = some final) :
    (Meets step condition initial labels → Along step property initial labels) ∧
      (((view final).Stalled → ¬property final) →
        Along step property initial labels →
        Meets step condition initial labels) := by
  have preserve : ∀ state label next, (view state).Flowing →
      condition state label → step state label = some next →
      (view next).Flowing := by
    intro state label next flowing meets stepped
    have passes := (exact state label next flowing.toOrderly stepped).mpr meets
    exact refines.preserve (fun _ _ _ before passing => before.step passing)
      flowing passes stepped
  have breach : ∀ state label next, (view state).Flowing →
      ¬condition state label → step state label = some next →
      (view next).Stalled := by
    intro state label next flowing outside stepped
    rw [← exact state label next flowing.toOrderly stepped, not_forall] at outside
    obtain ⟨action, fails⟩ := outside
    rw [Classical.not_imp] at fails
    exact flowing.stalled fails.2 (refines.taken fails.1 stepped)
  have absorb : ∀ state label next, (view state).Stalled →
      step state label = some next → (view next).Stalled := by
    intro state label next stalled stepped
    have kept : ∀ (before : Turnstile Item) action after, Stalled before → True →
        before.step action = some after → Stalled after :=
      fun _ _ _ before _ moved => before.step moved
    exact refines.preserve kept stalled (fun _ _ => trivial) stepped
  constructor
  · intro meets
    exact along_of_meets (fun state => (view state).Flowing) sound preserve start meets
  · intro fatal along
    exact meets_of_along (fun state => (view state).Flowing)
      (fun state => (view state).Stalled) preserve breach absorb start reached fatal
      along

end Refinement

end Turnstile

end Telling.Lib
