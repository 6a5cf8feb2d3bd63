import Mathlib.Data.List.Range
import Mathlib.Logic.Function.Basic

/-!
# Finite maps as lookup functions

Associative containers of which only lookup matters.  `emplace` follows the
standard containers: an entry that is already present is kept.  An iterator is the key
of an entry or the end, at which nothing can be erased.  A log is a list of entries with
keys, of which all are kept.  A search downward finds the greatest position that has an
entry.
-/

namespace Telling.Lib

universe u v

variable {Key : Type u} {Value : Type v} [DecidableEq Key]

def emplace (map : Key → Option Value) (key : Key) (value : Value) :
    Key → Option Value :=
  if (map key).isSome then map else Function.update map key (some value)

def erase (map : Key → Option Value) (key : Key) : Key → Option Value :=
  Function.update map key none

variable {map : Key → Option Value} {key other : Key} {value present : Value}

/-- An entry found after an update was there before or is the new one. -/
theorem update_eq_some
    (found : Function.update map key (some value) other = some present) :
    map other = some present ∨ (other = key ∧ present = value) := by
  by_cases same : other = key
  · rw [same, Function.update_self] at found
    exact .inr ⟨same, (Option.some.inj found).symm⟩
  · rw [Function.update_of_ne same] at found
    exact .inl found

theorem emplace_of_none (absent : map key = none) :
    emplace map key value = Function.update map key (some value) := by
  simp [emplace, absent]

theorem emplace_of_some (found : map key = some present) :
    emplace map key value = map := by
  simp [emplace, found]

@[simp] theorem emplace_of_ne (different : other ≠ key) :
    emplace map key value other = map other := by
  unfold emplace
  split
  · rfl
  · exact Function.update_of_ne different _ _

/-- An entry found after `emplace` was there before or is the new one. -/
theorem emplace_eq_some
    (found : emplace map key value other = some present) :
    map other = some present ∨ (other = key ∧ present = value) := by
  cases before : map key with
  | none => exact update_eq_some (emplace_of_none before ▸ found)
  | some old => exact .inl (emplace_of_some before ▸ found)

theorem emplace_emplace {later : Value} :
    emplace (emplace map key value) key later = emplace map key value := by
  cases before : map key with
  | none => exact emplace_of_some (by rw [emplace_of_none before, Function.update_self])
  | some old => exact emplace_of_some (by rw [emplace_of_some before, before])

@[simp] theorem erase_self : erase map key key = none :=
  Function.update_self _ _ _

@[simp] theorem erase_of_ne (different : other ≠ key) :
    erase map key other = map other :=
  Function.update_of_ne different _ _

/-- Erasing a key that has no entry changes nothing. -/
theorem erase_of_none (absent : map key = none) : erase map key = map := by
  rw [erase, ← absent, Function.update_eq_self]

theorem erase_eq_self_iff : erase map key = map ↔ map key = none := by
  refine ⟨fun same => ?_, erase_of_none⟩
  rw [← same, erase_self]

/-- Erasing a new entry restores the map. -/
theorem erase_update_of_none (absent : map key = none) :
    erase (Function.update map key (some value)) key = map := by
  rw [erase, Function.update_idem, ← absent, Function.update_eq_self]

/-- An entry that survives an `erase` belongs to another key. -/
theorem erase_eq_some :
    erase map key other = some value ↔ other ≠ key ∧ map other = some value := by
  by_cases same : other = key
  · simp [same]
  · simp [same]

theorem isSome_emplace :
    (emplace map key value other).isSome ↔ (map other).isSome ∨ other = key := by
  by_cases same : other = key
  · subst same
    cases found : map other with
    | none => simp [emplace_of_none found]
    | some present => simp [emplace_of_some found, found]
  · simp [same]

theorem isSome_erase :
    (erase map key other).isSome ↔ other ≠ key ∧ (map other).isSome := by
  by_cases same : other = key
  · simp [same]
  · simp [same]

/-! ## Iterators -/

/-- `find`: an iterator at the entry of the key, or the end iterator. -/
def find (map : Key → Option Value) (key : Key) : Option Key :=
  if (map key).isSome then some key else none

/-- `erase` of an iterator.  It has a result only at an entry. -/
def eraseAt (map : Key → Option Value) : Option Key → Option (Key → Option Value)
  | none => none
  | some key => if (map key).isSome then some (erase map key) else none

omit [DecidableEq Key] in
theorem find_of_none (absent : map key = none) : find map key = none := by
  simp [find, absent]

omit [DecidableEq Key] in
theorem find_of_some (found : map key = some present) : find map key = some key := by
  simp [find, found]

theorem eraseAt_of_some (found : map key = some present) :
    eraseAt map (some key) = some (erase map key) := by
  simp [eraseAt, found]

/-! ## Logs -/

/-- The entries of a log with one key, in their order. -/
def entriesOf (log : List (Key × Value)) (key : Key) : List Value :=
  log.filterMap fun entry => if entry.1 = key then some entry.2 else none

@[simp] theorem entriesOf_append (log more : List (Key × Value)) (key : Key) :
    entriesOf (log ++ more) key = entriesOf log key ++ entriesOf more key :=
  List.filterMap_append

theorem entriesOf_map (owner key : Key) (values : List Value) :
    entriesOf (values.map fun value => (owner, value)) key =
      if owner = key then values else [] := by
  rw [entriesOf, List.filterMap_map, Function.comp_def]
  split <;> simp

theorem entriesOf_eq_nil {log : List (Key × Value)}
    (absent : ∀ entry ∈ log, entry.1 ≠ key) : entriesOf log key = [] :=
  List.filterMap_eq_nil_iff.mpr fun entry member => if_neg (absent entry member)

/-! ## Searching downward from a bound -/

section Downward

variable {lookup : Nat → Option Value} {bound : Nat}

theorem findSome_downward_succ :
    (List.range (bound + 1)).reverse.findSome? lookup =
      (lookup bound).or ((List.range bound).reverse.findSome? lookup) := by
  rw [List.range_succ, List.reverse_append, List.reverse_singleton,
    List.singleton_append, List.findSome?_cons]
  cases lookup bound <;> rfl

theorem findSome_downward_eq_none_iff :
    (List.range (bound + 1)).reverse.findSome? lookup = none ↔
      ∀ position ≤ bound, lookup position = none := by
  simp only [List.findSome?_eq_none_iff, List.mem_reverse, List.mem_range, Nat.lt_succ_iff]

/-- The search stops at the greatest position that has a value. -/
theorem findSome_downward_eq_some_iff {value : Value} :
    (List.range (bound + 1)).reverse.findSome? lookup = some value ↔
      ∃ position ≤ bound, lookup position = some value ∧
        ∀ later ≤ bound, position < later → lookup later = none := by
  induction bound with
  | zero =>
      rw [findSome_downward_succ]
      simp
  | succ bound ih =>
      rw [findSome_downward_succ]
      cases found : lookup (bound + 1) with
      | some first =>
          simp only [Option.some_or, Option.some.injEq]
          constructor
          · rintro rfl
            exact ⟨bound + 1, Nat.le_refl _, found,
              fun later inside beyond => absurd inside (Nat.not_le_of_lt beyond)⟩
          · rintro ⟨position, inside, here, none⟩
            rcases Nat.lt_or_eq_of_le inside with below | rfl
            · simp [none (bound + 1) (Nat.le_refl _) below] at found
            · exact Option.some.inj (found.symm.trans here)
      | none =>
          rw [Option.none_or, ih]
          constructor
          · rintro ⟨position, inside, here, none⟩
            refine ⟨position, Nat.le_succ_of_le inside, here, fun later within beyond => ?_⟩
            rcases Nat.lt_or_eq_of_le within with below | rfl
            · exact none later (Nat.le_of_lt_succ below) beyond
            · exact found
          · rintro ⟨position, inside, here, none⟩
            rcases Nat.lt_or_eq_of_le inside with below | rfl
            · exact ⟨position, Nat.le_of_lt_succ below, here,
                fun later within beyond => none later (Nat.le_succ_of_le within) beyond⟩
            · simp [found] at here

end Downward

end Telling.Lib
