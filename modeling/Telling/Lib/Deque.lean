import Mathlib.Data.List.Induction
import Mathlib.Data.List.TakeWhile

/-!
# Deques and separated lists

A list as a deque, the objects that behave like one, and the list that a text with
separators stands for: its nonempty parts between them.
-/

namespace Telling.Lib

universe u v

/-! ## Removal from the two ends -/

inductive End where
  | front
  | back
  deriving DecidableEq, Repr

namespace End

variable {α : Type u}

/-- The element that is removed next. -/
def peek : End → List α → Option α
  | .front, items => items.head?
  | .back, items => items.getLast?

def discard : End → List α → List α
  | .front, items => items.tail
  | .back, items => items.dropLast

def remove (side : End) (items : List α) : Option α × List α :=
  (side.peek items, side.discard items)

theorem peek_eq_none_iff {side : End} {items : List α} :
    side.peek items = none ↔ items = [] := by
  cases side with
  | front => exact List.head?_eq_none_iff
  | back => exact List.getLast?_eq_none_iff

theorem peek_front_append_discard (items : List α) :
    (front.peek items).toList ++ front.discard items = items := by
  cases items <;> rfl

theorem discard_back_append_peek (items : List α) :
    back.discard items ++ (back.peek items).toList = items := by
  cases items using List.reverseRecOn <;> simp [peek, discard]

end End

section Pops

variable {State : Type v} {α : Type u}

/-- Pop from the given ends, one after the other, and note what was returned. -/
def pops (pop : End → State → Option α × State) :
    State → List End → List (End × Option α) × State
  | state, [] => ([], state)
  | state, side :: sides =>
      let (answer, next) := pop side state
      let (answers, final) := pops pop next sides
      ((side, answer) :: answers, final)

/-- What was removed from one end, first to last. -/
def removed (side : End) (answers : List (End × Option α)) : List α :=
  answers.filterMap fun answer => if answer.1 = side then answer.2 else none

@[simp] theorem removed_nil (side : End) :
    removed side ([] : List (End × Option α)) = [] := rfl

theorem removed_cons (side other : End) (answer : Option α)
    (answers : List (End × Option α)) :
    removed side ((other, answer) :: answers) =
      (if other = side then answer.toList else []) ++ removed side answers := by
  by_cases same : other = side
  · cases answer <;> simp [removed, same]
  · simp [removed, same]

/-- Every element is removed from one of the ends or is still there, and nothing is
out of order. -/
theorem removed_append_remaining (sides : List End) : (items : List α) →
    removed .front (pops End.remove items sides).1 ++
        (pops End.remove items sides).2 ++
        (removed .back (pops End.remove items sides).1).reverse = items := by
  induction sides with
  | nil => simp [pops]
  | cons side sides ih =>
      intro items
      have rest := ih (side.discard items)
      simp only [pops, End.remove, removed_cons]
      cases side with
      | front =>
          refine Eq.trans ?_ (End.peek_front_append_discard items)
          simpa using rest
      | back =>
          refine Eq.trans ?_ (End.discard_back_append_peek items)
          have closed := congrArg (· ++ (End.back.peek items).toList) rest
          have same : (End.back.peek items).toList.reverse =
              (End.back.peek items).toList := by
            cases End.back.peek items <;> rfl
          simpa [same] using closed

/-- An object each of whose pops removes an element of the list it stands for behaves
as that list. -/
theorem pops_eq_of_remove {pop : End → State → Option α × State}
    {view : State → List α}
    (popped : ∀ side state,
      ((pop side state).1, view (pop side state).2) = side.remove (view state))
    (sides : List End) : (state : State) →
    ((pops pop state sides).1, view (pops pop state sides).2) =
      pops End.remove (view state) sides := by
  induction sides with
  | nil => exact fun state => rfl
  | cons side sides ih =>
      intro state
      have answer := congrArg Prod.fst (popped side state)
      have after := congrArg Prod.snd (popped side state)
      dsimp only at answer after
      simp only [pops, ← answer, ← after, ← ih]

end Pops

/-! ## Texts with separators -/

section Elements

variable {α : Type u} [DecidableEq α] {separator : α}

/-- The nonempty parts between separators. -/
def elements (separator : α) (text : List α) : List (List α) :=
  (text.splitOn separator).filter fun part => !part.isEmpty

theorem elements_append (left right : List α) :
    elements separator (left ++ separator :: right) =
      elements separator left ++ elements separator right := by
  rw [elements, List.splitOn_append_cons_self, List.filter_append]
  rfl

@[simp] theorem elements_nil : elements separator [] = [] := rfl

theorem elements_word {word : List α} (absent : separator ∉ word)
    (nonempty : word ≠ []) : elements separator word = [word] := by
  rw [elements, List.splitOn_eq_singleton absent]
  simp [nonempty]

theorem elements_separators_append {blanks : List α}
    (blank : ∀ item ∈ blanks, item = separator) (text : List α) :
    elements separator (blanks ++ text) = elements separator text := by
  induction blanks with
  | nil => rfl
  | cons item blanks ih =>
      obtain ⟨rfl, others⟩ := List.forall_mem_cons.mp blank
      rw [List.cons_append, ← List.nil_append (item :: _), elements_append, ih others]
      rfl

theorem elements_append_separators {blanks : List α}
    (blank : ∀ item ∈ blanks, item = separator) (text : List α) :
    elements separator (text ++ blanks) = elements separator text := by
  cases blanks with
  | nil => rw [List.append_nil]
  | cons item blanks =>
      obtain ⟨rfl, others⟩ := List.forall_mem_cons.mp blank
      have none : elements item blanks = [] := by
        simpa using elements_separators_append others []
      rw [elements_append, none, List.append_nil]

/-- A word at the start of a text ends with the text or with a separator. -/
def EndsWord (separator : α) (tail : List α) : Prop :=
  tail = [] ∨ ∃ rest, tail = separator :: rest

/-- A word at the end of a text begins with the text or after a separator. -/
def BeginsWord (separator : α) (head : List α) : Prop :=
  head = [] ∨ ∃ rest, head = rest ++ [separator]

/-- A text is made of separators only or has a first word. -/
theorem blank_or_first (separator : α) (text : List α) :
    (∀ item ∈ text, item = separator) ∨
      ∃ blanks word tail, text = blanks ++ (word ++ tail) ∧
        (∀ item ∈ blanks, item = separator) ∧ separator ∉ word ∧ word ≠ [] ∧
        EndsWord separator tail := by
  induction text with
  | nil => exact Or.inl (by simp)
  | cons item text ih =>
      by_cases same : item = separator
      · rcases ih with blank | ⟨blanks, word, tail, rfl, blank, rest⟩
        · exact Or.inl (List.forall_mem_cons.mpr ⟨same, blank⟩)
        · exact Or.inr ⟨item :: blanks, word, tail, rfl,
            List.forall_mem_cons.mpr ⟨same, blank⟩, rest⟩
      · right
        refine ⟨[], item :: text.takeWhile (· ≠ separator),
          text.dropWhile (· ≠ separator), by simp, by simp, ?_, by simp, ?_⟩
        · intro member
          rcases List.mem_cons.mp member with here | later
          · exact same here.symm
          · simpa using List.mem_takeWhile_imp later
        · cases dropped : text.dropWhile (· ≠ separator) with
          | nil => exact Or.inl rfl
          | cons next rest =>
              have stopped := List.head_dropWhile_not (· ≠ separator)
                (dropped ▸ List.cons_ne_nil next rest)
              simp only [dropped, List.head_cons] at stopped
              have reached : next = separator := not_not.mp (of_decide_eq_false stopped)
              exact Or.inr ⟨rest, by rw [reached]⟩

/-- The same from the other end. -/
theorem blank_or_last (separator : α) (text : List α) :
    (∀ item ∈ text, item = separator) ∨
      ∃ head word blanks, text = head ++ (word ++ blanks) ∧
        (∀ item ∈ blanks, item = separator) ∧ separator ∉ word ∧ word ≠ [] ∧
        BeginsWord separator head := by
  rcases blank_or_first separator text.reverse with
    blank | ⟨blanks, word, tail, split, blank, absent, nonempty, ends⟩
  · exact Or.inl fun item member => blank item (List.mem_reverse.mpr member)
  · right
    refine ⟨tail.reverse, word.reverse, blanks.reverse, ?_, ?_, ?_, ?_, ?_⟩
    · simpa using congrArg List.reverse split
    · exact fun item member => blank item (List.mem_reverse.mp member)
    · exact fun member => absent (List.mem_reverse.mp member)
    · simpa using nonempty
    · rcases ends with rfl | ⟨rest, rfl⟩
      · exact Or.inl rfl
      · exact Or.inr ⟨rest.reverse, by simp⟩

theorem elements_of_blank {text : List α} (blank : ∀ item ∈ text, item = separator) :
    elements separator text = [] := by
  simpa using elements_separators_append blank []

theorem elements_of_first {blanks word tail : List α}
    (blank : ∀ item ∈ blanks, item = separator) (absent : separator ∉ word)
    (nonempty : word ≠ []) (ends : EndsWord separator tail) :
    elements separator (blanks ++ (word ++ tail)) =
      word :: elements separator tail := by
  rw [elements_separators_append blank]
  rcases ends with rfl | ⟨rest, rfl⟩
  · rw [List.append_nil, elements_word absent nonempty]
    rfl
  · have skipped : elements separator (separator :: rest) = elements separator rest :=
      @elements_separators_append _ _ _ [separator] (by simp) rest
    rw [elements_append, elements_word absent nonempty, skipped]
    rfl

theorem elements_of_last {head word blanks : List α}
    (blank : ∀ item ∈ blanks, item = separator) (absent : separator ∉ word)
    (nonempty : word ≠ []) (begins : BeginsWord separator head) :
    elements separator (head ++ (word ++ blanks)) =
      elements separator head ++ [word] := by
  rw [← List.append_assoc, elements_append_separators blank]
  rcases begins with rfl | ⟨rest, rfl⟩
  · rw [List.nil_append, elements_word absent nonempty]
    rfl
  · have kept : elements separator (rest ++ [separator]) = elements separator rest :=
      elements_append_separators (by simp) rest
    rw [List.append_assoc, List.singleton_append, elements_append,
      elements_word absent nonempty, kept]

end Elements

end Telling.Lib
