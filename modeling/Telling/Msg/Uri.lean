import Telling.Lib.Deque
import Telling.Msg.Codes

/-!
# URIs and their path elements

`Uri_<std::string>` and `Uri_<std::string_view>` share one template, so both are byte
strings here.  `front` and `back` return views into the text; the pops cut it after or
before the view.  Whatever slashes the pops leave behind, the URI behaves as the deque
of its path elements.
-/

namespace Telling.Msg.Uri

open Lib

/-! ## The members of the string classes -/

/-- The first accepted byte at `pos` or after it.  A position that is `npos` is `none`. -/
def findFirst (accepts : Byte → Bool) (text : Bytes) : Option Nat → Option Nat
  | none => none
  | some pos => ((text.drop pos).findIdx? accepts).map (pos + ·)

/-- The last accepted byte at `pos` or before it. -/
def findLast (accepts : Byte → Bool) (text : Bytes) (pos : Option Nat) : Option Nat :=
  let searched :=
    match pos with
    | none => text
    | some pos => text.take (pos + 1)
  (searched.reverse.findIdx? accepts).map (searched.length - 1 - ·)

def findFirstOf (char : Byte) : Bytes → Option Nat → Option Nat := findFirst (· == char)
def findFirstNotOf (char : Byte) : Bytes → Option Nat → Option Nat := findFirst (· != char)
def findLastOf (char : Byte) : Bytes → Option Nat → Option Nat := findLast (· == char)
def findLastNotOf (char : Byte) : Bytes → Option Nat → Option Nat := findLast (· != char)

/-- A `std::string_view` into the text of a URI. -/
structure View where
  start : Nat
  length : Nat
  deriving DecidableEq, Repr

def View.text (view : View) (uri : Bytes) : Bytes := slice view.start view.length uri

/-! ## The members of `Uri_` -/

/-- `rfind(prefix, 0) == 0`. -/
def hasPrefix (uri pathPrefix : Bytes) : Bool := pathPrefix.isPrefixOf uri

def front (uri : Bytes) : View :=
  let beg := findFirstNotOf slash uri (some 0)
  let stop := findFirstOf slash uri beg
  let beg := beg.getD uri.length
  let stop := stop.getD uri.length
  ⟨beg, stop - beg⟩

def popFront (uri : Bytes) : Bytes × Bytes :=
  let range := front uri
  (range.text uri,
    if range.length ≠ 0 then uri.drop (range.start + range.length) else uri)

def back (uri : Bytes) : View :=
  if uri.length = 0 then ⟨0, 0⟩
  else
    let stop := findLastNotOf slash uri none
    let beg := findLastOf slash uri stop
    let beg := (beg.map (· + 1)).getD 0
    let stop := (stop.map (· + 1)).getD uri.length
    ⟨beg, stop - beg⟩

def popBack (uri : Bytes) : Bytes × Bytes :=
  let range := back uri
  (range.text uri, if range.length ≠ 0 then uri.take range.start else uri)

/-- `front` or `back`, as a text. -/
def peek : End → Bytes → Bytes
  | .front, uri => (front uri).text uri
  | .back, uri => (back uri).text uri

/-- `pop_front` or `pop_back`. -/
def pop : End → Bytes → Bytes × Bytes
  | .front => popFront
  | .back => popBack

/-- How a caller reads an answer: an empty one stands for no element. -/
def element? (answer : Bytes) : Option Bytes :=
  if answer = [] then none else some answer

def popElement (side : End) (uri : Bytes) : Option Bytes × Bytes :=
  let (answer, rest) := pop side uri
  (element? answer, rest)

/-! ## Searching -/

section Searching

variable {accepts : Byte → Bool} {skipped : Bytes} {byte : Byte}

theorem findFirst_of_hit (before after : Bytes)
    (refused : ∀ byte ∈ skipped, accepts byte = false) (accepted : accepts byte = true) :
    findFirst accepts (before ++ (skipped ++ byte :: after)) (some before.length) =
      some (before.length + skipped.length) := by
  simp [findFirst, List.findIdx?_append, List.findIdx?_cons, accepted,
    List.findIdx?_eq_none_iff.mpr refused]

theorem findFirst_of_miss (before : Bytes)
    (refused : ∀ byte ∈ skipped, accepts byte = false) :
    findFirst accepts (before ++ skipped) (some before.length) = none := by
  simp [findFirst, List.findIdx?_eq_none_iff.mpr refused]

theorem findIdx?_reverse_of_hit (before : Bytes)
    (refused : ∀ byte ∈ skipped, accepts byte = false)
    (accepted : accepts byte = true) :
    (before ++ byte :: skipped).reverse.findIdx? accepts = some skipped.length := by
  have refusedToo : skipped.reverse.findIdx? accepts = none :=
    List.findIdx?_eq_none_iff.mpr fun byte member =>
      refused byte (List.mem_reverse.mp member)
  simp [List.findIdx?_append, List.findIdx?_cons, accepted, refusedToo]

theorem findLast_of_hit (before : Bytes) (refused : ∀ byte ∈ skipped, accepts byte = false)
    (accepted : accepts byte = true) :
    findLast accepts (before ++ byte :: skipped) none = some before.length := by
  simp only [findLast, findIdx?_reverse_of_hit before refused accepted, Option.map_some,
    List.length_append, List.length_cons]
  congr 1
  omega

theorem findLast_of_miss (refused : ∀ byte ∈ skipped, accepts byte = false) :
    findLast accepts skipped none = none := by
  have refusedToo : skipped.reverse.findIdx? accepts = none :=
    List.findIdx?_eq_none_iff.mpr fun byte member =>
      refused byte (List.mem_reverse.mp member)
  simp [findLast, refusedToo]

/-- A search that ends at a position does not see what comes after it. -/
theorem findLast_of_position {before : Bytes} {pos : Nat} (after : Bytes)
    (position : pos + 1 = before.length) :
    findLast accepts (before ++ after) (some pos) = findLast accepts before none := by
  simp [findLast, position]

end Searching

/-! ## The two views -/

section Views

variable {uri blanks word tail head : Bytes}

theorem bne_slash_of_blank (blank : ∀ byte ∈ blanks, byte = slash) :
    ∀ byte ∈ blanks, (byte != slash) = false := by
  intro byte member
  simp [blank byte member]

theorem beq_slash_of_word (absent : slash ∉ word) :
    ∀ byte ∈ word, (byte == slash) = false := by
  intro byte member
  simp only [beq_eq_false_iff_ne, ne_eq]
  rintro rfl
  exact absent member

theorem front_of_blank (blank : ∀ byte ∈ uri, byte = slash) :
    front uri = ⟨uri.length, 0⟩ := by
  have missed : findFirstNotOf slash uri (some 0) = none :=
    findFirst_of_miss [] (bne_slash_of_blank blank)
  have missedToo : findFirstOf slash uri none = none := rfl
  simp [front, missed, missedToo]

theorem front_of_first (blank : ∀ byte ∈ blanks, byte = slash) (absent : slash ∉ word)
    (nonempty : word ≠ []) (ends : EndsWord slash tail) :
    front (blanks ++ (word ++ tail)) = ⟨blanks.length, word.length⟩ := by
  have begins : findFirstNotOf slash (blanks ++ (word ++ tail)) (some 0) =
      some blanks.length := by
    obtain ⟨byte, rest, rfl⟩ := List.exists_cons_of_ne_nil nonempty
    have other : (byte != slash) = true := by
      have := beq_slash_of_word absent byte List.mem_cons_self
      simpa using this
    simpa [findFirstNotOf] using
      findFirst_of_hit [] (rest ++ tail) (bne_slash_of_blank blank) other
  have stops : (findFirstOf slash (blanks ++ (word ++ tail)) (some blanks.length)).getD
      (blanks ++ (word ++ tail)).length = blanks.length + word.length := by
    rcases ends with rfl | ⟨rest, rfl⟩
    · rw [List.append_nil]
      rw [findFirstOf, findFirst_of_miss blanks (beq_slash_of_word absent)]
      simp
    · rw [findFirstOf, findFirst_of_hit blanks rest (beq_slash_of_word absent) (by simp)]
      rfl
  simp only [front, begins, stops, Option.getD_some]
  congr 1
  omega

theorem back_of_blank (blank : ∀ byte ∈ uri, byte = slash) :
    (back uri).length = 0 := by
  unfold back
  split
  · rfl
  · next nonempty =>
      have missed : findLastNotOf slash uri none = none :=
        findLast_of_miss (bne_slash_of_blank blank)
      obtain ⟨init, last, rfl⟩ : ∃ init last, uri = init ++ [last] := by
        refine ⟨uri.dropLast, uri.getLast ?_, (List.dropLast_append_getLast _).symm⟩
        exact fun empty => nonempty (by rw [empty]; rfl)
      have found : findLastOf slash (init ++ [last]) none = some init.length :=
        findLast_of_hit init (by simp) (by simp [blank last (by simp)])
      simp [missed, found]

theorem back_of_last (blank : ∀ byte ∈ blanks, byte = slash) (absent : slash ∉ word)
    (nonempty : word ≠ []) (begins : BeginsWord slash head) :
    back (head ++ (word ++ blanks)) = ⟨head.length, word.length⟩ := by
  have stops : findLastNotOf slash (head ++ (word ++ blanks)) none =
      some (head.length + word.length - 1) := by
    obtain ⟨init, last, rfl⟩ : ∃ init last, word = init ++ [last] :=
      ⟨_, _, (List.dropLast_append_getLast nonempty).symm⟩
    have other : (last != slash) = true := by
      have := beq_slash_of_word absent last (by simp)
      simpa using this
    have found := findLast_of_hit (head ++ init) (bne_slash_of_blank blank) other
    simpa [findLastNotOf] using found
  have positive : 0 < word.length := List.length_pos_of_ne_nil nonempty
  have starts : ((findLastOf slash (head ++ (word ++ blanks))
      (some (head.length + word.length - 1))).map (· + 1)).getD 0 = head.length := by
    rw [← List.append_assoc, findLastOf, findLast_of_position blanks (by simp; omega)]
    rcases begins with rfl | ⟨rest, rfl⟩
    · rw [List.nil_append, findLast_of_miss (beq_slash_of_word absent)]
      rfl
    · rw [List.append_assoc, List.singleton_append,
        findLast_of_hit rest (beq_slash_of_word absent) (by simp)]
      simp
  have occupied : (head ++ (word ++ blanks)).length ≠ 0 := by
    simp [nonempty]
  simp only [back, if_neg occupied, stops, starts, Option.map_some, Option.getD_some]
  congr 1
  omega

end Views

/-! ## The deque of path elements -/

theorem peek_eq_fst_pop (side : End) (uri : Bytes) : peek side uri = (pop side uri).1 := by
  cases side <;> rfl

@[simp] theorem element?_eq_none_iff {answer : Bytes} :
    element? answer = none ↔ answer = [] := by
  simp [element?]

/-- A pop on slashes finds nothing and cuts nothing. -/
theorem pop_of_blank {uri : Bytes} (blank : ∀ byte ∈ uri, byte = slash) (side : End) :
    pop side uri = ([], uri) := by
  cases side with
  | front => simp [pop, popFront, front_of_blank blank, View.text, slice]
  | back => simp [pop, popBack, back_of_blank blank, View.text, slice]

theorem popFront_of_first {blanks word tail : Bytes}
    (blank : ∀ byte ∈ blanks, byte = slash) (absent : slash ∉ word)
    (nonempty : word ≠ []) (ends : EndsWord slash tail) :
    popFront (blanks ++ (word ++ tail)) = (word, tail) := by
  simp [popFront, front_of_first blank absent nonempty ends, View.text, slice, nonempty,
    ← List.drop_drop]

theorem popBack_of_last {head word blanks : Bytes}
    (blank : ∀ byte ∈ blanks, byte = slash) (absent : slash ∉ word)
    (nonempty : word ≠ []) (begins : BeginsWord slash head) :
    popBack (head ++ (word ++ blanks)) = (word, head) := by
  simp [popBack, back_of_last blank absent nonempty begins, View.text, slice, nonempty]

/-- Each pop removes one path element, or finds that there is none. -/
theorem popElement_removes (side : End) (uri : Bytes) :
    ((popElement side uri).1, elements slash (popElement side uri).2) =
      side.remove (elements slash uri) := by
  cases side with
  | front =>
      rcases blank_or_first slash uri with
        blank | ⟨blanks, word, tail, rfl, blank, absent, nonempty, ends⟩
      · simp [popElement, pop_of_blank blank, elements_of_blank blank, End.remove,
          End.peek, End.discard, element?]
      · simp [popElement, pop, popFront_of_first blank absent nonempty ends,
          elements_of_first blank absent nonempty ends, End.remove, End.peek,
          End.discard, element?, nonempty]
  | back =>
      rcases blank_or_last slash uri with
        blank | ⟨head, word, blanks, rfl, blank, absent, nonempty, begins⟩
      · simp [popElement, pop_of_blank blank, elements_of_blank blank, End.remove,
          End.peek, End.discard, element?]
      · simp [popElement, pop, popBack_of_last blank absent nonempty begins,
          elements_of_last blank absent nonempty begins, End.remove, End.peek,
          End.discard, element?, nonempty]

theorem pop_eq_nil_iff (side : End) (uri : Bytes) :
    (pop side uri).1 = [] ↔ elements slash uri = [] := by
  have answer := congrArg Prod.fst (popElement_removes side uri)
  calc (pop side uri).1 = []
      ↔ (popElement side uri).1 = none := element?_eq_none_iff.symm
    _ ↔ side.peek (elements slash uri) = none := Eq.congr answer rfl
    _ ↔ elements slash uri = [] := End.peek_eq_none_iff

theorem pop_unchanged {uri : Bytes} (none : elements slash uri = []) (side : End) :
    (pop side uri).2 = uri := by
  rcases blank_or_first slash uri with
    blank | ⟨blanks, word, tail, rfl, blank, absent, nonempty, ends⟩
  · rw [pop_of_blank blank]
  · rw [elements_of_first blank absent nonempty ends] at none
    contradiction

/-- Whatever ends a URI is popped from, it answers as the deque of its path elements
and stands for what is left of it.  Every element is returned once or is still there.
A pop returns the empty text exactly when no elements remain, and then cuts nothing;
`front` and `back` return what the next pop would. -/
theorem pops_split_path (uri : Bytes) (sides : List End) :
    let answers := (pops popElement uri sides).1
    let rest := (pops popElement uri sides).2
    answers = (pops End.remove (elements slash uri) sides).1 ∧
      elements slash rest = (pops End.remove (elements slash uri) sides).2 ∧
      removed .front answers ++ elements slash rest ++
        (removed .back answers).reverse = elements slash uri ∧
      ∀ side, peek side rest = (pop side rest).1 ∧
        ((pop side rest).1 = [] ↔ elements slash rest = []) ∧
        (elements slash rest = [] → (pop side rest).2 = rest) := by
  intro answers rest
  have behaves := pops_eq_of_remove popElement_removes sides uri
  have answered : answers = (pops End.remove (elements slash uri) sides).1 :=
    congrArg Prod.fst behaves
  have left : elements slash rest = (pops End.remove (elements slash uri) sides).2 :=
    congrArg Prod.snd behaves
  refine ⟨answered, left, ?_, fun side => ?_⟩
  · rw [answered, left]
    exact removed_append_remaining sides (elements slash uri)
  · exact ⟨peek_eq_fst_pop side rest, pop_eq_nil_iff side rest,
      fun none => pop_unchanged none side⟩

/-- Slashes at the ends and in a row make no elements. -/
example : elements slash (ascii "///bug/in//code?///") =
    [ascii "bug", ascii "in", ascii "code?"] ∧
    pops popElement (ascii "///bug/in//code?///") [.back, .front, .front, .back] =
      ([(.back, some (ascii "code?")), (.front, some (ascii "bug")),
        (.front, some (ascii "in")), (.back, none)], ascii "//") := by
  decide +kernel

end Telling.Msg.Uri
