import Mathlib.Data.List.DropRight
import Mathlib.Data.List.TakeWhile

/-!
# Byte texts and their lines

Byte strings, slices of them, and the line grammar shared by HTTP-like formats:
a line ends with LF, with CR LF, or with a CR that no LF follows.  A block is the
run of nonempty lines up to the first empty line.
-/

namespace Telling.Lib

abbrev Byte := UInt8
abbrev Bytes := List Byte

/-- Bytes of an ASCII literal. -/
def ascii (literal : String) : Bytes :=
  literal.toList.map fun char => UInt8.ofNat char.toNat

def lf : Byte := 10
def cr : Byte := 13

/-! ## Slices and trimming -/

section Slices

variable {α : Type*}

/-- The `length` elements that begin at position `start`. -/
def slice (start length : Nat) (text : List α) : List α :=
  (text.drop start).take length

/-- A slice whose bounds are those of the middle part is the middle part. -/
theorem slice_middle (left middle right : List α) {start length : Nat}
    {text : List α}
    (split : text = left ++ (middle ++ right))
    (startEq : start = left.length) (lengthEq : length = middle.length) :
    slice start length text = middle := by
  subst split startEq lengthEq
  simp [slice]

/-- Remove leading and trailing elements that satisfy `blank`. -/
def trim (blank : α → Bool) (text : List α) : List α :=
  (text.dropWhile blank).rdropWhile blank

/-- `core` is `text` without the blanks at its two ends. -/
structure Trimmed (blank : α → Bool) (text core : List α) : Prop where
  around : ∃ left right, text = left ++ (core ++ right) ∧
    (∀ element ∈ left, blank element) ∧ ∀ element ∈ right, blank element
  first : ∀ element, core.head? = some element → blank element = false
  last : ∀ element, core.getLast? = some element → blank element = false

namespace Trimmed

variable {blank : α → Bool} {text core : List α}

theorem mem (trimmed : Trimmed blank text core) {element : α}
    (member : element ∈ core) : element ∈ text := by
  obtain ⟨left, right, rfl, _⟩ := trimmed.around
  simp [member]

/-- What is left of a text is determined. -/
theorem trim_text (trimmed : Trimmed blank text core) : trim blank text = core := by
  obtain ⟨left, right, rfl, leftBlank, rightBlank⟩ := trimmed.around
  rw [trim, List.dropWhile_append_of_pos leftBlank]
  cases core with
  | nil =>
      rw [List.nil_append, List.dropWhile_eq_nil_iff.mpr rightBlank]
      rfl
  | cons element rest =>
      have firstKept := trimmed.first element rfl
      have lastKept := trimmed.last _ (List.getLast?_eq_some_getLast (by simp))
      rw [List.cons_append, List.dropWhile_cons_of_neg (by simp [firstKept]),
        ← List.cons_append, List.rdropWhile, List.reverse_append,
        List.dropWhile_append_of_pos (by simpa using rightBlank), ← List.rdropWhile,
        List.rdropWhile_eq_self_iff]
      intro nonempty
      simpa using lastKept

/-- Trimming again removes nothing. -/
theorem trim_eq (trimmed : Trimmed blank text core) : trim blank core = core :=
  trim_text ⟨⟨[], [], by simp, by simp, by simp⟩, trimmed.first, trimmed.last⟩

end Trimmed

theorem trimmed_trim (blank : α → Bool) (text : List α) :
    Trimmed blank text (trim blank text) := by
  have back := List.rdropWhile_append_rtakeWhile (p := blank) (l := text.dropWhile blank)
  have front := List.takeWhile_append_dropWhile (p := blank) (l := text)
  constructor
  · refine ⟨text.takeWhile blank, (text.dropWhile blank).rtakeWhile blank, ?_, ?_, ?_⟩
    · rw [trim, back, front]
    · exact fun element member => List.mem_takeWhile_imp member
    · exact fun element member => List.mem_rtakeWhile_imp member
  · intro element first
    -- The first element that is kept is the one at which `dropWhile` stopped.
    have kept : (text.dropWhile blank).head? = some element := by
      obtain ⟨rest, split⟩ := List.rdropWhile_prefix blank (text.dropWhile blank)
      rw [← split, ← trim, List.head?_append, first]
      rfl
    have stopped := List.head?_dropWhile_not blank text
    rw [kept] at stopped
    simpa using stopped
  · intro element last
    have nonempty : trim blank text ≠ [] := by
      intro empty
      simp [empty] at last
    have stopped := List.rdropWhile_last_not blank (text.dropWhile blank) nonempty
    rw [List.getLast?_eq_some_getLast nonempty, Option.some.injEq] at last
    rw [← last]
    exact Bool.eq_false_iff.mpr stopped

end Slices

/-! ## Lines -/

/-- A text without newline characters. -/
def Plain (text : Bytes) : Prop :=
  ∀ byte ∈ text, byte ≠ cr ∧ byte ≠ lf

instance (text : Bytes) : Decidable (Plain text) :=
  inferInstanceAs (Decidable (∀ byte ∈ text, byte ≠ cr ∧ byte ≠ lf))

@[simp] theorem plain_nil : Plain [] := by simp [Plain]

@[simp] theorem plain_cons {byte : Byte} {text : Bytes} :
    Plain (byte :: text) ↔ (byte ≠ cr ∧ byte ≠ lf) ∧ Plain text := by
  simp [Plain]

@[simp] theorem plain_append {left right : Bytes} :
    Plain (left ++ right) ↔ Plain left ∧ Plain right := by
  simp only [Plain, List.mem_append]
  exact ⟨fun all => ⟨fun byte member => all byte (.inl member),
      fun byte member => all byte (.inr member)⟩,
    fun ⟨left, right⟩ byte member => member.elim (left byte) (right byte)⟩

theorem plain_intercalate {separator : Bytes} (plain : Plain separator) :
    (texts : List Bytes) → (∀ text ∈ texts, Plain text) →
      Plain (separator.intercalate texts)
  | [], _ => by simp
  | [text], plains => by simpa using plains text (by simp)
  | text :: next :: texts, plains => by
      obtain ⟨first, others⟩ := List.forall_mem_cons.mp plains
      have rest := plain_intercalate plain (next :: texts) others
      simpa [List.intercalate_cons_cons, first, plain] using rest

theorem length_intercalate_le {separator : Bytes} {bound : Nat} :
    (texts : List Bytes) → (∀ text ∈ texts, text.length ≤ bound) →
      (separator.intercalate texts).length ≤ texts.length * (bound + separator.length)
  | [], _ => by simp
  | [text], fits => by
      have := fits text (by simp)
      simp only [List.intercalate_singleton, List.length_singleton, Nat.one_mul]
      omega
  | text :: next :: texts, fits => by
      obtain ⟨first, others⟩ := List.forall_mem_cons.mp fits
      have rest := @length_intercalate_le separator bound (next :: texts) others
      rw [List.intercalate_cons_cons]
      simp only [List.length_append, List.length_cons, Nat.add_mul, Nat.one_mul] at rest ⊢
      omega

/-- `input` begins with `line`, terminated by `eol` and followed by `rest`.  A
lone CR terminates a line only when no LF follows it. -/
structure LineAt (input line eol rest : Bytes) : Prop where
  split : input = line ++ (eol ++ rest)
  plain : Plain line
  newline : eol = [lf] ∨ eol = [cr, lf] ∨ (eol = [cr] ∧ rest.head? ≠ some lf)

namespace LineAt

variable {input line eol rest : Bytes}

theorem eol_ne_nil (lineAt : LineAt input line eol rest) : eol ≠ [] := by
  rcases lineAt.newline with rfl | rfl | ⟨rfl, _⟩ <;> simp

theorem length_eq (lineAt : LineAt input line eol rest) :
    input.length = line.length + (eol.length + rest.length) := by
  rw [lineAt.split]
  simp

end LineAt

/-- A line that ends with LF or CR LF is a line whatever follows. -/
theorem LineAt.of_newline {line eol : Bytes} (plain : Plain line)
    (newline : eol = [lf] ∨ eol = [cr, lf]) (rest : Bytes) :
    LineAt (line ++ (eol ++ rest)) line eol rest where
  split := rfl
  plain := plain
  newline := newline.elim .inl fun equal => .inr (.inl equal)

/-- Lines with their terminators, laid out one after the other. -/
def joinLines (lines : List (Bytes × Bytes)) : Bytes :=
  lines.flatMap fun line => line.1 ++ line.2

@[simp] theorem joinLines_nil : joinLines [] = [] := rfl

@[simp] theorem joinLines_cons (line : Bytes × Bytes)
    (lines : List (Bytes × Bytes)) :
    joinLines (line :: lines) = line.1 ++ (line.2 ++ joinLines lines) := by
  simp [joinLines]

/-- Lines that all end alike. -/
def joinWith (eol : Bytes) (texts : List Bytes) : Bytes :=
  joinLines (texts.map fun text => (text, eol))

@[simp] theorem joinWith_nil (eol : Bytes) : joinWith eol [] = [] := rfl

@[simp] theorem joinWith_cons (eol text : Bytes) (texts : List Bytes) :
    joinWith eol (text :: texts) = text ++ (eol ++ joinWith eol texts) := by
  simp [joinWith]

@[simp] theorem joinWith_append (eol : Bytes) (left right : List Bytes) :
    joinWith eol (left ++ right) = joinWith eol left ++ joinWith eol right := by
  simp [joinWith, joinLines]

/-- Shorter terminators make shorter texts. -/
theorem length_joinWith_le {left right : Bytes}
    (shorter : left.length ≤ right.length) (texts : List Bytes) :
    (joinWith left texts).length ≤ (joinWith right texts).length := by
  induction texts with
  | nil => exact Nat.le_refl _
  | cons text texts ih =>
      simp only [joinWith_cons, List.length_append]
      exact Nat.add_le_add_left (Nat.add_le_add shorter ih) _

/-- `input` begins with the nonempty `lines`, then with an empty line terminated
by `blank`, and continues with `rest`. -/
inductive Block : Bytes → List (Bytes × Bytes) → Bytes → Bytes → Prop where
  | blank {input blank rest : Bytes} :
      LineAt input [] blank rest → Block input [] blank rest
  | line {input text eol middle blank rest : Bytes}
      {lines : List (Bytes × Bytes)} :
      LineAt input text eol middle → text ≠ [] →
      Block middle lines blank rest →
      Block input ((text, eol) :: lines) blank rest

namespace Block

variable {input blank rest : Bytes} {lines : List (Bytes × Bytes)}

theorem split (block : Block input lines blank rest) :
    input = joinLines lines ++ (blank ++ rest) := by
  induction block with
  | blank lineAt => exact lineAt.split
  | line lineAt _ _ ih =>
      rw [lineAt.split, ih]
      simp

theorem blank_ne_nil (block : Block input lines blank rest) : blank ≠ [] := by
  induction block with
  | blank lineAt => exact lineAt.eol_ne_nil
  | line _ _ _ ih => exact ih

theorem length_eq (block : Block input lines blank rest) :
    input.length = (joinLines lines).length + (blank.length + rest.length) := by
  rw [block.split]
  simp

theorem newline (block : Block input lines blank rest) :
    blank = [lf] ∨ blank = [cr, lf] ∨ (blank = [cr] ∧ rest.head? ≠ some lf) := by
  induction block with
  | blank lineAt => exact lineAt.newline
  | line _ _ _ ih => exact ih

/-- The lines before the empty one are nonempty and hold no newline. -/
theorem line_plain (block : Block input lines blank rest) :
    ∀ line ∈ lines, line.1 ≠ [] ∧ Plain line.1 := by
  induction block with
  | blank _ => simp
  | line lineAt nonempty _ ih =>
      exact List.forall_mem_cons.mpr ⟨⟨nonempty, lineAt.plain⟩, ih⟩

theorem joinLines_ne_nil {text eol : Bytes}
    (block : Block input ((text, eol) :: lines) blank rest) :
    joinLines ((text, eol) :: lines) ≠ [] := by
  cases block with
  | line lineAt nonempty _ => simp [nonempty]

/-- Within the text of the header lines alone, each line is still terminated the
way it is in the message. -/
theorem lineAt_joinLines {text eol : Bytes}
    (block : Block input ((text, eol) :: lines) blank rest) :
    LineAt (joinLines ((text, eol) :: lines)) text eol (joinLines lines) := by
  cases block with
  | @line _ _ _ middle _ _ _ lineAt nonempty tail =>
      refine ⟨by simp, lineAt.plain, ?_⟩
      rcases lineAt.newline with equal | equal | ⟨equal, alone⟩
      · exact .inl equal
      · exact .inr (.inl equal)
      · refine .inr (.inr ⟨equal, ?_⟩)
        rw [tail.split] at alone
        cases lines with
        | nil => simp
        | cons line lines =>
            obtain ⟨text', eol'⟩ := line
            have nonempty' := tail.joinLines_ne_nil
            rwa [List.head?_append_of_ne_nil _ nonempty'] at alone

/-- When the empty line is a bare LF, the header lines do not end with a CR that
the removal of the newline could mistake for its first byte. -/
theorem getLast?_ne_cr (block : Block input lines blank rest)
    (bare : blank = [lf]) : (joinLines lines).getLast? ≠ some cr := by
  induction block with
  | blank _ => simp
  | @line input text eol middle blank rest lines lineAt nonempty tail ih =>
      cases lines with
      | nil =>
          have eolLast : eol.getLast? ≠ some cr := by
            rcases lineAt.newline with rfl | rfl | ⟨rfl, alone⟩
            · simp [cr, lf]
            · simp [cr, lf]
            · rw [tail.split, bare] at alone
              simp at alone
          have eolNonempty := lineAt.eol_ne_nil
          rw [joinLines_cons, joinLines_nil, List.append_nil,
            List.getLast?_append_of_ne_nil _ eolNonempty]
          exact eolLast
      | cons line lines =>
          obtain ⟨text', eol'⟩ := line
          have nonempty' := tail.joinLines_ne_nil
          rw [joinLines_cons, List.getLast?_append_of_ne_nil,
            List.getLast?_append_of_ne_nil _ nonempty']
          · exact ih bare
          · exact List.append_ne_nil_of_right_ne_nil _ nonempty'

/-- Uniform layout: nonempty plain lines that all end with the same LF or CR LF,
closed by an empty line, form a block whatever follows. -/
theorem of_newline {eol : Bytes} (newline : eol = [lf] ∨ eol = [cr, lf])
    (rest : Bytes) :
    (texts : List Bytes) → (∀ text ∈ texts, text ≠ [] ∧ Plain text) →
      Block (joinLines (texts.map fun text => (text, eol)) ++ (eol ++ rest))
        (texts.map fun text => (text, eol)) eol rest
  | [], _ => .blank (LineAt.of_newline plain_nil newline rest)
  | text :: texts, all => by
      have head := all text (by simp)
      have tail := of_newline newline rest texts fun other member =>
        all other (by simp [member])
      refine .line ?_ head.1 tail
      simpa using LineAt.of_newline head.2 newline
        (joinLines (texts.map fun text => (text, eol)) ++ (eol ++ rest))

end Block

/-! ## Lists between separators -/

section Items

variable {α : Type*}

/-- The items of a list in which blanks may stand around each separator. -/
def items [BEq α] (separator : α) (blank : α → Bool) (text : List α) : List (List α) :=
  (text.splitOn separator).map (trim blank)

/-- A nonempty text that contains neither blanks nor separators. -/
structure Word (separator : α) (blank : α → Bool) (text : List α) : Prop where
  nonempty : text ≠ []
  noBlank : ∀ element ∈ text, blank element = false
  noSeparator : separator ∉ text

variable {separator space : α} {blank : α → Bool}

theorem Word.trim_append {text : List α} (word : Word separator blank text)
    {lead : List α} (blanks : ∀ element ∈ lead, blank element) :
    trim blank (lead ++ text) = text := by
  apply Trimmed.trim_text
  constructor
  · exact ⟨lead, [], by rw [List.append_nil], blanks, by simp⟩
  · intro element first
    exact word.noBlank element (List.mem_of_mem_head? first)
  · intro element last
    exact word.noBlank element (List.mem_of_getLast? last)

/-- A list that is written with a separator and a blank reads back. -/
theorem items_intercalate [BEq α] [LawfulBEq α] (blankSpace : blank space)
    (spaceOther : space ≠ separator) {texts : List (List α)}
    (words : ∀ text ∈ texts, Word separator blank text)
    (nonempty : texts ≠ []) :
    items separator blank ([separator, space].intercalate texts) = texts := by
  -- The items after the first one are read with the blank before them.
  have leading : ∀ lead : List α, (∀ element ∈ lead, blank element) →
      separator ∉ lead →
      items separator blank (lead ++ [separator, space].intercalate texts) = texts := by
    induction texts with
    | nil => contradiction
    | cons text rest ih =>
        intro lead blanks noSeparator
        have word := words text List.mem_cons_self
        have absent : separator ∉ lead ++ text := by
          rw [List.mem_append, not_or]
          exact ⟨noSeparator, word.noSeparator⟩
        cases rest with
        | nil =>
            rw [List.intercalate_singleton, items, List.splitOn_eq_singleton absent,
              List.map_singleton, word.trim_append blanks]
        | cons next rest =>
            have later := ih (fun text member => words text (List.mem_cons_of_mem _ member))
              (by simp) [space] (by simpa using blankSpace) (by simpa using spaceOther.symm)
            have split : lead ++ [separator, space].intercalate (text :: next :: rest) =
                (lead ++ text) ++ separator ::
                  ([space] ++ [separator, space].intercalate (next :: rest)) := by
              simp [List.intercalate_cons_cons]
            rw [items, split, List.splitOn_append_cons_self_of_not_mem absent,
              List.map_cons, word.trim_append blanks, ← items, later]
  exact leading [] (by simp) (by simp)

/-- Such a list neither begins nor ends with a blank. -/
theorem trim_intercalate {texts : List (List α)}
    (words : ∀ text ∈ texts, Word separator blank text) (joint : List α) :
    trim blank (joint.intercalate texts) = joint.intercalate texts := by
  apply Trimmed.trim_text
  constructor
  · exact ⟨[], [], by simp, by simp, by simp⟩
  · intro element first
    cases texts with
    | nil => simp at first
    | cons text rest =>
        have word := words text List.mem_cons_self
        have begins : text <+: joint.intercalate (text :: rest) := by
          cases rest with
          | nil => simp
          | cons next rest => simp [List.intercalate_cons_cons]
        obtain ⟨after, split⟩ := begins
        rw [← split, List.head?_append_of_ne_nil _ word.nonempty] at first
        exact word.noBlank element (List.mem_of_mem_head? first)
  · induction texts with
    | nil => simp
    | cons text rest ih =>
        intro element last
        cases rest with
        | nil =>
            rw [List.intercalate_singleton] at last
            exact (words text List.mem_cons_self).noBlank element
              (List.mem_of_getLast? last)
        | cons next rest =>
            have others := fun text member => words text (List.mem_cons_of_mem _ member)
            have follows : joint.intercalate (next :: rest) ≠ [] := by
              have nonempty := (others next List.mem_cons_self).nonempty
              cases rest with
              | nil => simpa using nonempty
              | cons third rest => simp [List.intercalate_cons_cons, nonempty]
            rw [List.intercalate_cons_cons, List.getLast?_append_of_ne_nil _ follows] at last
            exact ih others element last

end Items

/-- A text without the separator is an initial part of what stands before the
separator, or of nothing. -/
theorem prefix_append_cons_iff {topic before after : Bytes} {separator : UInt8}
    (absent : separator ∉ topic) :
    topic <+: before ++ separator :: after ↔ topic <+: before := by
  induction before generalizing topic with
  | nil =>
      cases topic with
      | nil => simp
      | cons byte topic =>
          have different : byte ≠ separator := fun same => absent (same ▸ List.mem_cons_self)
          simp [List.cons_prefix_cons, different]
  | cons head before ih =>
      cases topic with
      | nil => simp
      | cons byte topic =>
          have absentBelow : separator ∉ topic :=
            fun member => absent (List.mem_cons_of_mem _ member)
          simp only [List.cons_append, List.cons_prefix_cons, ih absentBelow]

end Telling.Lib
