import Telling.Msg.Admission
import Telling.Msg.LengthSlot

/-!
# Messages received in part

A reader that does not know where a message ends parses what it has so far and
asks the view whether that is all.  The parser accepts a proper prefix of an
accepted message only when the header section is in it, with one exception: of an
empty line that ends with CR LF it takes the CR alone for the whole line.
-/

namespace Telling.Msg

open Lib

/-! ## Framing of prefixes -/

/-- The first line of a prefix is that of the whole text, unless the prefix ends
inside the CR LF that terminates it. -/
theorem lineAt_beginning {input line eol rest left right line' eol' rest' : Bytes}
    (lineAt : LineAt input line eol rest) (split : left ++ right = input)
    (lineAt' : LineAt left line' eol' rest') :
    line' = line ∧ (eol' = eol ∧ rest' ++ right = rest ∨
      eol' = [cr] ∧ eol = [cr, lf] ∧ rest' = [] ∧ right = lf :: rest) := by
  have whole : input = line' ++ (eol' ++ (rest' ++ right)) := by
    rw [← split, lineAt'.split]
    simp
  by_cases cut : eol' = [cr] ∧ (rest' ++ right).head? = some lf
  · obtain ⟨rfl, follows⟩ := cut
    have alone : rest'.head? ≠ some lf := by
      rcases lineAt'.newline with equal | equal | ⟨_, alone⟩
      · simp [cr, lf] at equal
      · simp at equal
      · exact alone
    have noRest : rest' = [] := by
      cases rest' with
      | nil => rfl
      | cons byte rest' => exact absurd follows alone
    subst noRest
    obtain ⟨after, rfl⟩ : ∃ after, right = lf :: after := by
      cases right with
      | nil => simp at follows
      | cons byte after =>
          obtain rfl : byte = lf := by simpa using follows
          exact ⟨after, rfl⟩
    have extended : LineAt input line' [cr, lf] after :=
      ⟨by rw [whole]; simp, lineAt'.plain, .inr (.inl rfl)⟩
    obtain ⟨rfl, rfl, rfl⟩ := lineAt_unique lineAt extended
    exact ⟨rfl, .inr ⟨rfl, rfl, rfl, rfl⟩⟩
  · have extended : LineAt input line' eol' (rest' ++ right) := by
      refine ⟨whole, lineAt'.plain, ?_⟩
      rcases lineAt'.newline with equal | equal | ⟨equal, _⟩
      · exact .inl equal
      · exact .inr (.inl equal)
      · exact .inr (.inr ⟨equal, fun follows => cut ⟨equal, follows⟩⟩)
    obtain ⟨rfl, rfl, rfl⟩ := lineAt_unique lineAt extended
    exact ⟨rfl, .inl ⟨rfl, rfl⟩⟩

theorem block_ne_nil {input blank rest : Bytes} {lines : List (Bytes × Bytes)}
    (block : Block input lines blank rest) : input ≠ [] := by
  have total := block.length_eq
  have positive := List.length_pos_of_ne_nil block.blank_ne_nil
  rintro rfl
  simp only [List.length_nil] at total
  omega

/-- The same for the header lines: they are all there, and so is the empty line,
perhaps without its LF. -/
theorem block_beginning {left blank' rest' : Bytes} {lines' : List (Bytes × Bytes)}
    (block' : Block left lines' blank' rest') :
    {input blank rest right : Bytes} → {lines : List (Bytes × Bytes)} →
    Block input lines blank rest → left ++ right = input →
    lines' = lines ∧ (blank' = blank ∧ rest' ++ right = rest ∨
      blank' = [cr] ∧ blank = [cr, lf] ∧ rest' = [] ∧ right = lf :: rest) := by
  induction block' with
  | blank lineAt' =>
      intro input blank rest right lines block split
      cases block with
      | blank lineAt => exact ⟨rfl, (lineAt_beginning lineAt split lineAt').2⟩
      | line lineAt nonempty _ =>
          exact absurd (lineAt_beginning lineAt split lineAt').1.symm nonempty
  | line lineAt' nonempty tail' ih =>
      intro input blank rest right lines block split
      cases block with
      | blank lineAt => exact absurd (lineAt_beginning lineAt split lineAt').1 nonempty
      | line lineAt _ tail =>
          obtain ⟨rfl, ⟨rfl, continued⟩ | ⟨_, _, ended, _⟩⟩ :=
            lineAt_beginning lineAt split lineAt'
          · obtain ⟨rfl, rest⟩ := ih tail continued
            exact ⟨rfl, rest⟩
          · exact absurd ended (block_ne_nil tail')

/-- A line ends where it does when the text behind it is cut later. -/
theorem lineAt_cut {input line eol rest right : Bytes}
    (lineAt : LineAt input line eol (rest ++ right)) (more : rest ≠ []) :
    LineAt (line ++ (eol ++ rest)) line eol rest where
  split := rfl
  plain := lineAt.plain
  newline := by
    have newline := lineAt.newline
    rwa [List.head?_append_of_ne_nil _ more] at newline

theorem block_without_lf {input blank rest : Bytes} {lines : List (Bytes × Bytes)}
    (block : Block input lines blank rest) (crlf : blank = [cr, lf])
    (ended : rest = []) : Block (joinLines lines ++ [cr]) lines [cr] [] := by
  induction block with
  | blank _ => exact .blank ⟨rfl, by simp, .inr (.inr ⟨rfl, by simp⟩)⟩
  | @line input text eol middle blank rest lines lineAt nonempty tail ih =>
      refine .line ?_ nonempty (ih crlf ended)
      have middleEq : middle = joinLines lines ++ [cr] ++ [lf] := by
        rw [tail.split, crlf, ended]
        simp
      rw [middleEq] at lineAt
      simpa using lineAt_cut lineAt (by simp)

namespace Framed

variable {msg line eol blank body left right : Bytes} {lines : List (Bytes × Bytes)}

/-- A prefix that is framed has the head of the whole message. -/
theorem of_beginning {line' eol' blank' body' : Bytes} {lines' : List (Bytes × Bytes)}
    (framed : Framed msg line eol lines blank body) (split : left ++ right = msg)
    (framed' : Framed left line' eol' lines' blank' body') :
    line' = line ∧ eol' = eol ∧ lines' = lines ∧
      (blank' = blank ∧ body' ++ right = body ∨
        blank' = [cr] ∧ blank = [cr, lf] ∧ body' = [] ∧ right = lf :: body) := by
  obtain ⟨rfl, ⟨rfl, continued⟩ | ⟨_, _, ended, _⟩⟩ :=
    lineAt_beginning framed.startLine split framed'.startLine
  · obtain ⟨rfl, rest⟩ := block_beginning framed'.block framed.block continued
    exact ⟨rfl, rfl, rfl, rest⟩
  · exact absurd ended (block_ne_nil framed'.block)

/-- The end of a message without a body whose last byte is preceded by a CR. -/
theorem blank_eq_of_clipped (framed : Framed (left ++ [lf]) line eol lines blank [])
    (ends : left.getLast? = some cr) : blank = [cr, lf] := by
  rcases framed.block.newline with equal | equal | ⟨equal, _⟩
  · have split : left = line ++ (eol ++ joinLines lines) := by
      have whole := framed.startLine.split
      rw [equal] at whole
      rw [← List.append_left_inj [lf], whole]
      simp
    cases lines with
    | nil =>
        rw [split, joinLines_nil, List.append_nil,
          List.getLast?_append_of_ne_nil _ framed.startLine.eol_ne_nil] at ends
        rcases framed.startLine.newline with rfl | rfl | ⟨_, alone⟩
        · simp [cr, lf] at ends
        · simp [cr, lf] at ends
        · rw [equal] at alone
          simp at alone
    | cons headerLine lines =>
        have nonempty := framed.block.joinLines_ne_nil
        rw [split, ← List.append_assoc, List.getLast?_append_of_ne_nil _ nonempty] at ends
        exact absurd ends (framed.block.getLast?_ne_cr equal)
  · exact equal
  · have whole := congrArg List.getLast? framed.startLine.split
    rw [equal] at whole
    simp [cr, lf] at whole

/-- Without its last byte, a message that ends with the CR LF of its empty line is
framed as well. -/
theorem without_lf (framed : Framed msg line eol lines [cr, lf] [])
    (split : left ++ [lf] = msg) : Framed left line eol lines [cr] [] := by
  have cut : left = line ++ (eol ++ (joinLines lines ++ [cr])) := by
    have whole := split.trans framed.startLine.split
    rw [← List.append_left_inj [lf], whole]
    simp
  have startLine := framed.startLine
  have block := framed.block
  rw [show joinLines lines ++ ([cr, lf] ++ []) = joinLines lines ++ [cr] ++ [lf] by
    simp] at startLine
  refine ⟨?_, ?_⟩
  · rw [cut, List.append_nil]
    exact lineAt_cut startLine (by simp)
  · rw [List.append_nil]
    exact block_without_lf block rfl rfl

end Framed

/-! ## Numerals -/

theorem isDigit_digitsText (value : Nat) :
    ∀ byte ∈ MsgWriter.digitsText value, Status.isDigit byte = true := by
  induction value using MsgWriter.digitsText.induct with
  | case1 value single =>
      rw [MsgWriter.digitsText, if_pos single]
      simp [Status.isDigit_digit]
  | case2 value more ih =>
      rw [MsgWriter.digitsText, if_neg more, List.forall_mem_append]
      exact ⟨ih, by simp [Status.isDigit_digit]⟩

theorem digitsText_ne_nil (value : Nat) : MsgWriter.digitsText value ≠ [] := by
  rw [MsgWriter.digitsText]
  split <;> simp

theorem decimal_digitsText (value : Nat) :
    MsgHeaderView.decimal (MsgWriter.digitsText value) = value := by
  induction value using MsgWriter.digitsText.induct with
  | case1 value single =>
      rw [MsgWriter.digitsText, if_pos single]
      simp only [MsgHeaderView.decimal, List.foldl_cons, List.foldl_nil,
        Status.digit_toNat]
      omega
  | case2 value more ih =>
      rw [MsgWriter.digitsText, if_neg more]
      rw [MsgHeaderView.decimal] at ih
      simp only [MsgHeaderView.decimal, List.foldl_append, ih, List.foldl_cons,
        List.foldl_nil, Status.digit_toNat]
      omega

/-- `INT64_MAX`. -/
def maxInt64 : Nat := 9223372036854775807

/-- A run of digits, and what follows it in a text. -/
structure Digits (digits rest : Bytes) : Prop where
  nonempty : digits ≠ []
  digits : ∀ byte ∈ digits, Status.isDigit byte = true
  ends : ∀ byte ∈ rest.head?, Status.isDigit byte = false

namespace Digits

variable {digits rest : Bytes} (run : Digits digits rest)
include run

theorem takeWhile_eq : (digits ++ rest).takeWhile Status.isDigit = digits := by
  rw [List.takeWhile_append_of_pos run.digits]
  cases rest with
  | nil => simp
  | cons byte rest => simp [run.ends byte rfl]

/-- Digits begin with neither sign. -/
theorem ne_cons {byte : Byte} (sign : Status.isDigit byte = false) (text : Bytes) :
    digits ++ rest ≠ byte :: text := by
  intro equal
  have member : byte ∈ (digits ++ rest).takeWhile Status.isDigit ∨ digits = [] := by
    cases digits with
    | nil => exact .inr rfl
    | cons digit digits =>
        obtain ⟨rfl, _⟩ := List.cons.inj equal
        exact .inl (by rw [run.takeWhile_eq]; exact List.mem_cons_self)
  cases member with
  | inl member =>
      rw [run.takeWhile_eq] at member
      rw [run.digits byte member] at sign
      contradiction
  | inr empty => exact run.nonempty empty

/-- `from_chars` on digits: a number that does not fit `int64_t` is not stored. -/
theorem fromChars_eq (initial : Int) :
    MsgHeaderView.fromChars (digits ++ rest) initial =
      if MsgHeaderView.decimal digits ≤ maxInt64 then
        (MsgHeaderView.decimal digits : Int) else initial := by
  have range : (-(2 ^ 63) ≤ (MsgHeaderView.decimal digits : Int) ∧
      (MsgHeaderView.decimal digits : Int) < 2 ^ 63) ↔
        MsgHeaderView.decimal digits ≤ maxInt64 := by
    simp only [maxInt64]
    omega
  unfold MsgHeaderView.fromChars
  split
  next sign body signed =>
    split at signed
    · next text equal => exact absurd equal (run.ne_cons (by decide) text)
    · obtain ⟨rfl, rfl⟩ := Prod.mk.inj signed
      simp only [run.takeWhile_eq, run.nonempty, if_false, one_mul, range]

/-- The same behind a minus sign, where one more number fits. -/
theorem fromChars_minus (initial : Int) :
    MsgHeaderView.fromChars (45 :: (digits ++ rest)) initial =
      if MsgHeaderView.decimal digits ≤ maxInt64 + 1 then
        -(MsgHeaderView.decimal digits : Int) else initial := by
  have range : (-(2 ^ 63) ≤ -(MsgHeaderView.decimal digits : Int) ∧
      -(MsgHeaderView.decimal digits : Int) < 2 ^ 63) ↔
        MsgHeaderView.decimal digits ≤ maxInt64 + 1 := by
    simp only [maxInt64]
    omega
  simp only [MsgHeaderView.fromChars, run.takeWhile_eq, run.nonempty, if_false,
    Int.neg_mul, Int.one_mul, range]

end Digits

/-- `from_chars` reads digits, or a minus sign and digits, or nothing. -/
theorem fromChars_cases (text : Bytes) (initial : Int) :
    MsgHeaderView.fromChars text initial = initial ∨
      ∃ digits rest, Digits digits rest ∧
        (text = digits ++ rest ∨ text = 45 :: (digits ++ rest)) := by
  have found (body : Bytes) (some : body.takeWhile Status.isDigit ≠ []) :
      Digits (body.takeWhile Status.isDigit) (body.dropWhile Status.isDigit) := by
    refine ⟨some, fun byte member => List.mem_takeWhile_imp member, fun byte first => ?_⟩
    have stops := List.head?_dropWhile_not Status.isDigit body
    rw [Option.mem_def.mp first] at stops
    simpa using stops
  unfold MsgHeaderView.fromChars
  split
  next sign body signed =>
    by_cases none : body.takeWhile Status.isDigit = []
    · simp [none]
    · refine .inr ⟨_, _, found body none, ?_⟩
      rw [List.takeWhile_append_dropWhile]
      split at signed
      · obtain ⟨_, rfl⟩ := Prod.mk.inj signed
        exact .inr rfl
      · obtain ⟨_, rfl⟩ := Prod.mk.inj signed
        exact .inl rfl

namespace Digits

variable {digits rest : Bytes} (run : Digits digits rest) {header : MsgHeaderView}
include run

/-- `value_dec` skips a plus sign. -/
theorem valueDec_eq (text : header.value = digits ++ rest ∨
    header.value = 43 :: (digits ++ rest)) :
    header.valueDec 0 = if MsgHeaderView.decimal digits ≤ maxInt64 then
      (MsgHeaderView.decimal digits : Int) else 0 := by
  rw [← run.fromChars_eq 0, MsgHeaderView.valueDec]
  cases text with
  | inl text =>
      rw [text]
      split
      · next other equal => exact absurd equal (run.ne_cons (by decide) other)
      · rfl
  | inr text => simp only [text]

theorem valueDec_minus (text : header.value = 45 :: (digits ++ rest) ∨
    header.value = 43 :: 45 :: (digits ++ rest)) :
    header.valueDec 0 = if MsgHeaderView.decimal digits ≤ maxInt64 + 1 then
      -(MsgHeaderView.decimal digits : Int) else 0 := by
  rw [← run.fromChars_minus 0, MsgHeaderView.valueDec]
  cases text with
  | inl text => simp [text]
  | inr text => simp only [text]

end Digits

/-- A numeral is read as the number it stands for when that fits `int64_t`. -/
theorem valueDec_digitsText {header : MsgHeaderView} {value : Nat}
    (numeral : header.value = MsgWriter.digitsText value)
    (small : value ≤ maxInt64) : header.valueDec 0 = value := by
  have run : Digits (MsgWriter.digitsText value) [] :=
    ⟨digitsText_ne_nil value, isDigit_digitsText value, by simp⟩
  rw [run.valueDec_eq (.inl (by rw [numeral, List.append_nil])), decimal_digitsText,
    if_pos small]

/-! ## Completeness -/

/-- The largest size of an object, `PTRDIFF_MAX`. -/
def maxSize : Nat := 9223372036854775807

/-- The message declares the length of its body once, as a numeral, does not
declare a transfer encoding, and has a body of that length. -/
structure Measured (view : MsgView) (length : Nat) : Prop where
  declared : ∃ before header after, view.headers = before ++ header :: after ∧
    header.is (ascii "Content-Length") ∧
    header.value = MsgWriter.digitsText length ∧
    ∀ other ∈ before ++ after, other.is (ascii "Content-Length") = false
  unencoded : ∀ header ∈ view.headers,
    header.is (ascii "Transfer-Encoding") = false
  body : view.bodyString.length = length

/-- The header that `completion` takes the length from: the last of its name. -/
def declaredBy (headers : List MsgHeaderView) : Option MsgHeaderView :=
  (headers.filter fun header => header.is (ascii "Content-Length")).getLast?

/-- What the loop over the headers leaves of a record. -/
theorem foldl_noteHeader (headers : List MsgHeaderView) :
    (headers.foldl MsgView.noteHeader .empty).complete = false ∧
      (headers.foldl MsgView.noteHeader .empty).lengthHeader =
        (declaredBy headers).isSome ∧
      ∀ header, declaredBy headers = some header →
        (headers.foldl MsgView.noteHeader .empty).messageLength =
          sizeT (header.valueDec 0) := by
  -- From the right, since a later header overrides an earlier one.
  induction headers using List.reverseRecOn with
  | nil => simp [declaredBy, MsgCompletion.empty]
  | append_singleton headers header ih =>
      obtain ⟨incomplete, declared, length⟩ := ih
      rw [List.foldl_append, List.foldl_cons, List.foldl_nil, declaredBy,
        List.filter_append]
      by_cases named : header.is (ascii "Content-Length") = true
      · simp [MsgView.noteHeader, named, incomplete]
      · rw [Bool.not_eq_true] at named
        have kept : (headers.filter fun header => header.is (ascii "Content-Length")) ++
            [header].filter (fun header => header.is (ascii "Content-Length")) =
              headers.filter fun header => header.is (ascii "Content-Length") := by
          simp [named]
        rw [kept, ← declaredBy]
        simp only [MsgView.noteHeader, named, Bool.false_eq_true, if_false]
        split_ifs <;> exact ⟨incomplete, declared, length⟩

/-- With a length header, a message is complete when it has as many bytes of body as
the header was read to say. -/
theorem completion_of_declared {view : MsgView} {header : MsgHeaderView}
    (declared : declaredBy view.headers = some header) :
    view.completion.complete = decide (sizeT (header.valueDec 0) ≤ view.bodySize) ∧
      view.completion.lengthHeader = true ∧
      view.completion.messageLength = sizeT (header.valueDec 0) := by
  obtain ⟨incomplete, noted, length⟩ := foldl_noteHeader view.headers
  rw [declared, Option.isSome_some] at noted
  have lengthEq := length header declared
  by_cases enough : sizeT (header.valueDec 0) ≤ view.bodySize
  · simp [MsgView.completion, noted, lengthEq, enough, MsgCompletion.implicit]
  · simp [MsgView.completion, noted, lengthEq, enough, MsgCompletion.implicit, incomplete]

theorem declaredBy_of_only {before after : List MsgHeaderView} {header : MsgHeaderView}
    (named : header.is (ascii "Content-Length") = true)
    (others : ∀ other ∈ before ++ after, other.is (ascii "Content-Length") = false) :
    declaredBy (before ++ header :: after) = some header := by
  rw [List.forall_mem_append] at others
  rw [declaredBy, List.filter_append, List.filter_cons_of_pos (by simpa using named),
    List.filter_eq_nil_iff.mpr (by simpa using others.1),
    List.filter_eq_nil_iff.mpr (by simpa using others.2)]
  rfl

/-- Which header declares the length is a matter of names and values, not of
addresses. -/
theorem declaredBy_congr {left right : List MsgHeaderView}
    (same : left.map MsgHeaderView.toPair = right.map MsgHeaderView.toPair) :
    (declaredBy left).map MsgHeaderView.toPair =
      (declaredBy right).map MsgHeaderView.toPair := by
  have ofPairs : ∀ headers : List MsgHeaderView,
      (declaredBy headers).map MsgHeaderView.toPair =
        ((headers.map MsgHeaderView.toPair).filter fun pair =>
          (MsgHeaderView.mk 0 pair.1 pair.2).is (ascii "Content-Length")).getLast? := by
    intro headers
    rw [List.filter_map, List.getLast?_map]
    rfl
  rw [ofPairs left, ofPairs right, same]

theorem Framed.bodySize_eq {view : MsgView} {requested : MsgType}
    {line eol blank body : Bytes} {lines : List (Bytes × Bytes)}
    (framed : Framed view.msg line eol lines blank body)
    (described : Described line eol lines blank requested view.layout) :
    view.bodySize = body.length := by
  rw [MsgView.bodySize, framed.rawBodySize_eq described, sizeT_natCast]

namespace Measured

variable {requested : MsgType} {msg left right : Bytes} {view early : MsgView}
variable {length : Nat}

section Lines

variable {line eol blank body line' eol' blank' body' : Bytes}
variable {lines : List (Bytes × Bytes)}

theorem length_eq (measured : Measured view length)
    (framed : Framed view.msg line eol lines blank body)
    (described : Described line eol lines blank requested view.layout) :
    length = body.length := by
  rw [← measured.body, framed.bodyString_eq described]

/-- A message with the header lines of a measured one is complete when it has as many
bytes of body. -/
theorem complete_iff (measured : Measured view length) (small : length ≤ maxSize)
    (framed : Framed view.msg line eol lines blank body)
    (described : Described line eol lines blank requested view.layout)
    (framed' : Framed early.msg line' eol' lines blank' body')
    (described' : Described line' eol' lines blank' requested early.layout) :
    early.completion.complete = true ↔ length ≤ body'.length := by
  obtain ⟨before, header, after, split, named, numeral, others⟩ := measured.declared
  have samePairs := (framed.headers_toPair described).trans
    (framed'.headers_toPair described').symm
  have sameDeclared := declaredBy_congr samePairs
  rw [split, declaredBy_of_only named others] at sameDeclared
  obtain ⟨header', declared, pair⟩ := Option.map_eq_some_iff.mp sameDeclared.symm
  have numeral' : header'.value = MsgWriter.digitsText length :=
    (congrArg Prod.snd pair).trans numeral
  rw [(completion_of_declared declared).1, decide_eq_true_eq,
    valueDec_digitsText numeral' small, sizeT_natCast,
    framed'.bodySize_eq described']

end Lines

theorem length_le (measured : Measured view length)
    (accepted : MsgView.parse msg requested = .ok view)
    (small : msg.length ≤ maxSize) : length ≤ maxSize := by
  obtain ⟨rfl, _, _, _, _, body, framed, described⟩ := MsgView.described_of_parse accepted
  have total := framed.length_eq
  rw [measured.length_eq framed described]
  omega

/-- A measured message is complete. -/
theorem complete (measured : Measured view length)
    (accepted : MsgView.parse msg requested = .ok view)
    (small : msg.length ≤ maxSize) : view.completion.complete = true := by
  have fits := measured.length_le accepted small
  obtain ⟨rfl, _, _, _, _, _, framed, described⟩ := MsgView.described_of_parse accepted
  rw [measured.complete_iff fits framed described framed described,
    measured.length_eq framed described]

/-- A prefix that is accepted and complete ends in the empty line of a message
without a body. -/
theorem clipped_of_complete (measured : Measured view length)
    (accepted : MsgView.parse (left ++ right) requested = .ok view)
    (small : (left ++ right).length ≤ maxSize) (proper : right ≠ [])
    (acceptedEarly : MsgView.parse left requested = .ok early)
    (completeEarly : early.completion.complete = true) :
    length = 0 ∧ right = [lf] ∧ left.getLast? = some cr := by
  have fits := measured.length_le accepted small
  obtain ⟨msgEq, _, _, _, _, body, framed, described⟩ :=
    MsgView.described_of_parse accepted
  obtain ⟨rfl, _, _, _, _, body', framed', described'⟩ :=
    MsgView.described_of_parse acceptedEarly
  obtain ⟨rfl, rfl, rfl, ends⟩ := framed.of_beginning rfl framed'
  rw [← msgEq] at framed
  rw [measured.complete_iff fits framed described framed' described',
    measured.length_eq framed described] at completeEarly
  rw [measured.length_eq framed described]
  rcases ends with ⟨rfl, rfl⟩ | ⟨rfl, rfl, rfl, rfl⟩
  · have positive := List.length_pos_of_ne_nil proper
    rw [List.length_append] at completeEarly
    omega
  · have none : body = [] := List.length_eq_zero_iff.mp (Nat.le_zero.mp completeEarly)
    refine ⟨by rw [none]; rfl, by rw [none], ?_⟩
    rw [framed'.startLine.split]
    simp

/-- A message without a body that ends with CR LF is accepted and complete without
its last byte. -/
theorem complete_clipped (measured : Measured view 0)
    (accepted : MsgView.parse (left ++ [lf]) requested = .ok view)
    (small : (left ++ [lf]).length ≤ maxSize) (ends : left.getLast? = some cr) :
    ∃ early, MsgView.parse left requested = .ok early ∧
      early.completion.complete = true := by
  obtain ⟨msgEq, line, eol, lines, blank, body, framed, described⟩ :=
    MsgView.described_of_parse accepted
  obtain ⟨newline, long, fits, admitted⟩ := framed.admitted_of_parse accepted
  have bodyless : body = [] := by
    rw [← msgEq] at framed
    exact List.length_eq_zero_iff.mp (measured.length_eq framed described).symm
  subst bodyless
  have crlf : blank = [cr, lf] := framed.blank_eq_of_clipped ends
  subst crlf
  have cut := framed.without_lf rfl
  have returnedEarly : (parseMsg .reset left requested).thrown = none := by
    rw [cut.parseMsg_returns .reset requested newline long]
    refine ⟨?_, admitted⟩
    simp only [Framed.bodyPos, List.length_cons, List.length_nil] at fits ⊢
    omega
  obtain ⟨early, acceptedEarly⟩ := MsgView.parse_returns.mpr returnedEarly
  obtain ⟨rfl, parsedEarly⟩ := MsgView.parse_eq_ok.mp acceptedEarly
  refine ⟨early, acceptedEarly, ?_⟩
  rw [← msgEq] at framed
  rw [measured.complete_iff (Nat.zero_le _) framed described cut
    (cut.described parsedEarly)]
  exact Nat.zero_le _

end Measured

end Telling.Msg
