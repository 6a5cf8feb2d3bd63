import Telling.Msg.Parseable
import Telling.Msg.Partial

/-!
# Declared lengths

A `Content-Length` header is read by `completion` and written by
`writeHeader_Length`.  Reading skips a plus sign, takes the digits in front and
drops the error code of `from_chars`, so that a value which is no numeral counts as
some number all the same.  Writing leaves blanks and completes them at release: the
length that a released message declares is the length of its body.
-/

namespace Telling.Msg

open Lib

/-! ## Reading -/

/-- A decimal numeral of `value`, optionally preceded by a plus sign. -/
def Numeral (text : Bytes) (value : Nat) : Prop :=
  ∃ digits, (text = digits ∨ text = 43 :: digits) ∧ digits ≠ [] ∧
    (∀ byte ∈ digits, Status.isDigit byte = true) ∧
    MsgHeaderView.decimal digits = value

theorem completion_of_undeclared {view : MsgView}
    (undeclared : declaredBy view.headers = none) :
    view.completion.lengthHeader = false := by
  obtain ⟨_, noted, _⟩ := foldl_noteHeader view.headers
  rw [undeclared, Option.isSome_none] at noted
  simp only [MsgView.completion, noted, Bool.false_and, Bool.false_eq_true, if_false]
  split_ifs
  · rfl
  · exact noted

/-- A numeral is read as its value when that fits. -/
theorem Numeral.valueDec {header : MsgHeaderView} {value : Nat}
    (numeral : Numeral header.value value) (fits : value ≤ maxInt64) :
    header.valueDec 0 = value := by
  obtain ⟨digits, text, nonempty, allDigits, rfl⟩ := numeral
  have run : Digits digits [] := ⟨nonempty, allDigits, by simp⟩
  rw [run.valueDec_eq (by simpa using text), if_pos fits]

/-- A message that is complete by its length header declares a numeral, and has that
many bytes of body. -/
structure Honest (view : MsgView) : Prop where
  numeral : view.completion.complete = true → view.completion.lengthHeader = true →
    ∃ header value, declaredBy view.headers = some header ∧
      Numeral header.value value ∧ view.completion.messageLength = value ∧
      value ≤ view.bodySize
  refused : ∀ header, declaredBy view.headers = some header →
    ¬(∃ value, Numeral header.value value ∧ value ≤ maxInt64) →
    view.completion.complete = false

/-- The text begins with a number, whatever follows it, that fits `int64_t` and is larger
than the size. -/
def BeginsBeyond (size : Nat) (text : Bytes) : Prop :=
  ∃ digits rest, Digits digits rest ∧
    (text = digits ++ rest ∨ text = 43 :: (digits ++ rest)) ∧
    MsgHeaderView.decimal digits ≤ maxInt64 ∧ size < MsgHeaderView.decimal digits

/-- How many values a `size_t` has. -/
def sizeModulus : Nat := 18446744073709551616

/-- The text begins with a negative number that fits `int64_t`, which as a `size_t` is
larger than the size of any object. -/
def BeginsNegative (size : Nat) (text : Bytes) : Prop :=
  ∃ digits rest, Digits digits rest ∧
    (text = 45 :: (digits ++ rest) ∨ text = 43 :: 45 :: (digits ++ rest)) ∧
    0 < MsgHeaderView.decimal digits ∧ MsgHeaderView.decimal digits ≤ maxInt64 + 1 ∧
    size < sizeModulus - MsgHeaderView.decimal digits

/-- The value of the length header is a numeral that fits `int64_t`, or it begins with a
negative number or with one that the body does not reach. -/
def ReadsSoundly (view : MsgView) : Prop :=
  ∀ header, declaredBy view.headers = some header →
    (∃ value, Numeral header.value value ∧ value ≤ maxInt64) ∨
      BeginsBeyond view.bodySize header.value ∨ BeginsNegative view.bodySize header.value

theorem sizeT_neg {value : Nat} (positive : 0 < value)
    (fits : value ≤ maxInt64 + 1) :
    sizeT (-(value : Int)) = sizeModulus - value := by
  have negative : ¬(0 : Int) ≤ -(value : Int) := by omega
  simp only [maxInt64] at fits
  rw [sizeT, if_neg negative, sizeModulus]
  omega

/-- What a length header is read as is out of reach in these two cases only. -/
theorem lt_sizeT_valueDec_iff (size : Nat) (header : MsgHeaderView) :
    size < sizeT (header.valueDec 0) ↔
      BeginsBeyond size header.value ∨ BeginsNegative size header.value := by
  constructor
  · intro beyond
    obtain ⟨body, text, value⟩ : ∃ body, (header.value = body ∨ header.value = 43 :: body) ∧
        header.valueDec 0 = MsgHeaderView.fromChars body 0 := by
      unfold MsgHeaderView.valueDec
      split
      · next rest equal => exact ⟨rest, .inr equal, rfl⟩
      · exact ⟨header.value, .inl rfl, rfl⟩
    rw [value] at beyond
    rcases fromChars_cases body 0 with zero | ⟨digits, rest, run, rfl | rfl⟩
    · rw [zero] at beyond
      exact absurd beyond (Nat.not_lt_zero size)
    · rw [run.fromChars_eq] at beyond
      split_ifs at beyond with fits
      · rw [sizeT_natCast] at beyond
        exact .inl ⟨digits, rest, run, text, fits, beyond⟩
      · exact absurd beyond (Nat.not_lt_zero size)
    · rw [run.fromChars_minus] at beyond
      split_ifs at beyond with fits
      · cases Nat.eq_zero_or_pos (MsgHeaderView.decimal digits) with
        | inl zero =>
            rw [zero] at beyond
            exact absurd beyond (Nat.not_lt_zero size)
        | inr positive =>
            rw [sizeT_neg positive fits] at beyond
            exact .inr ⟨digits, rest, run, text, positive, fits, beyond⟩
      · exact absurd beyond (Nat.not_lt_zero size)
  · rintro (⟨digits, rest, run, text, fits, beyond⟩ |
      ⟨digits, rest, run, text, positive, fits, beyond⟩)
    · rwa [run.valueDec_eq text, if_pos fits, sizeT_natCast]
    · rwa [run.valueDec_minus text, if_pos fits, sizeT_neg positive fits]

/-- Completeness can be trusted exactly when the value of the length header is a fitting
numeral, or one of the malformed values that are refused: those that begin with a negative
number, or with a number that the body does not reach. -/
theorem completion_honest_iff (view : MsgView) : Honest view ↔ ReadsSoundly view := by
  constructor
  · intro honest header declared
    by_cases fitting : ∃ value, Numeral header.value value ∧ value ≤ maxInt64
    · exact .inl fitting
    · have incomplete := honest.refused header declared fitting
      rw [(completion_of_declared declared).1, decide_eq_false_iff_not, Nat.not_le,
        lt_sizeT_valueDec_iff] at incomplete
      exact .inr incomplete
  · intro sound
    constructor
    · intro complete lengthHeader
      cases declared : declaredBy view.headers with
      | none => simp [completion_of_undeclared declared] at lengthHeader
      | some header =>
          obtain ⟨completeEq, _, lengthEq⟩ := completion_of_declared declared
          rw [completeEq, decide_eq_true_eq] at complete
          rcases sound header declared with ⟨value, numeral, fits⟩ | beyond
          · rw [numeral.valueDec fits, sizeT_natCast] at complete lengthEq
            exact ⟨header, value, rfl, numeral, lengthEq, complete⟩
          · exact absurd complete
              (Nat.not_le.mpr ((lt_sizeT_valueDec_iff _ _).mpr beyond))
    · intro header declared unfitting
      rw [(completion_of_declared declared).1, decide_eq_false_iff_not, Nat.not_le,
        lt_sizeT_valueDec_iff]
      exact (sound header declared).resolve_left unfitting

/-- A length that does not fit is read as zero, and the message without any body is
complete. -/
theorem completion_of_overflow :
    (MsgView.parse (ascii "/ Tell/0 200\nContent-Length: 99999999999999999999\n\n")
      .unknown).map (fun view => (view.completion.complete,
        view.completion.lengthHeader, view.completion.messageLength, view.bodySize)) =
      .ok (true, true, 0, 0) := by
  decide +kernel

/-! ## Writing -/

namespace MsgWriter

/-- A start line, headers, a length header and more headers. -/
def draftWithLength (writer : MsgWriter) (startLine : StartLine)
    (before : List (Bytes × Bytes)) (maxLength : UInt64)
    (after : List (Bytes × Bytes)) : Outcome Unit :=
  (writer.start startLine).andThen fun writer _ =>
    (writer.writeHeaders before).andThen fun writer _ =>
      (writer.writeHeaderLength maxLength.toNat).andThen fun writer _ =>
        writer.writeHeaders after

/-- Any number of `writeBody` calls. -/
def writeBodies (writer : MsgWriter) : List Bytes → Outcome Unit
  | [] => .done writer ()
  | data :: chunks =>
      (writer.writeBody data).andThen fun writer _ => writer.writeBodies chunks

/-- The header lines of a draft with a length header. -/
def draftHeaders (before : List (Bytes × Bytes)) (lengthText : Bytes)
    (after : List (Bytes × Bytes)) : List Bytes :=
  before.map headerLine ++ lengthText :: after.map headerLine

theorem joinWith_headerLines (protocol : MsgProtocol) (headers : List (Bytes × Bytes)) :
    joinLines (headerLines protocol headers) =
      joinWith protocol.preferredNewline (headers.map headerLine) := by
  simp [joinWith, headerLines, Function.comp_def]

section Draft

variable {writer drafted : MsgWriter} {startLine : StartLine}
variable {before after : List (Bytes × Bytes)} {maxLength : UInt64}

theorem draftWithLength_done
    (returned : writer.draftWithLength startLine before maxLength after =
      .done drafted ()) :
    startLine.Accepted ∧ (∀ header ∈ before ++ after, HeaderAccepted header) ∧
      drafted = { begun writer.protocol (joinWith writer.protocol.preferredNewline
          (startLine.text writer.protocol :: draftHeaders before
            (lengthLine (numDigits maxLength.toNat)) after)) with
        lengthOffset := UInt16.ofNat (joinWith writer.protocol.preferredNewline
          (startLine.text writer.protocol :: before.map headerLine) ++ lengthName).length
        lengthSize := UInt16.ofNat (numDigits maxLength.toNat) } := by
  obtain ⟨started, _, startDone, returned⟩ := Outcome.andThen_eq_done.mp returned
  obtain ⟨_, lineAccepted, rfl⟩ := start_done startDone
  obtain ⟨headed, _, beforeDone, returned⟩ := Outcome.andThen_eq_done.mp returned
  obtain ⟨beforeAccepted, rfl⟩ := writeHeaders_done rfl beforeDone
  obtain ⟨measured, _, lengthDone, afterDone⟩ := Outcome.andThen_eq_done.mp returned
  rw [writeHeaderLength_eq rfl rfl, Outcome.done_eq_done] at lengthDone
  obtain ⟨rfl, _⟩ := lengthDone
  obtain ⟨afterAccepted, rfl⟩ := writeHeaders_done rfl afterDone
  refine ⟨lineAccepted, ?_, ?_⟩
  · rw [List.forall_mem_append]
    exact ⟨beforeAccepted, afterAccepted⟩
  · simp [begun, MsgWriter.new, joinWith_headerLines, draftHeaders]

/-- The lines of accepted headers around a line that could be one. -/
theorem draftHeaders_plain {lengthText : Bytes}
    (accepted : ∀ header ∈ before ++ after, HeaderAccepted header)
    (lengthPlain : lengthText ≠ [] ∧ Plain lengthText) :
    ∀ text ∈ draftHeaders before lengthText after, text ≠ [] ∧ Plain text := by
  intro text member
  rw [draftHeaders, List.mem_append, List.mem_cons, List.mem_map, List.mem_map] at member
  rcases member with ⟨header, earlier, rfl⟩ | rfl | ⟨header, later, rfl⟩
  · exact headerLine_plain (accepted header (by simp [earlier]))
  · exact lengthPlain
  · exact headerLine_plain (accepted header (by simp [later]))

/-- The draft is a list of lines with the blanks of the length header among them. -/
theorem drafted_of_draftWithLength
    (returned : writer.draftWithLength startLine before maxLength after =
      .done drafted ()) :
    Drafted drafted (drafted.msg.getD []) (startLine.text writer.protocol)
      (draftHeaders before (lengthLine (numDigits maxLength.toNat)) after) := by
  obtain ⟨lineAccepted, headersAccepted, rfl⟩ := draftWithLength_done returned
  refine ⟨rfl, StartLine.text_plain writer.protocol lineAccepted, ?_, fun _ => ?_⟩
  · exact draftHeaders_plain headersAccepted (lengthLine_plain _)
  · refine ⟨before.map headerLine, _, after.map headerLine, rfl, numDigits_pos _, ?_, rfl,
      rfl⟩
    exact numDigits_le (maxLength.toNat_lt.trans (by decide))

end Draft

/-! ## The body -/

@[simp] theorem extend_nil (writer : MsgWriter) : writer.extend [] = writer := by
  cases writer
  simp [extend]

@[simp] theorem extend_extend (writer : MsgWriter) (first second : Bytes) :
    (writer.extend first).extend second = writer.extend (first ++ second) := by
  simp [extend, Function.comp_def]

/-- Once the headers of a message close, every body can be written, and what is released
is the closed message with that body. -/
theorem writeBodies_of_close (chunks : List Bytes) :
    {writer : MsgWriter} → writer.msg.isSome →
    writer.autoCloseHeaders.result = .ok () →
    ∃ full, writer.writeBodies chunks = .done full () ∧
      full.release = (writer.autoCloseHeaders.writer.extend chunks.flatten).release := by
  induction chunks with
  | nil =>
      intro writer held returned
      refine ⟨writer, rfl, ?_⟩
      rw [List.flatten_nil, extend_nil, release_of_close returned]
  | cons data chunks ih =>
      intro writer held returned
      have kept := autoCloseHeaders_isSome held
      have stays : (writer.autoCloseHeaders.writer.extend data).autoCloseHeaders =
          .done (writer.autoCloseHeaders.writer.extend data) () :=
        autoCloseHeaders_closed (pBody_of_close returned)
      obtain ⟨full, written, released⟩ :=
        @ih (writer.autoCloseHeaders.writer.extend data) (by simpa [extend] using kept)
          (by rw [stays]; rfl)
      refine ⟨full, ?_, ?_⟩
      · rw [writeBodies, writeBody_of_close returned, append, if_pos kept]
        exact written
      · rw [released, stays]
        simp [Outcome.done]

theorem Closed.extend {writer : MsgWriter} {bytes line : Bytes} {headers : List Bytes}
    (closed : Closed writer bytes line headers []) (body : Bytes) :
    Closed (writer.extend body) (bytes ++ body) line headers body where
  text := by rw [closed.text, withNewline_append]; rfl
  plain := closed.plain
  headerLines := closed.headerLines
  pBody := closed.pBody

/-! ## Reading what was completed -/

/-- The blanks that are left behind a number are not part of the value. -/
theorem trimmed_digitsText (value width : Nat) :
    Trimmed isBlank (digitsText value ++ List.replicate width sp) (digitsText value) := by
  have kept : ∀ byte ∈ digitsText value, isBlank byte = false := by
    intro byte member
    have digit := isDigit_digitsText value byte member
    rw [isBlank, Bool.or_eq_false_iff, decide_eq_false_iff_not, decide_eq_false_iff_not]
    constructor <;>
      · rintro rfl
        exact absurd digit (by decide)
  refine ⟨⟨[], List.replicate width sp, rfl, by simp, fun byte member => ?_⟩,
    fun byte first => kept byte (List.mem_of_mem_head? first),
    fun byte last => kept byte (List.mem_of_getLast? last)⟩
  rw [List.eq_of_mem_replicate member]
  decide

theorem headerOf_filledLine (width value : Nat) :
    headerOf (filledLine width value) = (ascii "Content-Length", digitsText value) := by
  have name : lengthName = ascii "Content-Length" ++ [colon] := by decide +kernel
  have namePlain : Plain (ascii "Content-Length") := by decide +kernel
  have noColon : colon ∉ ascii "Content-Length" := by decide +kernel
  have split : filledLine width value = ascii "Content-Length" ++
      colon :: (digitsText value ++ List.replicate (width - numDigits value) sp) := by
    simp [filledLine, name]
  rw [split, headerOf_colon namePlain noColon, (trimmed_digitsText value _).trim_text]

/-- A message declares the length of its body in one header, and is complete by it. -/
structure LengthExact (view : MsgView) (length : Nat) : Prop where
  declared : ∃ before header after, view.headers = before ++ header :: after ∧
    header.is (ascii "Content-Length") ∧ header.valueDec 0 = (length : Int) ∧
    ∀ other ∈ before ++ after, other.is (ascii "Content-Length") = false
  complete : view.completion.complete = true
  messageLength : view.completion.messageLength = length

/-- The name of a header that is not the length header, in any case. -/
def OtherName (header : Bytes × Bytes) : Prop :=
  header.1.map MsgHeaderView.toLower ≠
    (ascii "Content-Length").map MsgHeaderView.toLower

instance (header : Bytes × Bytes) : Decidable (OtherName header) :=
  inferInstanceAs (Decidable (_ ≠ _))

theorem is_eq_false_of_otherName {headers : List (Bytes × Bytes)}
    (accepted : ∀ header ∈ headers, HeaderAccepted header)
    (otherNames : ∀ header ∈ headers, OtherName header) {read : List MsgHeaderView}
    (same : read.map MsgHeaderView.toPair =
      headers.map fun header => headerOf (headerLine header)) :
    ∀ header ∈ read, header.is (ascii "Content-Length") = false := by
  intro header member
  have pairMember : header.toPair ∈ headers.map fun header =>
      headerOf (headerLine header) := by
    rw [← same]
    exact List.mem_map_of_mem member
  obtain ⟨given, givenMember, equal⟩ := List.mem_map.mp pairMember
  obtain ⟨namePlain, noColon, _⟩ := accepted given givenMember
  rw [headerLine, headerOf_colon namePlain noColon] at equal
  have sameName : given.1 = header.name := congrArg Prod.fst equal
  have other := otherNames given givenMember
  rw [OtherName, sameName] at other
  simpa [MsgHeaderView.is] using other

section Completed

variable {eol line body : Bytes} {before after : List (Bytes × Bytes)} {width : Nat}

/-- However a completed message is parsed, it declares the length of its body. -/
theorem lengthExact_of_completed (newline : eol = [lf] ∨ eol = [cr, lf])
    (plain : Plain line) (accepted : ∀ header ∈ before ++ after, HeaderAccepted header)
    (otherNames : ∀ header ∈ before ++ after, OtherName header)
    (small : body.length ≤ maxSize) {requested : MsgType} {view : MsgView}
    (parsed : MsgView.parse (withNewline eol line (draftHeaders before
      (filledLine width body.length) after) body) requested = .ok view) :
    LengthExact view body.length ∧ view.bodyString = body := by
  have lines := draftHeaders_plain accepted (filledLine_plain width body.length)
  have framed := framed_withNewline newline plain lines body
  obtain ⟨sameMsg, parsed⟩ := MsgView.parse_eq_ok.mp parsed
  rw [← sameMsg] at framed parsed
  have described := framed.described parsed
  have pairs := framed.headers_toPair described
  rw [List.map_map, Function.comp_def, draftHeaders, List.map_append, List.map_cons,
    List.map_map, List.map_map, headerOf_filledLine] at pairs
  rw [List.forall_mem_append] at accepted otherNames
  obtain ⟨read, later, headers, readBefore, readLater⟩ := List.map_eq_append_iff.mp pairs
  obtain ⟨header, readAfter, rfl, pair, readAfterEq⟩ := List.map_eq_cons_iff.mp readLater
  have named : header.is (ascii "Content-Length") = true := by
    have name : header.name = ascii "Content-Length" := congrArg Prod.fst pair
    simp [MsgHeaderView.is, name]
  have numeral : header.value = digitsText body.length := congrArg Prod.snd pair
  have value := valueDec_digitsText numeral small
  have notBefore := is_eq_false_of_otherName accepted.1 otherNames.1 readBefore
  have notAfter := is_eq_false_of_otherName accepted.2 otherNames.2 readAfterEq
  have others := List.forall_mem_append.mpr ⟨notBefore, notAfter⟩
  have declared : declaredBy view.headers = some header := by
    rw [headers, declaredBy_of_only named others]
  obtain ⟨complete, _, messageLength⟩ := completion_of_declared declared
  rw [value, sizeT_natCast] at complete messageLength
  refine ⟨⟨⟨read, header, readAfter, headers, named, value, others⟩, ?_, messageLength⟩,
    framed.bodyString_eq described⟩
  rw [complete, framed.bodySize_eq described, decide_eq_true_eq]

end Completed

/-! ## Releasing -/

section Releasing

variable {writer drafted : MsgWriter} {startLine : StartLine}
variable {before after : List (Bytes × Bytes)} {maxLength : UInt64}

/-- A draft whose headers close is closed as it was written, its start line is
admitted, and the length header is still at its offset. -/
theorem closed_of_draftWithLength
    (returned : writer.draftWithLength startLine before maxLength after =
      .done drafted ())
    (closes : drafted.autoCloseHeaders.result = .ok ()) :
    ∃ bytes, drafted.autoCloseHeaders.writer.msg = some bytes ∧
      drafted.autoCloseHeaders.writer.protocol = writer.protocol ∧
      Closed drafted.autoCloseHeaders.writer bytes (startLine.text writer.protocol)
        (draftHeaders before (lengthLine (numDigits maxLength.toNat)) after) [] ∧
      LineAdmitted (startLine.text writer.protocol) ∧
      drafted.autoCloseHeaders.writer.lengthSize.toNat = numDigits maxLength.toNat ∧
      drafted.autoCloseHeaders.writer.lengthOffset = UInt16.ofNat
        (joinWith writer.protocol.preferredNewline
          (startLine.text writer.protocol :: before.map headerLine) ++
            lengthName).length := by
  have draft := drafted_of_draftWithLength returned
  obtain ⟨_, _, draftedEq⟩ := draftWithLength_done returned
  have openHead : drafted.layout.pBody = 0 := by rw [draftedEq]; rfl
  have sameProtocol : drafted.protocol = writer.protocol := by rw [draftedEq]; rfl
  have held : drafted.msg = some (drafted.msg.getD []) := by rw [draftedEq]; rfl
  have fits := draft.fits_of_close held openHead closes
  obtain ⟨closed, _, admitted⟩ := draft.close held openHead fits
  have closedEq := autoCloseHeaders_eq held openHead
  have width : numDigits maxLength.toNat ≤ 20 :=
    numDigits_le (maxLength.toNat_lt.trans (by decide))
  refine ⟨_, ?_, ?_, closed, admitted.mp closes, ?_, ?_⟩
  · rw [closedEq]
  · rw [closedEq, sameProtocol]
  · rw [closedEq, draftedEq]
    exact UInt16.toNat_ofNat_of_lt' (by simp only [UInt16.size]; omega)
  · rw [closedEq, draftedEq]

/-- The message that is released for a draft and a body. -/
def completedText (protocol : MsgProtocol) (startLine : StartLine)
    (before : List (Bytes × Bytes)) (maxLength : UInt64)
    (after : List (Bytes × Bytes)) (body : Bytes) : Bytes :=
  withNewline protocol.preferredNewline (startLine.text protocol)
    (draftHeaders before (filledLine (numDigits maxLength.toNat) body.length) after) body

/-- `release` writes the length over the blanks, or throws when they are too few. -/
theorem release_of_draftWithLength
    (returned : writer.draftWithLength startLine before maxLength after =
      .done drafted ())
    (closes : drafted.autoCloseHeaders.result = .ok ()) (body : Bytes) :
    (drafted.autoCloseHeaders.writer.extend body).release.result =
      if numDigits body.length ≤ numDigits maxLength.toNat then
        .ok (some (completedText writer.protocol startLine before maxLength after body))
      else .error (.nng .nospc (ascii "Content-Length header completion")) := by
  obtain ⟨bytes, held, sameProtocol, closed, _, size, offset⟩ :=
    closed_of_draftWithLength returned closes
  have closedBody := closed.extend body
  have heldBody : (drafted.autoCloseHeaders.writer.extend body).msg =
      some (bytes ++ body) := by
    rw [MsgWriter.extend, held]
    rfl
  have sized : (drafted.autoCloseHeaders.writer.extend body).lengthSize ≠ 0 := by
    intro zero
    have positive := numDigits_pos maxLength.toNat
    have zeroSize : drafted.autoCloseHeaders.writer.lengthSize = 0 := zero
    rw [zeroSize] at size
    exact absurd size (by simp; omega)
  have sizeBody : (drafted.autoCloseHeaders.writer.extend body).lengthSize.toNat =
      numDigits maxLength.toNat := size
  rw [release_closed heldBody closedBody, if_neg sized, sizeBody]
  by_cases fits : numDigits body.length ≤ numDigits maxLength.toNat
  · rw [if_neg (Nat.not_lt.mpr fits), if_pos fits]
    have bodyProtocol : (drafted.autoCloseHeaders.writer.extend body).protocol =
        writer.protocol := sameProtocol
    have position := HeadSlot.offset closedBody rfl (by rw [bodyProtocol]; exact offset)
    rw [position, closedBody.text, withNewline_eq, bodyProtocol, draftHeaders,
      ← List.cons_append, putDigits_lengthLine body.length fits]
    simp [Outcome.done, completedText, withNewline_eq, draftHeaders]
  · rw [if_pos (Nat.not_le.mp fits), if_neg fits]
    rfl

/-- The length header is exact: a body whose length has at most as many digits as
were reserved is released with its length in the one length header and everything
else as it was written, and a longer one is refused. -/
theorem deferredLength_exact
    (returned : writer.draftWithLength startLine before maxLength after =
      .done drafted ())
    (closes : drafted.autoCloseHeaders.result = .ok ())
    (otherNames : ∀ header ∈ before ++ after, OtherName header)
    (chunks : List Bytes) (small : chunks.flatten.length ≤ maxSize) :
    ∃ full, drafted.writeBodies chunks = .done full () ∧
      if (Nat.toDigits 10 chunks.flatten.length).length ≤
          (Nat.toDigits 10 maxLength.toNat).length then
        ∃ message, full.release.result = .ok (some message) ∧
          message = completedText writer.protocol startLine before maxLength after
            chunks.flatten ∧
          (∃ view, MsgView.parse message .unknown = .ok view) ∧
          ∀ requested view, MsgView.parse message requested = .ok view →
            LengthExact view chunks.flatten.length ∧ view.bodyString = chunks.flatten
      else full.release.result =
        .error (.nng .nospc (ascii "Content-Length header completion")) := by
  have held : drafted.msg.isSome := by
    rw [(draftWithLength_done returned).2.2]
    rfl
  obtain ⟨full, written, released⟩ := writeBodies_of_close chunks held closes
  have outcome := release_of_draftWithLength returned closes chunks.flatten
  rw [← released] at outcome
  refine ⟨full, written, ?_⟩
  rw [← numDigits_eq, ← numDigits_eq]
  by_cases fits : numDigits chunks.flatten.length ≤ numDigits maxLength.toNat
  · rw [if_pos fits] at outcome ⊢
    obtain ⟨lineAccepted, accepted, _⟩ := draftWithLength_done returned
    obtain ⟨bytes, _, sameProtocol, closed, admitted, _⟩ :=
      closed_of_draftWithLength returned closes
    have newline := writer.protocol.preferredNewline_cases
    have plain := StartLine.text_plain writer.protocol lineAccepted
    refine ⟨_, outcome, rfl, ?_, fun requested view parsed => ?_⟩
    · refine (withNewline_accepted_iff newline plain
        (draftHeaders_plain accepted (filledLine_plain _ _)) ?_ _).mpr admitted
      have headFits := closed.fits
      rw [sameProtocol, draftHeaders, ← length_withNewline_filled fits] at headFits
      exact headFits
    · exact lengthExact_of_completed newline plain accepted otherNames small parsed
  · rw [if_neg fits] at outcome ⊢
    exact outcome

/-- Two digits are reserved and three bytes are written, in two pieces. -/
theorem deferredLength_exact_two_digits :
    ∃ drafted full message,
      (MsgWriter.new .http11).draftWithLength (.request (ascii "/") .post)
        [(ascii "Host", ascii "a")] 99 [] = .done drafted () ∧
      drafted.writeBodies [ascii "x", ascii "yz"] = .done full () ∧
      full.release.result = .ok (some message) ∧
      message = completedText .http11 (.request (ascii "/") .post)
        [(ascii "Host", ascii "a")] 99 [] (ascii "xyz") := by
  have written : (MsgWriter.new .http11).draftWithLength (.request (ascii "/") .post)
      [(ascii "Host", ascii "a")] 99 [] = .done
        ((MsgWriter.new .http11).draftWithLength (.request (ascii "/") .post)
          [(ascii "Host", ascii "a")] 99 []).writer () := by
    decide +kernel
  obtain ⟨full, bodies, outcome⟩ := deferredLength_exact written (by decide +kernel)
    (by decide +kernel) [ascii "x", ascii "yz"] (by decide +kernel)
  rw [if_pos (by decide +kernel)] at outcome
  obtain ⟨message, released, exact, _⟩ := outcome
  exact ⟨_, full, message, written, bodies, released, exact⟩

end Releasing

end MsgWriter

end Telling.Msg
