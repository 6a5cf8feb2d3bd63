import Telling.Lib.Machine
import Telling.Msg.HeaderClose
import Telling.Msg.LengthSlot
import Telling.Msg.Newlines

/-!
# Sessions with a writer

A session is any sequence of calls on one writer, in which calls that throw are
caught and the sequence goes on.  Most of the writer's refusals are not of this kind:
they end the process, and the session with it.  The module describes the shapes that
the text of a message can have during a session, and what closing the headers does to
them.
-/

namespace Telling.Msg

open Lib

namespace Outcome

variable {α β : Type}

/-- Change the value that is returned. -/
def map (change : α → β) (outcome : Outcome α) : Outcome β :=
  ⟨outcome.writer, outcome.result.map change⟩

@[simp] theorem map_done {change : α → β} {writer : MsgWriter} {value : α} :
    (Outcome.done writer value).map change = .done writer (change value) := rfl

@[simp] theorem map_throw {change : α → β} {writer : MsgWriter}
    {error : WriterError} :
    (Outcome.throw writer error : Outcome α).map change = .throw writer error := rfl

@[simp] theorem map_writer {change : α → β} {outcome : Outcome α} :
    (outcome.map change).writer = outcome.writer := rfl

@[simp] theorem map_eq_error {change : α → β} {outcome : Outcome α}
    {error : WriterError} :
    (outcome.map change).result = .error error ↔ outcome.result = .error error := by
  obtain ⟨writer, result⟩ := outcome
  cases result with
  | ok value => simp [map, Except.map]
  | error other => simp [map, Except.map]

end Outcome

namespace MsgWriter

/-! ## Calls -/

/-- A call of a public operation. -/
inductive Call where
  | start (startLine : StartLine)
  | header (name value : Bytes)
  | allow (methods : Methods)
  | length (maxLength : UInt64)
  | body (data : Bytes)
  | reserve (capac : UInt64)
  | release
  deriving DecidableEq, Repr

/-- The calls that write a header. -/
def Call.writesHeader : Call → Bool
  | .header _ _ | .allow _ | .length _ => true
  | _ => false

/-- The writer after a call, and its result.  Only `release` returns a value: the
handle of the message, which may be null. -/
def perform (writer : MsgWriter) : Call → Outcome (Option Bytes)
  | .start startLine => (writer.start startLine).map fun _ => none
  | .header name value => (writer.writeHeader name value).map fun _ => none
  | .allow methods => (writer.writeHeaderAllow methods).map fun _ => none
  | .length maxLength => (writer.writeHeaderLength maxLength.toNat).map fun _ => none
  | .body data => (writer.writeBody data).map fun _ => none
  | .reserve capac => (writer.reserveBodyBytes capac.toNat).map fun _ => none
  | .release => writer.release

/-- The results of a sequence of calls, up to the end of the process. -/
def responses : MsgWriter → List Call → List (Except WriterError (Option Bytes))
  | _, [] => []
  | writer, call :: calls =>
      (writer.perform call).result ::
        if (writer.perform call).result = .error .terminate then []
        else responses (writer.perform call).writer calls

/-! ## Sessions -/

/-- A message that was released, the position of its body, and the bytes that
`writeBody` was given for it. -/
structure Release where
  message : Bytes
  pBody : UInt16
  written : Bytes
  deriving DecidableEq, Repr

/-- A writer with a record of what was written to the body of the current message,
and of the messages it released. -/
structure Session where
  writer : MsgWriter
  written : Bytes
  released : List Release
  deriving DecidableEq, Repr

namespace Session

def new (protocol : MsgProtocol) : Session := ⟨.new protocol, [], []⟩

def writtenAfter (session : Session) :
    Call → Except WriterError (Option Bytes) → Bytes
  | .start _, _ => if session.writer.msg.isNone then [] else session.written
  | .body data, .ok _ => session.written ++ data
  | .release, .ok _ => []
  | _, _ => session.written

def releasedAfter (session : Session) (writer : MsgWriter) :
    Call → Except WriterError (Option Bytes) → List Release
  | .release, .ok (some message) =>
      session.released ++ [⟨message, writer.layout.pBody, session.written⟩]
  | _, _ => session.released

/-- One call.  There is no next state when the process ended. -/
def step (session : Session) (call : Call) : Option Session :=
  if (session.writer.perform call).result = .error .terminate then none
  else some {
    writer := (session.writer.perform call).writer
    written := session.writtenAfter call (session.writer.perform call).result
    released := session.releasedAfter (session.writer.perform call).writer call
      (session.writer.perform call).result }

end Session

/-! ## Shapes of a message -/

/-- The blanks of a length header are one of the header lines. -/
def HeadSlot (writer : MsgWriter) (line : Bytes) (headers : List Bytes) : Prop :=
  ∃ before width after, headers = before ++ lengthLine width :: after ∧
    1 ≤ width ∧ width ≤ 20 ∧ writer.lengthSize = UInt16.ofNat width ∧
    writer.lengthOffset = UInt16.ofNat
      (joinWith writer.protocol.preferredNewline (line :: before) ++ lengthName).length

/-- The text of a message whose headers are open: a start line and headers. -/
structure Drafted (writer : MsgWriter) (bytes line : Bytes) (headers : List Bytes) :
    Prop where
  text : bytes = joinWith writer.protocol.preferredNewline (line :: headers)
  plain : Plain line
  headerLines : ∀ header ∈ headers, header ≠ [] ∧ Plain header
  slot : writer.lengthSize ≠ 0 → HeadSlot writer line headers

/-- A text whose headers do not fit into 64 KiB: no close of it will succeed. -/
def Overfull (eol bytes : Bytes) : Prop :=
  ∃ line headers body, bytes = withNewline eol line headers body ∧ Plain line ∧
    (∀ header ∈ headers, header ≠ [] ∧ Plain header) ∧
    65535 < (withNewline eol line headers []).length

/-- The texts that a message with open headers can have, when its start line has the
property `beginning`. -/
def Opened (beginning : Bytes → Prop) (writer : MsgWriter) (bytes : Bytes) : Prop :=
  (∃ line headers, Drafted writer bytes line headers ∧ beginning line) ∨
    Overfull writer.protocol.preferredNewline bytes

/-- The text of a message whose headers are closed. -/
structure Closed (writer : MsgWriter) (bytes line : Bytes) (headers : List Bytes)
    (body : Bytes) : Prop where
  text : bytes = withNewline writer.protocol.preferredNewline line headers body
  plain : Plain line
  headerLines : ∀ header ∈ headers, header ≠ [] ∧ Plain header
  pBody : writer.layout.pBody.toNat =
    (withNewline writer.protocol.preferredNewline line headers []).length

theorem withNewline_append (eol line : Bytes) (headers : List Bytes)
    (body more : Bytes) :
    withNewline eol line headers body ++ more =
      withNewline eol line headers (body ++ more) := by
  simp [withNewline]

theorem Overfull.append {eol bytes : Bytes} (overfull : Overfull eol bytes)
    (more : Bytes) : Overfull eol (bytes ++ more) := by
  obtain ⟨line, headers, body, rfl, rest⟩ := overfull
  exact ⟨line, headers, body ++ more, withNewline_append .., rest⟩

theorem Overfull.length_gt {eol bytes : Bytes} (overfull : Overfull eol bytes) :
    65535 < bytes.length := by
  obtain ⟨line, headers, body, rfl, _, _, tooBig⟩ := overfull
  simp only [withNewline, List.length_append, List.length_nil] at tooBig ⊢
  omega

/-- One more header.  `writer` and `next` may differ in what a line does not
touch. -/
theorem Drafted.line {writer next : MsgWriter} {bytes line text : Bytes}
    {headers : List Bytes} (drafted : Drafted writer bytes line headers)
    (sameProtocol : next.protocol = writer.protocol) (header : text ≠ [] ∧ Plain text)
    (slot : next.lengthSize ≠ 0 → HeadSlot next line (headers ++ [text])) :
    Drafted next (bytes ++ (text ++ writer.protocol.preferredNewline)) line
      (headers ++ [text]) where
  text := by simp [drafted.text, sameProtocol]
  plain := drafted.plain
  headerLines := by
    intro other member
    rcases List.mem_append.mp member with earlier | last
    · exact drafted.headerLines other earlier
    · rwa [List.mem_singleton.mp last]
  slot := slot

theorem HeadSlot.line {writer : MsgWriter} {line : Bytes} {headers : List Bytes}
    (slot : HeadSlot writer line headers) (text : Bytes) :
    HeadSlot writer line (headers ++ [text]) := by
  obtain ⟨before, width, after, rfl, rest⟩ := slot
  exact ⟨before, width, after ++ [text], by simp, rest⟩

/-! ## Closing the headers -/

theorem autoCloseHeaders_eq {writer : MsgWriter} {bytes : Bytes}
    (held : writer.msg = some bytes) (openHead : writer.layout.pBody = 0) :
    writer.autoCloseHeaders.writer = { writer with
      msg := some (bytes ++ writer.protocol.preferredNewline)
      layout := (parseMsg writer.layout
        (bytes ++ writer.protocol.preferredNewline) .unknown).layout } := by
  simp only [autoCloseHeaders, openHead, if_true, held]
  cases (parseMsg writer.layout (bytes ++ writer.protocol.preferredNewline)
    .unknown).thrown <;> rfl

/-- A close that fails throws an exception of the parser. -/
theorem autoCloseHeaders_thrown {writer : MsgWriter} {bytes : Bytes}
    (held : writer.msg = some bytes) (openHead : writer.layout.pBody = 0)
    (failed : writer.autoCloseHeaders.result ≠ .ok ()) :
    ∃ exception, writer.autoCloseHeaders.result = .error (.msg exception) := by
  cases thrown : (parseMsg writer.layout (bytes ++ writer.protocol.preferredNewline)
      .unknown).thrown with
  | none => exact absurd ((autoCloseHeaders_returns held openHead).mpr thrown) failed
  | some exception =>
      exact ⟨exception, by simp [autoCloseHeaders, openHead, held, thrown, Outcome.throw]⟩

/-- What closing the headers leaves behind: either they do not fit, and the headers are
still open; or the position of the body is stored, and the close succeeded exactly if
the start line was admitted. -/
inductive AfterClose (beginning : Bytes → Prop) (writer : MsgWriter) (bytes : Bytes) :
    Prop where
  | overfull :
      writer.autoCloseHeaders.writer.layout.pBody = 0 →
      writer.autoCloseHeaders.result ≠ .ok () →
      Overfull writer.protocol.preferredNewline
        (bytes ++ writer.protocol.preferredNewline) → AfterClose beginning writer bytes
  | closed {line : Bytes} {headers : List Bytes} :
      Closed writer.autoCloseHeaders.writer
        (bytes ++ writer.protocol.preferredNewline) line headers [] →
      (writer.autoCloseHeaders.writer.lengthSize ≠ 0 →
        HeadSlot writer.autoCloseHeaders.writer line headers) →
      beginning line →
      (writer.autoCloseHeaders.result = .ok () ↔ LineAdmitted line) →
      AfterClose beginning writer bytes

theorem afterClose_overfull {beginning : Bytes → Prop} {writer : MsgWriter}
    {bytes : Bytes} (held : writer.msg = some bytes) (openHead : writer.layout.pBody = 0)
    (overfull : Overfull writer.protocol.preferredNewline
      (bytes ++ writer.protocol.preferredNewline)) :
    AfterClose beginning writer bytes := by
  have written := autoCloseHeaders_eq held openHead
  have returns := autoCloseHeaders_returns held openHead
  have stays := overfull
  obtain ⟨line, headers, body, textEq, plain, headerLines, tooBig⟩ := overfull
  have framed := framed_withNewline writer.protocol.preferredNewline_cases plain
    headerLines body
  obtain ⟨thrown, unset⟩ := framed.parseMsg_tooBig writer.layout .unknown
    (by rwa [bodyPos_withNewline])
  rw [← textEq] at thrown unset
  exact .overfull (by rw [written]; exact unset) (fun done => thrown (returns.mp done))
    stays

section Draft

variable {writer : MsgWriter} {bytes line : Bytes} {headers : List Bytes}

theorem Drafted.closedText (drafted : Drafted writer bytes line headers) :
    bytes ++ writer.protocol.preferredNewline =
      withNewline writer.protocol.preferredNewline line headers [] := by
  rw [drafted.text]
  simp [withNewline]

/-- Closing a draft that fits stores the position of the body, and succeeds exactly
if the first line is admitted as a start line. -/
theorem Drafted.close (drafted : Drafted writer bytes line headers)
    (held : writer.msg = some bytes) (openHead : writer.layout.pBody = 0)
    (fits : (withNewline writer.protocol.preferredNewline line headers []).length ≤
      65535) :
    Closed writer.autoCloseHeaders.writer (bytes ++ writer.protocol.preferredNewline)
        line headers [] ∧
      (writer.autoCloseHeaders.writer.lengthSize ≠ 0 →
        HeadSlot writer.autoCloseHeaders.writer line headers) ∧
      (writer.autoCloseHeaders.result = .ok () ↔ LineAdmitted line) := by
  have newline := writer.protocol.preferredNewline_cases
  have written := autoCloseHeaders_eq held openHead
  have framed := framed_withNewline newline drafted.plain drafted.headerLines []
  rw [← bodyPos_withNewline] at fits
  refine ⟨⟨?_, drafted.plain, drafted.headerLines, ?_⟩, ?_, ?_⟩
  · rw [drafted.closedText, written]
  · rw [written, drafted.closedText, framed.parseMsg_pBody _ _ fits,
      bodyPos_withNewline]
  · intro sized
    rw [written] at sized ⊢
    exact drafted.slot sized
  · rw [autoCloseHeaders_returns held openHead, drafted.closedText,
      framed.parseMsg_unknown_returns _ newline]
    simp [fits]

/-- Headers that close without an exception fit. -/
theorem Drafted.fits_of_close (drafted : Drafted writer bytes line headers)
    (held : writer.msg = some bytes) (openHead : writer.layout.pBody = 0)
    (closes : writer.autoCloseHeaders.result = .ok ()) :
    (withNewline writer.protocol.preferredNewline line headers []).length ≤ 65535 := by
  have parsed := (autoCloseHeaders_returns held openHead).mp closes
  have framed := framed_withNewline writer.protocol.preferredNewline_cases
    drafted.plain drafted.headerLines []
  rw [drafted.closedText] at parsed
  rw [← bodyPos_withNewline]
  exact framed.fits parsed

end Draft

theorem afterClose {beginning : Bytes → Prop} {writer : MsgWriter} {bytes : Bytes}
    (held : writer.msg = some bytes) (openHead : writer.layout.pBody = 0)
    (opened : Opened beginning writer bytes) : AfterClose beginning writer bytes := by
  rcases opened with ⟨line, headers, drafted, begins⟩ | overfull
  · by_cases fits : (withNewline writer.protocol.preferredNewline line headers
        []).length ≤ 65535
    · obtain ⟨closed, slot, admitted⟩ := drafted.close held openHead fits
      exact .closed closed slot begins admitted
    · exact afterClose_overfull held openHead ⟨line, headers, [], drafted.closedText,
        drafted.plain, drafted.headerLines, Nat.not_le.mp fits⟩
  · exact afterClose_overfull held openHead
      (overfull.append writer.protocol.preferredNewline)

theorem autoCloseHeaders_closed {writer : MsgWriter}
    (closed : writer.layout.pBody ≠ 0) :
    writer.autoCloseHeaders = .done writer () := by
  simp [autoCloseHeaders, closed]

/-- Whatever state the writer is in, a close that succeeds has stored the position
of the body. -/
theorem pBody_of_close {writer : MsgWriter}
    (returned : writer.autoCloseHeaders.result = .ok ()) :
    writer.autoCloseHeaders.writer.layout.pBody ≠ 0 := by
  by_cases openHead : writer.layout.pBody = 0
  · cases held : writer.msg with
    | none =>
        simp [autoCloseHeaders, openHead, held, Outcome.throwMsg, Outcome.throw]
          at returned
    | some bytes =>
        have parsed := (autoCloseHeaders_returns held openHead).mp returned
        obtain ⟨line, eol, lines, blank, body, framed, fits⟩ := framed_of_parseMsg parsed
        have position := framed.parseMsg_pBody writer.layout .unknown fits
        have blankPos := List.length_pos_of_ne_nil framed.block.blank_ne_nil
        rw [autoCloseHeaders_eq held openHead]
        intro unset
        rw [unset, Framed.bodyPos, UInt16.toNat_zero] at position
        omega
  · rwa [autoCloseHeaders_closed openHead]

theorem autoCloseHeaders_done {writer : MsgWriter}
    (returned : writer.autoCloseHeaders.result = .ok ()) :
    writer.autoCloseHeaders = .done writer.autoCloseHeaders.writer () := by
  rw [Outcome.done, ← returned]

/-- `writeBody` appends to the closed message. -/
theorem writeBody_of_close {writer : MsgWriter}
    (returned : writer.autoCloseHeaders.result = .ok ()) (data : Bytes) :
    writer.writeBody data = writer.autoCloseHeaders.writer.append data := by
  unfold writeBody
  rw [autoCloseHeaders_done returned]
  rfl

/-- `release` closes the headers first, if they are open. -/
theorem release_of_close {writer : MsgWriter}
    (returned : writer.autoCloseHeaders.result = .ok ()) :
    writer.release = writer.autoCloseHeaders.writer.release := by
  rw [release, release, autoCloseHeaders_closed (pBody_of_close returned),
    autoCloseHeaders_done returned]
  rfl

/-- `release` does not get past a close that failed. -/
theorem release_of_failedClose {writer : MsgWriter} {error : WriterError}
    (failed : writer.autoCloseHeaders.result = .error error) :
    writer.release = .throw writer.autoCloseHeaders.writer error := by
  cases whole : writer.autoCloseHeaders with
  | mk closed result =>
      rw [whole] at failed
      obtain rfl : result = .error error := failed
      simp [release, whole, Outcome.andThen]

/-- The position of the body is stored in 16 bits. -/
theorem Closed.fits {writer : MsgWriter} {bytes line body : Bytes}
    {headers : List Bytes} (closed : Closed writer bytes line headers body) :
    (withNewline writer.protocol.preferredNewline line headers []).length ≤ 65535 := by
  have small := writer.layout.pBody.toNat_lt
  rw [closed.pBody] at small
  omega

theorem Closed.pBody_ne_zero {writer : MsgWriter} {bytes line body : Bytes}
    {headers : List Bytes} (closed : Closed writer bytes line headers body) :
    writer.layout.pBody ≠ 0 := by
  intro zero
  have position := closed.pBody
  have newline := writer.protocol.preferredNewline_cases
  rw [zero] at position
  rcases newline with equal | equal <;>
    simp [equal, withNewline] at position

/-- `release` of a closed message, with the arithmetic of the body's length
done. -/
theorem release_closed {writer : MsgWriter} {bytes line body : Bytes}
    {headers : List Bytes} (held : writer.msg = some bytes)
    (closed : Closed writer bytes line headers body) :
    writer.release =
      if writer.lengthSize = 0 then
        .done { writer with msg := none, lengthOffset := 0, lengthSize := 0 }
          (some bytes)
      else if writer.lengthSize.toNat < numDigits body.length then
        .throw writer (.nng .nospc (ascii "Content-Length header completion"))
      else
        .done { writer with msg := none, lengthOffset := 0, lengthSize := 0 }
          (some (putDigits bytes
            (writer.lengthOffset.toNat + numDigits body.length) body.length)) := by
  have size : sizeT ((bytes.length : Int) - writer.layout.pBody.toNat) =
      body.length := by
    have total : bytes.length = writer.layout.pBody.toNat + body.length := by
      rw [closed.text, closed.pBody]
      simp only [withNewline, List.length_append, List.length_nil]
      omega
    rw [sizeT_sub (by omega)]
    omega
  rw [release, autoCloseHeaders_closed closed.pBody_ne_zero]
  simp only [Outcome.andThen, Outcome.done, held, size]
  by_cases sized : writer.lengthSize = 0 <;> simp [sized]

/-! ## Completing the length header -/

section Completion

variable {writer : MsgWriter} {bytes line body : Bytes} {headers : List Bytes}

theorem withNewline_eq (eol line : Bytes) (headers : List Bytes) (body : Bytes) :
    withNewline eol line headers body =
      joinWith eol (line :: headers) ++ (eol ++ body) := by
  simp [withNewline]

/-- Completing a length header does not change the length of the message. -/
theorem length_withNewline_filled {eol line : Bytes} {before after : List Bytes}
    {width value : Nat} (fits : numDigits value ≤ width) (body : Bytes) :
    (withNewline eol line (before ++ filledLine width value :: after) body).length =
      (withNewline eol line (before ++ lengthLine width :: after) body).length := by
  simp only [withNewline, joinWith_append, joinWith_cons, List.length_append,
    length_filledLine fits]

/-- The offset of a length header in the head was stored without truncation. -/
theorem HeadSlot.offset (closed : Closed writer bytes line headers body)
    {before after : List Bytes} {width : Nat}
    (split : headers = before ++ lengthLine width :: after)
    (stored : writer.lengthOffset = UInt16.ofNat (joinWith
      writer.protocol.preferredNewline (line :: before) ++ lengthName).length) :
    writer.lengthOffset.toNat = (joinWith writer.protocol.preferredNewline
      (line :: before) ++ lengthName).length := by
  have position := closed.pBody
  have small := writer.layout.pBody.toNat_lt
  rw [withNewline_eq, split] at position
  simp only [joinWith_append, joinWith_cons, lengthLine, List.length_append]
    at position stored ⊢
  rw [stored]
  apply UInt16.toNat_ofNat_of_lt'
  simp only [UInt16.size]
  omega

/-- A length header in the head is completed within its line. -/
theorem HeadSlot.complete (closed : Closed writer bytes line headers body)
    (slot : HeadSlot writer line headers) {value : Nat}
    (fits : ¬writer.lengthSize.toNat < numDigits value) :
    ∃ before width after, headers = before ++ lengthLine width :: after ∧
      numDigits value ≤ width ∧
      putDigits bytes (writer.lengthOffset.toNat + numDigits value) value =
        withNewline writer.protocol.preferredNewline line
          (before ++ filledLine width value :: after) body := by
  obtain ⟨before, width, after, split, _, small, size, stored⟩ := slot
  have sizeEq : writer.lengthSize.toNat = width := by
    rw [size]
    apply UInt16.toNat_ofNat_of_lt'
    simp only [UInt16.size]
    omega
  have digitsFit : numDigits value ≤ width := by omega
  refine ⟨before, width, after, split, digitsFit, ?_⟩
  rw [HeadSlot.offset closed split stored, closed.text, withNewline_eq, split,
    withNewline_eq, ← List.cons_append, ← List.cons_append]
  exact putDigits_lengthLine value digitsFit _

/-- The blanks of a length header lie in the body. -/
def BodySlot (writer : MsgWriter) (body : Bytes) : Prop :=
  writer.layout.pBody.toNat ≤ writer.lengthOffset.toNat ∧
    writer.lengthOffset.toNat + writer.lengthSize.toNat ≤
      writer.layout.pBody.toNat + body.length

/-- A length header in the body is completed there and leaves the head alone. -/
theorem BodySlot.complete (closed : Closed writer bytes line headers body)
    (slot : BodySlot writer body) {value : Nat}
    (fits : ¬writer.lengthSize.toNat < numDigits value) :
    ∃ completed,
      putDigits bytes (writer.lengthOffset.toNat + numDigits value) value =
        withNewline writer.protocol.preferredNewline line headers completed := by
  obtain ⟨begins, ends⟩ := slot
  have position := closed.pBody
  let left := body.take (writer.lengthOffset.toNat - writer.layout.pBody.toNat)
  let rest := body.drop (writer.lengthOffset.toNat - writer.layout.pBody.toNat)
  have put := putDigits_eq value
    (withNewline writer.protocol.preferredNewline line headers left)
    (rest.take (numDigits value)) (rest.drop (numDigits value))
    (by simp only [rest, List.length_take, List.length_drop]; omega)
  have pos : (withNewline writer.protocol.preferredNewline line headers left).length +
      (rest.take (numDigits value)).length =
        writer.lengthOffset.toNat + numDigits value := by
    have leftEq := congrArg List.length (withNewline_append
      writer.protocol.preferredNewline line headers [] left)
    simp only [List.nil_append, List.length_append, ← position] at leftEq
    rw [← leftEq]
    simp only [left, rest, List.length_take, List.length_drop]
    omega
  rw [List.take_append_drop, withNewline_append, List.take_append_drop, pos,
    ← closed.text, withNewline_append] at put
  exact ⟨_, put⟩

end Completion

end MsgWriter

end Telling.Msg
