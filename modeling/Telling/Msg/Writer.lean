import Telling.Io.Nng
import Telling.Msg.View

/-!
# Composing messages

`MsgWriter` appends a start line, headers and a body to an owned message and
parses the finished head with the same parser that reads received messages.
Every operation returns the writer as it stands afterwards, also when it threw.
Writing to a buffer opened with `ate` appends to the body of the message.
-/

namespace Telling.Msg

open Lib

/-- `NumDigits`. -/
def numDigits (value : Nat) : Nat :=
  if value / 10 = 0 then 1 else numDigits (value / 10) + 1
termination_by value
decreasing_by omega

/-- `ContainsNewline`. -/
def containsNewline (text : Bytes) : Bool :=
  text.any fun byte => decide (byte = cr) || decide (byte = lf)

/-- `ContainsWhitespace`. -/
def containsWhitespace (text : Bytes) : Bool :=
  text.any fun byte =>
    decide (byte = cr) || decide (byte = lf) || decide (byte = sp) ||
      decide (byte = tab)

theorem plain_of_containsNewline {text : Bytes}
    (absent : containsNewline text = false) : Plain text := by
  intro byte member
  have notNewline := List.any_eq_false.mp absent byte member
  simpa using notNewline

theorem word_of_containsWhitespace {text : Bytes}
    (absent : containsWhitespace text = false) : sp ∉ text ∧ Plain text := by
  have bytes : ∀ byte ∈ text, byte ≠ cr ∧ byte ≠ lf ∧ byte ≠ sp := by
    intro byte member
    have notBlank := List.any_eq_false.mp absent byte member
    simp only [Bool.or_eq_true, decide_eq_true_eq, not_or] at notBlank
    exact ⟨notBlank.1.1.1, notBlank.1.1.2, notBlank.1.2⟩
  exact ⟨fun member => (bytes sp member).2.2 rfl,
    fun byte member => ⟨(bytes byte member).1, (bytes byte member).2.1⟩⟩

/-- What a writer operation can throw, and the end of the process: by a null pointer
that is dereferenced, or by an exception inside `writeBody`, which is `noexcept`. -/
inductive WriterError where
  | msg (exception : MsgException)
  | nng (error : Io.NngError) (who : Bytes)
  | terminate
  deriving DecidableEq, Repr

/-- `MsgWriter`.  The layout is that of the inherited `MsgView`; its `_p_body` is
zero exactly while headers may still be written. -/
structure MsgWriter where
  protocol : MsgProtocol
  msg : Option Bytes
  layout : MsgLayout
  lengthOffset : UInt16
  lengthSize : UInt16
  deriving DecidableEq, Repr

/-- The writer after an operation, and the result or exception of the
operation. -/
structure Outcome (α : Type) where
  writer : MsgWriter
  result : Except WriterError α
  deriving DecidableEq, Repr

namespace Outcome

variable {α β : Type}

def done (writer : MsgWriter) (value : α) : Outcome α := ⟨writer, .ok value⟩

def throw (writer : MsgWriter) (error : WriterError) : Outcome α :=
  ⟨writer, .error error⟩

/-- The writer's own exceptions are constructed as `MsgException(error, 0, 0)`.  The
first zero becomes the `std::string_view` of a null pointer, whose length is asked
for, so that the process ends before anything is thrown. -/
def throwMsg (writer : MsgWriter) (_error : MsgError) : Outcome α :=
  .throw writer .terminate

/-- Sequencing: the next operation runs only if the first one returned. -/
def andThen (outcome : Outcome α) (next : MsgWriter → α → Outcome β) :
    Outcome β :=
  match outcome with
  | ⟨writer, .ok value⟩ => next writer value
  | ⟨writer, .error error⟩ => .throw writer error

@[simp] theorem done_andThen (writer : MsgWriter) (value : α)
    (next : MsgWriter → α → Outcome β) :
    (Outcome.done writer value).andThen next = next writer value := rfl

theorem andThen_eq_done {outcome : Outcome α} {next : MsgWriter → α → Outcome β}
    {final : MsgWriter} {value : β} :
    outcome.andThen next = .done final value ↔
      ∃ middle between, outcome = .done middle between ∧
        next middle between = .done final value := by
  obtain ⟨writer, result⟩ := outcome
  cases result with
  | ok given => simp [andThen, done]
  | error error => simp [andThen, done, throw]

@[simp] theorem throw_ne_done {writer final : MsgWriter} {error : WriterError}
    {value : α} : Outcome.throw writer error ≠ .done final value := by
  simp [throw, done]

theorem throw_inj {writer next : MsgWriter} {error other : WriterError}
    (same : (Outcome.throw writer error : Outcome α) = .throw next other) :
    other = error := by
  simp only [throw, mk.injEq, Except.error.injEq] at same
  exact same.2.symm

@[simp] theorem throwMsg_ne_done {writer final : MsgWriter} {error : MsgError}
    {value : α} : Outcome.throwMsg writer error ≠ .done final value := by
  simp [throwMsg]

@[simp] theorem done_eq_done {writer final : MsgWriter} {given value : α} :
    Outcome.done writer given = .done final value ↔
      writer = final ∧ given = value := by
  simp [done]

end Outcome

namespace MsgWriter

/-- The constructor. -/
def new (protocol : MsgProtocol) : MsgWriter := ⟨protocol, none, .reset, 0, 0⟩

/-- The writer with more text at the end of its message. -/
def extend (writer : MsgWriter) (text : Bytes) : MsgWriter :=
  { writer with msg := writer.msg.map (· ++ text) }

/-- Writing to a buffer that is opened at the end of the message.  Without a message
this dereferences a null pointer. -/
def append (writer : MsgWriter) (text : Bytes) : Outcome Unit :=
  if writer.msg.isSome then .done (writer.extend text) ()
  else .throw writer .terminate

theorem append_held {writer : MsgWriter} {bytes : Bytes} (held : writer.msg = some bytes)
    (text : Bytes) :
    writer.append text = .done { writer with msg := some (bytes ++ text) } () := by
  simp [append, extend, held]

/-! ## Start lines -/

/-- `_startMsg`. -/
def startMsg (writer : MsgWriter) : Outcome Unit :=
  if writer.msg.isSome then .throwMsg writer .alreadyWritten
  else .done { MsgWriter.new writer.protocol with msg := some [] } ()

def startRequest (writer : MsgWriter) (uri : Bytes) (method : Method) :
    Outcome Unit :=
  writer.startMsg.andThen fun writer _ =>
    if !method.isValid then .throwMsg writer .startLineMalformed
    else if containsWhitespace uri then .throwMsg writer .startLineMalformed
    else
      writer.append (method.toText ++ sp :: (uri ++ sp ::
        (writer.protocol.toText ++ writer.protocol.preferredNewline)))

def startReply (writer : MsgWriter) (status : Status) (reason : Bytes) :
    Outcome Unit :=
  writer.startMsg.andThen fun writer _ =>
    if containsNewline reason then .throwMsg writer .startLineMalformed
    else
      writer.append (writer.protocol.toText ++ sp :: (status.toText ++
        sp :: (reason ++ writer.protocol.preferredNewline)))

def startReport (writer : MsgWriter) (uri : Bytes) (status : Status)
    (reason : Bytes) : Outcome Unit :=
  writer.startMsg.andThen fun writer _ =>
    if containsWhitespace uri then .throwMsg writer .startLineMalformed
    else if containsNewline reason then .throwMsg writer .startLineMalformed
    else
      writer.append (uri ++ sp :: (writer.protocol.toText ++ sp ::
        (status.toText ++ sp :: (reason ++ writer.protocol.preferredNewline))))

/-! ## Headers -/

def writeHeader (writer : MsgWriter) (name value : Bytes) : Outcome Unit :=
  if writer.msg.isNone || decide (writer.layout.pBody ≠ 0) then
    .throwMsg writer .alreadyWritten
  else if name.any fun byte => decide (byte = cr) || decide (byte = lf) ||
      decide (byte = colon) then
    .throwMsg writer .headerMalformed
  else if containsNewline value then .throwMsg writer .headerMalformed
  else
    writer.append (name ++ colon :: (value ++ writer.protocol.preferredNewline))

/-- `Methods`: a set of methods as a bit mask. -/
structure Methods where
  mask : UInt32
  deriving DecidableEq, Repr

def Methods.contains (methods : Methods) (method : Method) : Bool :=
  decide ((methods.mask >>> UInt32.ofNat method.toInt.toNat) &&& 1 ≠ 0)

/-- The codes between `None` and `EndOfValidMethods`, in counting order. -/
def validMethods : List Method :=
  [.get, .head, .post, .put, .delete, .patch, .options, .connect, .trace]

def writeHeaderAllow (writer : MsgWriter) (methods : Methods) : Outcome Unit :=
  writer.writeHeader (ascii "Allow") (List.intercalate (ascii ", ")
    ((validMethods.filter methods.contains).map Method.toText))

def writeHeaderLength (writer : MsgWriter) (maxLength : Nat) : Outcome Unit :=
  if writer.lengthSize ≠ 0 then
    .throw writer (.nng .nospc (ascii "Content-Length header allocation"))
  else
    (writer.append (ascii "Content-Length:")).andThen fun writer _ =>
      let digits := numDigits maxLength
      let writer := { writer with
        lengthOffset := UInt16.ofNat (writer.msg.getD []).length
        lengthSize := UInt16.ofNat digits }
      writer.append (List.replicate digits sp ++ writer.protocol.preferredNewline)

/-! ## Body and release -/

/-- `_autoCloseHeaders`: the layout keeps what the parser set before a throw. -/
def autoCloseHeaders (writer : MsgWriter) : Outcome Unit :=
  if writer.layout.pBody = 0 then
    match writer.msg with
    | none => .throwMsg writer .alreadyWritten
    | some bytes =>
        let bytes := bytes ++ writer.protocol.preferredNewline
        let parsed := parseMsg writer.layout bytes .unknown
        let writer := { writer with msg := some bytes, layout := parsed.layout }
        match parsed.thrown with
        | none => .done writer ()
        | some exception => .throw writer (.msg exception)
  else .done writer ()

/-- `writeBody`, followed by writing `data` to the stream it returns. -/
def writeBody (writer : MsgWriter) (data : Bytes) : Outcome Unit :=
  match writer.autoCloseHeaders with
  | ⟨writer, .ok _⟩ => writer.append data
  | ⟨writer, .error _⟩ => .throw writer .terminate

/-- `reserveBodyBytes`: capacity is not observable.  Measuring the body of a
missing message dereferences a null pointer. -/
def reserveBodyBytes (writer : MsgWriter) (_capac : Nat) : Outcome Unit :=
  writer.autoCloseHeaders.andThen fun writer _ =>
    if writer.msg.isNone then .throw writer .terminate else .done writer ()

/-- The loop that writes the digits of `value` backwards, ending before
`pos`. -/
def putDigits (bytes : Bytes) (pos value : Nat) : Bytes :=
  let bytes := bytes.set (pos - 1) (Status.digit value)
  if value / 10 = 0 then bytes else putDigits bytes (pos - 1) (value / 10)
termination_by value
decreasing_by omega

/-- `release`.  The message handle that is returned is null when there was no
message; completing a length header in a missing message dereferences a null
pointer. -/
def release (writer : MsgWriter) : Outcome (Option Bytes) :=
  writer.autoCloseHeaders.andThen fun writer _ =>
    let released := { writer with msg := none, lengthOffset := 0, lengthSize := 0 }
    if writer.lengthSize ≠ 0 then
      match writer.msg with
      | none => .throw writer .terminate
      | some bytes =>
          let bodySize := sizeT ((bytes.length : Int) - writer.layout.pBody.toNat)
          let digits := numDigits bodySize
          if writer.lengthSize.toNat < digits then
            .throw writer (.nng .nospc (ascii "Content-Length header completion"))
          else
            .done released (some
              (putDigits bytes (writer.lengthOffset.toNat + digits) bodySize))
    else .done released writer.msg

/-! ## Composing a whole message -/

/-- The three ways to begin a message. -/
inductive StartLine where
  | request (uri : Bytes) (method : Method)
  | reply (status : Status) (reason : Bytes)
  | report (uri : Bytes) (status : Status) (reason : Bytes)
  deriving DecidableEq, Repr

def start (writer : MsgWriter) : StartLine → Outcome Unit
  | .request uri method => writer.startRequest uri method
  | .reply status reason => writer.startReply status reason
  | .report uri status reason => writer.startReport uri status reason

/-- A list of `writeHeader` calls. -/
def writeHeaders (writer : MsgWriter) : List (Bytes × Bytes) → Outcome Unit
  | [] => .done writer ()
  | (name, value) :: headers =>
      (writer.writeHeader name value).andThen fun writer _ =>
        writer.writeHeaders headers

/-- Steps 1 to 4 of the interface on a new writer. -/
def compose (protocol : MsgProtocol) (startLine : StartLine)
    (headers : List (Bytes × Bytes)) (body : Bytes) : Outcome (Option Bytes) :=
  ((MsgWriter.new protocol).start startLine).andThen fun writer _ =>
    (writer.writeHeaders headers).andThen fun writer _ =>
      (writer.writeBody body).andThen fun writer _ => writer.release

end MsgWriter

end Telling.Msg
