import Telling.Msg.HeaderClose
import Telling.Msg.StartLines

/-!
# Replies that tell of errors

`WriteReply` begins a reply with a status and its reason-phrase.  Whatever the status,
such a reply can be written and `MsgView::Reply` accepts it; the status reads back when
it has three digits or is zero.  A `ReplyableException` writes its own reply, and a
class may override how.
-/

namespace Telling.Msg

open Lib
open MsgWriter (StartLine headText HeaderAccepted headerLines protocolNames firstWord)

/-! ## Statuses that read back -/

/-- The statuses that a reader gets back from their text: those of three digits, and the
null status, which stands for a text that is none. -/
def Status.ReadsBack (status : Status) : Prop := 0 ≤ status.code ∧ status.code ≤ 999

instance (status : Status) : Decidable status.ReadsBack :=
  inferInstanceAs (Decidable (_ ∧ _))

theorem Status.parse_toText_iff (status : Status) :
    Status.parse status.toText = status ↔ status.ReadsBack := by
  by_cases inRange : status.InRange
  · exact iff_of_true (Status.parse_toText inRange)
      ⟨Int.le_trans Int.one_nonneg inRange.1, inRange.2⟩
  · have outside : status.code ≤ 0 ∨ 999 < status.code := by
      unfold Status.InRange at inRange
      omega
    have null : Status.parse status.toText = ⟨0⟩ := by
      rw [Status.toText, if_pos outside]
      decide +kernel
    obtain ⟨code⟩ := status
    rw [null, Status.mk.injEq]
    simp only [Status.ReadsBack] at outside ⊢
    omega

theorem MsgException.replyStatus_readsBack (exception : MsgException) :
    exception.replyStatus.ReadsBack := by
  unfold MsgException.replyStatus
  split <;> decide

/-! ## Writing a reply -/

/-- `WriteReply(status)`, calls of `writeHeader`, perhaps a body, and `release`. -/
def writeReply (status : Status) (headers : List (Bytes × Bytes)) (body : Option Bytes) :
    Outcome (Option Bytes) :=
  ((MsgWriter.new .telling).start (.reply status status.reasonPhrase)).andThen
    fun writer _ => (writer.writeHeaders headers).andThen fun writer _ =>
      (match body with
        | some body => writer.writeBody body
        | none => .done writer ()).andThen fun writer _ => writer.release

/-- The start line and the headers of such a reply. -/
def replyHead (status : Status) (headers : List (Bytes × Bytes)) : Bytes :=
  headText .telling (.reply status status.reasonPhrase) headers

section Phrases

/-- No reason-phrase has a newline, is too long or begins with a protocol. -/
def PhraseFits (reason : Bytes) : Prop :=
  containsNewline reason = false ∧ firstWord reason ∉ protocolNames ∧ reason.length ≤ 31

instance (reason : Bytes) : Decidable (PhraseFits reason) :=
  inferInstanceAs (Decidable (_ ∧ _))

theorem reasonPhrases_fit :
    ∀ entry ∈ Status.reasonPhrases, PhraseFits (ascii entry.2) := by
  decide +kernel

theorem reasonPhrase_fits (status : Status) : PhraseFits status.reasonPhrase := by
  unfold Status.reasonPhrase
  cases found : Status.reasonPhrases.lookup status.code with
  | none => decide +kernel
  | some phrase =>
      obtain ⟨before, after, split, -⟩ := List.lookup_eq_some_iff.mp found
      exact reasonPhrases_fit (status.code, phrase) (by rw [split]; simp)

end Phrases

section Written

variable {status : Status} {headers : List (Bytes × Bytes)}

theorem replyLine_accepted (status : Status) :
    (StartLine.reply status status.reasonPhrase).Accepted :=
  (reasonPhrase_fits status).1

theorem replyLine_plain (status : Status) :
    Plain ((StartLine.reply status status.reasonPhrase).text .telling) :=
  StartLine.text_plain .telling (replyLine_accepted status)

theorem replyLine_admitted (status : Status) :
    LineAdmitted ((StartLine.reply status status.reasonPhrase).text .telling) := by
  obtain ⟨-, unnamed, short⟩ := reasonPhrase_fits status
  refine (MsgWriter.lineAdmitted_reply (by decide)).mpr (Or.inr ⟨unnamed, ?_⟩)
  exact short.trans (by decide)

/-- The line is recognised as that of a reply. -/
theorem detectType_replyLine (status : Status) :
    detectType .unknown
      (lineParts ((StartLine.reply status status.reasonPhrase).text .telling)) =
        .reply := by
  rw [MsgWriter.detectType_reply (by decide), if_neg]
  rw [MsgWriter.isValid_parse_iff]
  exact (reasonPhrase_fits status).2.1

/-- The head is accepted by a reader that detects the type and by one that asks for a
reply. -/
theorem parseMsg_replyHead (accepted : ∀ header ∈ headers, HeaderAccepted header)
    (fits : (replyHead status headers).length ≤ 65535) {requested : MsgType}
    (asked : requested = .unknown ∨ requested = .reply) :
    ∃ layout, parseMsg .reset (replyHead status headers) requested = .done layout := by
  have framed := MsgWriter.framed_headText (replyLine_plain status) accepted []
  rw [List.append_nil] at framed
  have bodyPos : Framed.bodyPos ((StartLine.reply status status.reasonPhrase).text .telling)
      MsgProtocol.telling.preferredNewline (headerLines .telling headers)
      MsgProtocol.telling.preferredNewline = (replyHead status headers).length := by
    simp only [Framed.bodyPos, replyHead, headText, List.length_append]
    omega
  have detected : detectType requested
      (lineParts ((StartLine.reply status status.reasonPhrase).text .telling)) =
      .reply := by
    rcases asked with rfl | rfl
    · exact detectType_replyLine status
    · rfl
  have admitted := replyLine_admitted status
  rw [LineAdmitted, detectType_replyLine] at admitted
  have long : 2 ≤ ((StartLine.reply status status.reasonPhrase).text .telling ++
      MsgProtocol.telling.preferredNewline).length := by
    simp only [StartLine.text, List.length_append, List.length_cons]
    omega
  have returned := (framed.parseMsg_returns .reset requested
    MsgProtocol.telling.preferredNewline_cases long).mpr
      ⟨bodyPos ▸ fits, detected ▸ admitted⟩
  exact ⟨(parseMsg .reset (replyHead status headers) requested).layout, by
    rw [Parsed.done, ← returned, replyHead]⟩

/-- The headers of a reply, as far as the writer and the 64 KiB of a head go. -/
structure ReplyHeaders (headers : List (Bytes × Bytes)) : Prop where
  accepted : ∀ header ∈ headers, HeaderAccepted header
  short : (joinLines (headerLines .telling headers)).length ≤ 65000

theorem ReplyHeaders.of_header {name value : Bytes}
    (accepted : HeaderAccepted (name, value)) (short : name.length + value.length ≤ 64998) :
    ReplyHeaders [(name, value)] where
  accepted := by simpa using accepted
  short := by
    have newline : MsgProtocol.telling.preferredNewline.length = 1 := by decide
    simp only [headerLines, MsgWriter.headerLine, List.map_cons, List.map_nil,
      joinLines_cons, joinLines_nil, List.length_append, List.length_cons, List.length_nil,
      newline]
    omega

theorem ReplyHeaders.length_replyHead (fit : ReplyHeaders headers) :
    (replyHead status headers).length ≤ 65535 := by
  have phrase := (reasonPhrase_fits status).2.2
  have digits := status.toText_shape.1
  have protocol : MsgProtocol.telling.toText.length = 6 := by decide +kernel
  have newline : MsgProtocol.telling.preferredNewline.length = 1 := by decide
  have lines := fit.short
  simp only [replyHead, headText, StartLine.text, List.length_append, List.length_cons,
    protocol, newline, digits]
  omega

/-- Every such reply is written, with a body or without. -/
theorem writeReply_result (status : Status) (fit : ReplyHeaders headers)
    (body : Option Bytes) :
    (writeReply status headers body).result =
      .ok (some (replyHead status headers ++ body.getD [])) := by
  obtain ⟨layout, parsed⟩ := @parseMsg_replyHead status headers fit.accepted
    fit.length_replyHead .unknown (.inl rfl)
  cases body with
  | some body =>
      exact MsgWriter.compose_of_parsed (replyLine_accepted status) fit.accepted parsed
        body
  | none =>
      rw [Option.getD_none, List.append_nil]
      exact MsgWriter.release_of_parsed (replyLine_accepted status) fit.accepted parsed

/-- A message that `MsgView::Reply` accepts, with the status it carries. -/
def IsReply (reply : Bytes) (status : Status) : Prop :=
  ∃ view, MsgView.parse reply .reply = .ok view ∧ view.status = status

/-- What was written is accepted, and the text of the status is read. -/
theorem parse_replyHead (status : Status) (fit : ReplyHeaders headers) (body : Bytes) :
    ∃ view, MsgView.parse (replyHead status headers ++ body) .reply = .ok view ∧
      view.status = .parse status.toText := by
  obtain ⟨layout, parsed⟩ := @parseMsg_replyHead status headers fit.accepted
    fit.length_replyHead .reply (.inr rfl)
  have plain := replyLine_plain status
  have whole := MsgWriter.parseMsg_headText_append plain fit.accepted parsed body
  have framed := MsgWriter.framed_headText plain fit.accepted body
  have words : StatusWords .reply
      ((StartLine.reply status status.reasonPhrase).text .telling)
      MsgProtocol.telling.toText status.toText (some status.reasonPhrase) :=
    .reply (some _) (@MsgProtocol.toText_shape .telling (by decide)).1
      status.toText_shape.2.1
  have delimited := words.delimited ⟨replyHead status headers ++ body, layout⟩ rfl
    ⟨_, framed.startLine.split.symm⟩ (framed.described whole) status.toText_shape.1
  exact ⟨⟨replyHead status headers ++ body, layout⟩, MsgView.parse_eq_ok.mpr ⟨rfl, whole⟩,
    by rw [MsgView.status, delimited.statusString]⟩

/-- The body reads back too. -/
theorem bodyString_replyHead (fit : ReplyHeaders headers) {body : Bytes} {view : MsgView}
    (parsed : MsgView.parse (replyHead status headers ++ body) .reply = .ok view) :
    view.bodyString = body := by
  obtain ⟨msg, layout⟩ := view
  obtain ⟨same, whole⟩ := MsgView.parse_eq_ok.mp parsed
  obtain rfl : msg = replyHead status headers ++ body := same
  have framed := MsgWriter.framed_headText (replyLine_plain status) fit.accepted body
  exact framed.bodyString_eq (framed.described whole)

/-- And so do the headers, with the blanks around their values left out. -/
theorem headers_replyHead (fit : ReplyHeaders headers) {body : Bytes} {view : MsgView}
    (parsed : MsgView.parse (replyHead status headers ++ body) .reply = .ok view) :
    view.headers.map MsgHeaderView.toPair =
      headers.map fun header => (header.1, trim isBlank header.2) := by
  obtain ⟨msg, layout⟩ := view
  obtain ⟨same, whole⟩ := MsgView.parse_eq_ok.mp parsed
  obtain rfl : msg = replyHead status headers ++ body := same
  exact (MsgWriter.view_headText (replyLine_plain status) fit.accepted whole).1

/-- So it carries the status it was written with when that one reads back. -/
theorem isReply_replyHead_iff (status : Status) (fit : ReplyHeaders headers)
    (body : Bytes) :
    IsReply (replyHead status headers ++ body) status ↔ status.ReadsBack := by
  obtain ⟨view, parsed, read⟩ := parse_replyHead status fit body
  rw [← status.parse_toText_iff]
  constructor
  · rintro ⟨other, parsedToo, carried⟩
    obtain rfl := Except.ok.inj (parsed.symm.trans parsedToo)
    exact read.symm.trans carried
  · exact fun readsBack => ⟨view, parsed, read.trans readsBack⟩

end Written

/-! ## Replyable exceptions -/

/-- The header of the replies to exceptions. -/
def plainText : List (Bytes × Bytes) := [(ascii "Content-Type", ascii "text/plain")]

theorem plainText_fits : ReplyHeaders plainText :=
  .of_header ⟨by decide +kernel, by decide +kernel, by decide +kernel⟩ (by decide +kernel)

/-- A `ReplyableException`: of a class that only says its status and its text, a
`MsgException`, or of a class with a `replyWithError` of its own. -/
inductive Replyable where
  | plain (replyStatus : Status) (what : Bytes)
  | msg (exception : MsgException)
  | overriding (replyStatus : Status)
      (replyWithError : (context : Bytes) → Except WriterError (Option Bytes))

namespace Replyable

/-- `status_exceptions::Err_` and `StatusException`.  `what` returns a C string, which
ends at the first null character of the message. -/
def statusError (status : Status) (message : Bytes) : Replyable :=
  .plain status (message.takeWhile (· != 0))

def replyStatus : Replyable → Status
  | .plain status _ => status
  | .msg exception => exception.replyStatus
  | .overriding status _ => status

def replyWithError (exception : Replyable) (context : Bytes) :
    Except WriterError (Option Bytes) :=
  match exception with
  | .plain status what =>
      (writeReply status plainText (some
        ((if context ≠ [] then context ++ ascii ": " else []) ++ what))).result
  | .msg exception =>
      (writeReply exception.replyStatus plainText
        (some (exception.replyBody context))).result
  | .overriding _ replyWithError => replyWithError context

/-- When the reply to an exception carries its status.  Of a class that overrides
`replyWithError` nothing else is known. -/
def Tells (exception : Replyable) (context : Bytes) : Prop :=
  match exception with
  | .plain status _ => status.ReadsBack
  | .msg _ => True
  | .overriding status replyWithError =>
      ∃ reply, replyWithError context = .ok (some reply) ∧ IsReply reply status

theorem isReply_of_written_iff {status : Status} {body : Bytes}
    {written : Except WriterError (Option Bytes)}
    (result : written = .ok (some (replyHead status plainText ++ body))) :
    (∃ reply, written = .ok (some reply) ∧ IsReply reply status) ↔ status.ReadsBack := by
  rw [← isReply_replyHead_iff status plainText_fits body, result]
  simp

theorem replyWithError_iff (exception : Replyable) (context : Bytes) :
    (∃ reply, exception.replyWithError context = .ok (some reply) ∧
      IsReply reply exception.replyStatus) ↔ exception.Tells context := by
  cases exception with
  | plain status what =>
      exact isReply_of_written_iff (writeReply_result status plainText_fits _)
  | msg exception =>
      refine (isReply_of_written_iff (writeReply_result _ plainText_fits _)).trans ?_
      exact iff_of_true exception.replyStatus_readsBack trivial
  | overriding status replyWithError => exact Iff.rfl

end Replyable

end Telling.Msg
