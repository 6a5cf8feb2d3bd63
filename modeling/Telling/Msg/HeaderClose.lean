import Telling.Msg.Admission
import Telling.Msg.Composed

/-!
# Closing the headers

The writer checks its arguments for newlines and blanks only, and leaves the rest
to the parser that runs when the headers are closed.  This module says exactly
which messages that parser then refuses.
-/

namespace Telling.Msg

open Lib

namespace MsgWriter

/-- The start lines that the parser accepts after the start functions did.  The
reason is limited in length, and a reply must not continue after the name of a
protocol. -/
def StartLine.Closable : StartLine → Prop
  | .request _ _ => True
  | .reply _ reason =>
      reason ∈ protocolNames ∨
        firstWord reason ∉ protocolNames ∧ reason.length ≤ maxReasonLength
  | .report _ _ reason => reason.length ≤ maxReasonLength

instance : (startLine : StartLine) → Decidable startLine.Closable
  | .request _ _ => inferInstanceAs (Decidable True)
  | .reply _ _ => inferInstanceAs (Decidable (_ ∨ _))
  | .report _ _ reason => inferInstanceAs (Decidable (reason.length ≤ _))

/-! ## Admission of composed start lines -/

section Admission

variable {protocol : MsgProtocol} {method : Method} {status : Status}
variable {uri reason : Bytes}

theorem lineAdmitted_request (valid : protocol.isValid)
    (accepted : (StartLine.request uri method).Accepted) :
    LineAdmitted ((StartLine.request uri method).text protocol) := by
  have methodFits := (Method.toText_shape accepted.1).2.2.2
  have protocolFits := (MsgProtocol.toText_shape valid).2.2.2
  rw [LineAdmitted, detectType_request valid accepted, admitted_request_iff]
  exact ⟨_, _, _, requestWords_text valid accepted, methodFits,
    protocolFits.trans (by decide)⟩

theorem lineAdmitted_report (valid : protocol.isValid)
    (accepted : (StartLine.report uri status reason).Accepted) :
    LineAdmitted ((StartLine.report uri status reason).text protocol) ↔
      reason.length ≤ maxReasonLength := by
  have statusLength := status.toText_shape.1
  have protocolFits := (MsgProtocol.toText_shape valid).2.2.2
  rw [LineAdmitted, detectType_report valid accepted,
    lineParts_report valid accepted]
  simp only [Admitted, partPos, StartLine.text, maxPrtRpos, maxStsRpos,
    maxReasonLength, maxStatusLength, maxProtocolLength, statusLength, StatusFits,
    List.getElem?_cons_succ, List.getElem?_cons_zero, Option.map_some,
    Option.isSome_some, if_true, List.length_append, List.length_cons]
  omega

/-- A reason that is the name of a protocol is a single word. -/
theorem firstWord_protocolName (named : reason ∈ protocolNames) :
    sp ∉ reason ∧ firstWord reason = reason := by
  have single : sp ∉ reason := by
    have valid := (isValid_parse_iff reason).mpr named
    rw [MsgProtocol.isValid_parse valid]
    exact (MsgProtocol.toText_shape valid).1
  exact ⟨single, takeWhile_last single⟩

theorem lineAdmitted_reply (valid : protocol.isValid) :
    LineAdmitted ((StartLine.reply status reason).text protocol) ↔
      (StartLine.reply status reason).Closable := by
  have statusLength := status.toText_shape.1
  have protocolFits := (MsgProtocol.toText_shape valid).2.2.2
  obtain ⟨rest, parts, restEmpty⟩ := lineParts_reply valid status reason
  rw [LineAdmitted, detectType_reply valid status reason, parts,
    StartLine.Closable]
  by_cases named : firstWord reason ∈ protocolNames
  · -- Taken for a request, the line must have no fourth element.
    have lastEmpty : rest = [] ↔ reason ∈ protocolNames := by
      rw [restEmpty]
      constructor
      · intro single
        rwa [firstWord, takeWhile_last single] at named
      · exact fun whole => (firstWord_protocolName whole).1
    have fourth : (rest[0]?.map Part.pos = none) ↔ rest = [] := by
      cases rest <;> simp
    simp only [if_pos ((isValid_parse_iff _).mpr named), Admitted, partPos,
      StartLine.text, maxUriPos, maxMethodLength, maxPrtRpos, maxStsRpos,
      maxReasonLength, maxStatusLength, maxProtocolLength, List.getElem?_cons_succ,
      List.getElem?_cons_zero, Option.map_some, Option.some.injEq, exists_eq_left',
      forall_eq', List.length_append, List.length_cons, statusLength, fourth,
      lastEmpty, not_true, false_and, or_false, named]
    constructor
    · exact fun admitted => admitted.1
    · intro whole
      have reasonFits : reason.length ≤ 8 := by
        have nameFits : ∀ name ∈ protocolNames, name.length ≤ 8 := by decide
        exact nameFits reason whole
      exact ⟨whole, by omega, by omega⟩
  · have notWhole : reason ∉ protocolNames := by
      intro whole
      exact named ((firstWord_protocolName whole).2.symm ▸ whole)
    simp only [if_neg (mt (isValid_parse_iff _).mp named), Admitted, partPos,
      StartLine.text, maxPrtRpos, maxStsRpos, maxReasonLength, maxStatusLength,
      maxProtocolLength, StatusFits, List.getElem?_cons_succ, List.getElem?_cons_zero,
      Option.map_some, Option.some.injEq, exists_eq_left', Option.isSome_some, if_true,
      List.length_append, List.length_cons, statusLength, named, notWhole,
      not_false_iff, true_and, false_or]
    omega

/-- The start lines of accepted calls are admitted exactly when they are
closable. -/
theorem lineAdmitted_iff (valid : protocol.isValid) {startLine : StartLine}
    (accepted : startLine.Accepted) :
    LineAdmitted (startLine.text protocol) ↔ startLine.Closable := by
  cases startLine with
  | request uri method =>
      exact iff_of_true (lineAdmitted_request valid accepted) trivial
  | reply status reason => exact lineAdmitted_reply valid
  | report uri status reason => exact lineAdmitted_report valid accepted

end Admission

/-! ## The close -/

theorem autoCloseHeaders_returns {writer : MsgWriter} {bytes : Bytes}
    (held : writer.msg = some bytes) (openHead : writer.layout.pBody = 0) :
    writer.autoCloseHeaders.result = .ok () ↔
      (parseMsg writer.layout (bytes ++ writer.protocol.preferredNewline)
        .unknown).thrown = none := by
  simp only [autoCloseHeaders, openHead, if_true, held]
  cases (parseMsg writer.layout (bytes ++ writer.protocol.preferredNewline)
      .unknown).thrown with
  | none => simp [Outcome.done]
  | some exception => simp [Outcome.throw]

theorem autoCloseHeaders_isSome {writer : MsgWriter} (held : writer.msg.isSome) :
    writer.autoCloseHeaders.writer.msg.isSome := by
  unfold autoCloseHeaders
  split
  · split
    · exact held
    · dsimp only
      split <;> rfl
  · exact held

/-- The operations that close the headers of a message return exactly when the
close does. -/
theorem writeBody_returns {writer : MsgWriter} (held : writer.msg.isSome)
    (data : Bytes) :
    (writer.writeBody data).result = .ok () ↔
      writer.autoCloseHeaders.result = .ok () := by
  have kept := autoCloseHeaders_isSome held
  unfold writeBody
  cases closing : writer.autoCloseHeaders with
  | mk closed result =>
      rw [closing] at kept
      cases result with
      | ok value => simp [append, kept, Outcome.done]
      | error error => simp [Outcome.throw]

theorem reserveBodyBytes_returns {writer : MsgWriter} (held : writer.msg.isSome)
    (capac : Nat) :
    (writer.reserveBodyBytes capac).result = .ok () ↔
      writer.autoCloseHeaders.result = .ok () := by
  have kept := autoCloseHeaders_isSome held
  unfold reserveBodyBytes
  cases closing : writer.autoCloseHeaders with
  | mk closed result =>
      rw [closing] at kept
      cases result with
      | ok value =>
          simp [Outcome.andThen, Outcome.done, Option.isNone_eq_false_iff.mpr kept]
      | error error => simp [Outcome.andThen, Outcome.throw]

/-- Which closes succeed: after a start and headers that all returned, the next
`writeBody` or `reserveBodyBytes` returns exactly when the head fits into 64 KiB
and the start line is closable. -/
theorem headerClose_returns_iff (writer started headed : MsgWriter)
    (valid : writer.protocol.isValid) (startLine : StartLine)
    (headers : List (Bytes × Bytes))
    (startDone : writer.start startLine = .done started ())
    (headersDone : started.writeHeaders headers = .done headed ()) :
    (headed.autoCloseHeaders.result = .ok () ↔
      (headText writer.protocol startLine headers).length ≤ 65535 ∧
        startLine.Closable) ∧
    (∀ data, (headed.writeBody data).result = .ok () ↔
      (headText writer.protocol startLine headers).length ≤ 65535 ∧
        startLine.Closable) ∧
    ∀ capac, (headed.reserveBodyBytes capac).result = .ok () ↔
      (headText writer.protocol startLine headers).length ≤ 65535 ∧
        startLine.Closable := by
  obtain ⟨_, lineAccepted, rfl⟩ := start_done startDone
  obtain ⟨headersAccepted, headedEq⟩ := writeHeaders_done rfl headersDone
  have plain := StartLine.text_plain writer.protocol lineAccepted
  have framed := framed_headText plain headersAccepted []
  rw [List.append_nil] at framed
  have bodyPos : Framed.bodyPos (startLine.text writer.protocol)
      writer.protocol.preferredNewline (headerLines writer.protocol headers)
      writer.protocol.preferredNewline =
        (headText writer.protocol startLine headers).length := by
    simp only [Framed.bodyPos, headText, List.length_append]
    omega
  have admitted := framed.parseMsg_unknown_returns .reset
    writer.protocol.preferredNewline_cases
  rw [bodyPos, lineAdmitted_iff valid lineAccepted] at admitted
  have held : headed.msg = some (startLine.text writer.protocol ++
      writer.protocol.preferredNewline ++
      joinLines (headerLines writer.protocol headers)) := by
    rw [headedEq]
    rfl
  have closes := autoCloseHeaders_returns held (by rw [headedEq]; rfl)
  have textEq : startLine.text writer.protocol ++ writer.protocol.preferredNewline ++
      joinLines (headerLines writer.protocol headers) ++
        headed.protocol.preferredNewline =
      headText writer.protocol startLine headers := by
    rw [headedEq]
    simp [headText, begun, MsgWriter.new]
  have fresh : headed.layout = .reset := by rw [headedEq]; rfl
  rw [textEq, fresh, admitted] at closes
  have holds : headed.msg.isSome := by rw [held]; rfl
  refine ⟨closes, fun data => ?_, fun capac => ?_⟩
  · exact (writeBody_returns holds data).trans closes
  · exact (reserveBodyBytes_returns holds capac).trans closes

/-- An ordinary reply is closed without an exception. -/
theorem headerClose_returns_ok :
    (begun .telling (ascii "Tell/0 200 OK\nX:1\n")).autoCloseHeaders.result =
      .ok () :=
  (headerClose_returns_iff (.new .telling)
    (begun .telling (ascii "Tell/0 200 OK\n"))
    (begun .telling (ascii "Tell/0 200 OK\nX:1\n")) (by decide)
    (.reply ⟨200⟩ (ascii "OK")) [(ascii "X", ascii "1")] (by decide +kernel)
    (by decide +kernel)).1.mpr (by decide +kernel)

/-- Replies and reports that `startReply` and `startReport` let through and whose
headers cannot be closed: the process ends in `writeBody`. -/
theorem headerClose_terminates :
    (((MsgWriter.new .telling).startReply ⟨200⟩ (ascii "Tell/0 is fine")).andThen
      fun writer _ => writer.writeBody []).result = .error .terminate ∧
    (((MsgWriter.new .http11).startReport (ascii "/a") ⟨200⟩
        (List.replicate 129 120)).andThen
      fun writer _ => writer.writeBody []).result = .error .terminate := by
  decide +kernel

end MsgWriter

end Telling.Msg
