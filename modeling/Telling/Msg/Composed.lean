import Telling.Msg.HeaderLines
import Telling.Msg.StartLines
import Telling.Msg.Writer

/-!
# Composed messages

What the operations of a writer leave behind when they return: the text of the
start line, the header lines and the empty line that closes them, and how the
parser classifies the start lines that the writer produces.
-/

namespace Telling.Msg

open Lib

namespace MsgWriter

/-! ## What a composed message looks like -/

/-- The start line without its newline. -/
def StartLine.text (protocol : MsgProtocol) : StartLine → Bytes
  | .request uri method =>
      method.toText ++ sp :: (uri ++ sp :: protocol.toText)
  | .reply status reason =>
      protocol.toText ++ sp :: (status.toText ++ sp :: reason)
  | .report uri status reason =>
      uri ++ sp :: (protocol.toText ++ sp :: (status.toText ++ sp :: reason))

/-- The arguments that the checks of the three start functions let through. -/
def StartLine.Accepted : StartLine → Prop
  | .request uri method => method.isValid ∧ containsWhitespace uri = false
  | .reply _ reason => containsNewline reason = false
  | .report uri _ reason =>
      containsWhitespace uri = false ∧ containsNewline reason = false

instance : (startLine : StartLine) → Decidable startLine.Accepted
  | .request _ _ => inferInstanceAs (Decidable (_ ∧ _))
  | .reply _ reason => inferInstanceAs (Decidable (containsNewline reason = false))
  | .report _ _ _ => inferInstanceAs (Decidable (_ ∧ _))

/-- The headers that `writeHeader` lets through. -/
def HeaderAccepted (header : Bytes × Bytes) : Prop :=
  Plain header.1 ∧ colon ∉ header.1 ∧ Plain header.2

def headerLine (header : Bytes × Bytes) : Bytes := header.1 ++ colon :: header.2

/-- The header lines with the newline of the protocol. -/
def headerLines (protocol : MsgProtocol) (headers : List (Bytes × Bytes)) :
    List (Bytes × Bytes) :=
  headers.map fun header => (headerLine header, protocol.preferredNewline)

/-- Everything up to the empty line that closes the headers. -/
def headText (protocol : MsgProtocol) (startLine : StartLine)
    (headers : List (Bytes × Bytes)) : Bytes :=
  startLine.text protocol ++ (protocol.preferredNewline ++
    (joinLines (headerLines protocol headers) ++ protocol.preferredNewline))

/-- A new message, begun on a writer that holds none. -/
def begun (protocol : MsgProtocol) (bytes : Bytes) : MsgWriter :=
  { MsgWriter.new protocol with msg := some bytes }

theorem startMsg_eq (writer : MsgWriter) :
    writer.startMsg =
      if writer.msg.isSome then .throwMsg writer .alreadyWritten
      else .done (begun writer.protocol []) () := rfl

/-- The start functions in one equation: the writer is reset before the arguments
are checked, and keeps the empty message when the check fails. -/
theorem start_eq (writer : MsgWriter) (startLine : StartLine) :
    writer.start startLine =
      if writer.msg.isSome then .throwMsg writer .alreadyWritten
      else if startLine.Accepted then
        .done (begun writer.protocol (startLine.text writer.protocol ++
          writer.protocol.preferredNewline)) ()
      else .throwMsg (begun writer.protocol []) .startLineMalformed := by
  by_cases held : writer.msg.isSome
  · cases startLine <;>
      simp [start, startRequest, startReply, startReport, startMsg_eq, held,
        Outcome.andThen, Outcome.throwMsg, Outcome.throw]
  · cases startLine with
    | request uri method =>
        by_cases valid : method.isValid = true <;>
          by_cases blank : containsWhitespace uri = true <;>
          simp [start, startRequest, startMsg_eq, held, Outcome.andThen,
            Outcome.done, StartLine.Accepted, valid, blank, append, extend,
            begun, StartLine.text, MsgWriter.new]
    | reply status reason =>
        by_cases newline : containsNewline reason = true <;>
          simp [start, startReply, startMsg_eq, held, Outcome.andThen,
            Outcome.done, StartLine.Accepted, newline, append, extend,
            begun, StartLine.text, MsgWriter.new]
    | report uri status reason =>
        by_cases blank : containsWhitespace uri = true <;>
          by_cases newline : containsNewline reason = true <;>
          simp [start, startReport, startMsg_eq, held, Outcome.andThen,
            Outcome.done, StartLine.Accepted, blank, newline, append, extend,
            begun, StartLine.text, MsgWriter.new]

theorem start_done {writer next : MsgWriter} {startLine : StartLine}
    (returned : writer.start startLine = .done next ()) :
    writer.msg = none ∧ startLine.Accepted ∧
      next = begun writer.protocol (startLine.text writer.protocol ++
        writer.protocol.preferredNewline) := by
  rw [start_eq] at returned
  split_ifs at returned with held accepted
  · exact absurd returned Outcome.throwMsg_ne_done
  · refine ⟨by simpa using held, accepted, ?_⟩
    exact (Outcome.done_eq_done.mp returned).1.symm
  · exact absurd returned Outcome.throwMsg_ne_done

theorem writeHeader_done {writer next : MsgWriter} {name value bytes : Bytes}
    (held : writer.msg = some bytes)
    (returned : writer.writeHeader name value = .done next ()) :
    HeaderAccepted (name, value) ∧ next = { writer with
      msg := some (bytes ++ (headerLine (name, value) ++
        writer.protocol.preferredNewline)) } := by
  unfold writeHeader at returned
  split_ifs at returned with closed badName badValue
  · exact absurd returned Outcome.throwMsg_ne_done
  · exact absurd returned Outcome.throwMsg_ne_done
  · exact absurd returned Outcome.throwMsg_ne_done
  · have nameBytes : ∀ byte ∈ name, byte ≠ cr ∧ byte ≠ lf ∧ byte ≠ colon := by
      intro byte member
      have allowed := List.any_eq_false.mp (Bool.eq_false_iff.mpr badName) byte
        member
      simp only [Bool.or_eq_true, decide_eq_true_eq, not_or] at allowed
      exact ⟨allowed.1.1, allowed.1.2, allowed.2⟩
    refine ⟨⟨fun byte member => ?_, fun member => ?_, ?_⟩, ?_⟩
    · exact ⟨(nameBytes byte member).1, (nameBytes byte member).2.1⟩
    · exact (nameBytes colon member).2.2 rfl
    · exact plain_of_containsNewline (by simpa using badValue)
    · rw [append_held held] at returned
      rw [← (Outcome.done_eq_done.mp returned).1]
      simp [headerLine]

theorem writeHeaders_done {headers : List (Bytes × Bytes)} :
    {writer next : MsgWriter} → {bytes : Bytes} → writer.msg = some bytes →
    writer.writeHeaders headers = .done next () →
    (∀ header ∈ headers, HeaderAccepted header) ∧ next = { writer with
      msg := some (bytes ++ joinLines (headerLines writer.protocol headers)) } := by
  induction headers with
  | nil =>
      intro writer next bytes held returned
      refine ⟨by simp, ?_⟩
      rw [← (Outcome.done_eq_done.mp returned).1]
      simp [headerLines, ← held]
  | cons header headers ih =>
      intro writer next bytes held returned
      obtain ⟨name, value⟩ := header
      obtain ⟨middle, _, first, later⟩ := Outcome.andThen_eq_done.mp returned
      obtain ⟨accepted, rfl⟩ := writeHeader_done held first
      obtain ⟨acceptedLater, rfl⟩ := ih rfl later
      refine ⟨List.forall_mem_cons.mpr ⟨accepted, acceptedLater⟩, ?_⟩
      simp [headerLines]

/-! ## Framing -/

theorem writeHeader_of_accepted {header : Bytes × Bytes}
    (accepted : HeaderAccepted header) (writer : MsgWriter) :
    writer.writeHeader header.1 header.2 =
      if writer.msg.isNone || decide (writer.layout.pBody ≠ 0) then
        .throwMsg writer .alreadyWritten
      else
        writer.append (headerLine header ++ writer.protocol.preferredNewline) := by
  obtain ⟨namePlain, noColon, valuePlain⟩ := accepted
  have nameBytes : (header.1.any fun byte => decide (byte = cr) ||
      decide (byte = lf) || decide (byte = colon)) = false := by
    rw [List.any_eq_false]
    intro byte member
    have notColon : byte ≠ colon := fun equal => noColon (equal ▸ member)
    simp [namePlain byte member, notColon]
  have valueBytes : containsNewline header.2 = false := by
    rw [containsNewline, List.any_eq_false]
    intro byte member
    simp [valuePlain byte member]
  simp [writeHeader, nameBytes, valueBytes, headerLine]

/-- Headers that are accepted one by one are written while the headers are open. -/
theorem writeHeaders_of_accepted {headers : List (Bytes × Bytes)}
    (accepted : ∀ header ∈ headers, HeaderAccepted header) :
    {writer : MsgWriter} → {bytes : Bytes} → writer.msg = some bytes →
    writer.layout.pBody = 0 →
    writer.writeHeaders headers = .done { writer with
      msg := some (bytes ++ joinLines (headerLines writer.protocol headers)) } () := by
  induction headers with
  | nil =>
      intro writer bytes held _
      obtain ⟨protocol, msg, layout, lengthOffset, lengthSize⟩ := writer
      cases held
      simp [writeHeaders, headerLines, joinLines]
  | cons header headers ih =>
      intro writer bytes held openHead
      obtain ⟨first, others⟩ := List.forall_mem_cons.mp accepted
      have written := writeHeader_of_accepted first writer
      rw [if_neg (by simp [held, openHead]), append_held held] at written
      have rest := @ih others { writer with
        msg := some (bytes ++ (headerLine header ++ writer.protocol.preferredNewline)) } _
        rfl openHead
      rw [writeHeaders, written, Outcome.done_andThen, rest]
      simp [headerLines, joinLines]

theorem StartLine.text_plain (protocol : MsgProtocol) {startLine : StartLine}
    (accepted : startLine.Accepted) : Plain (startLine.text protocol) := by
  have protocolPlain := protocol.toText_plain
  have spPlain : sp ≠ cr ∧ sp ≠ lf := by decide
  cases startLine with
  | request uri method =>
      have methodPlain := (Method.toText_shape accepted.1).2.1
      have uriPlain := (word_of_containsWhitespace accepted.2).2
      simp [StartLine.text, protocolPlain, methodPlain, uriPlain, spPlain]
  | reply status reason =>
      have statusPlain := status.toText_shape.2.2
      have reasonPlain := plain_of_containsNewline accepted
      simp [StartLine.text, protocolPlain, statusPlain, reasonPlain, spPlain]
  | report uri status reason =>
      have uriPlain := (word_of_containsWhitespace accepted.1).2
      have statusPlain := status.toText_shape.2.2
      have reasonPlain := plain_of_containsNewline accepted.2
      simp [StartLine.text, protocolPlain, uriPlain, statusPlain, reasonPlain,
        spPlain]

/-- A composed head, followed by any body, is framed as it was written. -/
theorem framed_headText {protocol : MsgProtocol} {startLine : StartLine}
    {headers : List (Bytes × Bytes)} (plain : Plain (startLine.text protocol))
    (accepted : ∀ header ∈ headers, HeaderAccepted header) (body : Bytes) :
    Framed (headText protocol startLine headers ++ body)
      (startLine.text protocol) protocol.preferredNewline
      (headerLines protocol headers) protocol.preferredNewline body := by
  have newline := protocol.preferredNewline_cases
  have colonPlain : colon ≠ cr ∧ colon ≠ lf := by decide
  have lines : ∀ text ∈ headers.map headerLine, text ≠ [] ∧ Plain text := by
    intro text member
    obtain ⟨header, headerMember, rfl⟩ := List.mem_map.mp member
    obtain ⟨namePlain, _, valuePlain⟩ := accepted header headerMember
    simp [headerLine, namePlain, valuePlain, colonPlain]
  constructor
  · have lineAt := LineAt.of_newline plain newline
      (joinLines (headerLines protocol headers) ++
        (protocol.preferredNewline ++ body))
    simpa [headText] using lineAt
  · have block := Block.of_newline newline body (headers.map headerLine) lines
    simpa [headerLines, Function.comp_def] using block

section Parsing

variable {protocol : MsgProtocol} {startLine : StartLine}
variable {headers : List (Bytes × Bytes)} {layout : MsgLayout}

/-- The body does not take part in the parse: the head and the whole message have
the same layout. -/
theorem parseMsg_headText_append (plain : Plain (startLine.text protocol))
    (accepted : ∀ header ∈ headers, HeaderAccepted header) {requested : MsgType}
    (parsed : parseMsg .reset (headText protocol startLine headers) requested =
      .done layout) (body : Bytes) :
    parseMsg .reset (headText protocol startLine headers ++ body) requested =
      .done layout := by
  have framedHead := framed_headText plain accepted []
  rw [List.append_nil] at framedHead
  have fits := framedHead.fits (show (parseMsg .reset
    (headText protocol startLine headers) requested).thrown = none by
      rw [parsed]; rfl)
  rw [(framed_headText plain accepted body).parseMsg_eq _ _ fits, ← parsed,
    framedHead.parseMsg_eq _ _ fits]

/-- Headers and body read back whatever the start line is, and whatever type the
reader asked for. -/
theorem view_headText (plain : Plain (startLine.text protocol))
    (accepted : ∀ header ∈ headers, HeaderAccepted header) {body : Bytes}
    {requested : MsgType}
    (parsed : parseMsg .reset (headText protocol startLine headers ++ body)
      requested = .done layout) :
    let view := MsgView.mk (headText protocol startLine headers ++ body) layout
    view.headers.map MsgHeaderView.toPair =
        headers.map (fun header => (header.1, trim isBlank header.2)) ∧
      view.bodyString = body := by
  have framed := framed_headText plain accepted body
  have described := framed.described parsed
  refine ⟨?_, framed.bodyString_eq described⟩
  rw [framed.headers_toPair described, headerLines, List.map_map]
  refine List.map_congr_left fun header member => ?_
  obtain ⟨namePlain, noColon, _⟩ := accepted header member
  exact headerOf_colon namePlain noColon

/-- The headers are closed once the head has been parsed. -/
theorem pBody_headText_ne_zero (plain : Plain (startLine.text protocol))
    (accepted : ∀ header ∈ headers, HeaderAccepted header) {requested : MsgType}
    (parsed : parseMsg .reset (headText protocol startLine headers) requested =
      .done layout) : layout.pBody ≠ 0 := by
  have framed := framed_headText plain accepted []
  rw [List.append_nil] at framed
  intro zero
  have total := (framed.described parsed).pBody
  have blank := List.length_pos_of_ne_nil framed.block.blank_ne_nil
  simp only [zero, UInt16.toNat_zero, Framed.bodyPos] at total
  omega

/-- A composed message is the head that was written and the body, and it is
accepted by the parser. -/
theorem compose_done {body : Bytes} {released : Option Bytes}
    (returned : (compose protocol startLine headers body).result =
      .ok released) :
    startLine.Accepted ∧ (∀ header ∈ headers, HeaderAccepted header) ∧
      released = some (headText protocol startLine headers ++ body) ∧
      ∃ layout, parseMsg .reset (headText protocol startLine headers ++ body)
        .unknown = .done layout := by
  have whole : compose protocol startLine headers body =
      .done (compose protocol startLine headers body).writer released := by
    rw [Outcome.done, ← returned]
  unfold compose at whole
  obtain ⟨started, _, startDone, whole⟩ := Outcome.andThen_eq_done.mp whole
  obtain ⟨_, lineAccepted, rfl⟩ := start_done startDone
  obtain ⟨headed, _, headersDone, whole⟩ := Outcome.andThen_eq_done.mp whole
  obtain ⟨headersAccepted, rfl⟩ := writeHeaders_done rfl headersDone
  obtain ⟨bodied, _, bodyDone, whole⟩ := Outcome.andThen_eq_done.mp whole
  have plain := StartLine.text_plain protocol lineAccepted
  have headEq : startLine.text protocol ++ protocol.preferredNewline ++
      joinLines (headerLines protocol headers) ++ protocol.preferredNewline =
        headText protocol startLine headers := by
    simp [headText]
  simp only [writeBody, autoCloseHeaders, begun, MsgWriter.new, MsgLayout.reset,
    if_true, headEq] at bodyDone
  cases parsed : parseMsg .reset (headText protocol startLine headers)
      .unknown with
  | mk layout thrown =>
      simp only [MsgLayout.reset] at parsed
      rw [parsed] at bodyDone
      cases thrown with
      | some exception =>
          simp [Outcome.throw, Outcome.done] at bodyDone
      | none =>
          refine ⟨lineAccepted, headersAccepted, ?_, layout,
            parseMsg_headText_append plain headersAccepted parsed body⟩
          have positive := pBody_headText_ne_zero plain headersAccepted parsed
          obtain rfl := (Outcome.mk.inj bodyDone).1
          simp only [release, autoCloseHeaders, extend, positive, if_false,
            Outcome.andThen, Outcome.done, Option.map_some] at whole
          simpa using (Outcome.mk.inj whole).2.symm

theorem start_of_accepted (protocol : MsgProtocol) (accepted : startLine.Accepted) :
    (MsgWriter.new protocol).start startLine =
      .done (begun protocol (startLine.text protocol ++ protocol.preferredNewline))
        () := by
  rw [start_eq, if_neg (by simp [MsgWriter.new]), if_pos accepted]
  rfl

/-- The headers close when the parser accepts the head. -/
theorem autoCloseHeaders_of_parsed
    (parsed : parseMsg .reset (headText protocol startLine headers) .unknown =
      .done layout) :
    (begun protocol (startLine.text protocol ++ protocol.preferredNewline ++
      joinLines (headerLines protocol headers))).autoCloseHeaders = .done
        { begun protocol (headText protocol startLine headers) with
          layout := layout } () := by
  have head : startLine.text protocol ++ protocol.preferredNewline ++
      joinLines (headerLines protocol headers) ++ protocol.preferredNewline =
        headText protocol startLine headers := by
    simp [headText]
  simp only [autoCloseHeaders, begun, MsgWriter.new, MsgLayout.reset, if_true, head]
    at parsed ⊢
  rw [parsed]
  rfl

/-- What comes after the start line and the headers runs on a writer that holds
them. -/
theorem written_head {α : Type} (accepted : startLine.Accepted)
    (headersAccepted : ∀ header ∈ headers, HeaderAccepted header)
    (next : MsgWriter → Unit → Outcome α) :
    (((MsgWriter.new protocol).start startLine).andThen fun writer _ =>
      (writer.writeHeaders headers).andThen next) =
        next (begun protocol (startLine.text protocol ++ protocol.preferredNewline ++
          joinLines (headerLines protocol headers))) () := by
  have headed := @writeHeaders_of_accepted _ headersAccepted
    (begun protocol (startLine.text protocol ++ protocol.preferredNewline)) _ rfl rfl
  rw [start_of_accepted protocol accepted]
  simp only [Outcome.andThen, Outcome.done, headed]
  rfl

/-- A message without a length header is released as it is. -/
theorem release_unsized {bytes : Bytes} (closed : layout.pBody ≠ 0) :
    ({ begun protocol bytes with layout := layout }).release.result =
      .ok (some bytes) := by
  simp [release, autoCloseHeaders, begun, MsgWriter.new, closed, Outcome.andThen,
    Outcome.done]

/-- Conversely, when the parser accepts the head alone, any body is composed. -/
theorem compose_of_parsed (accepted : startLine.Accepted)
    (headersAccepted : ∀ header ∈ headers, HeaderAccepted header)
    (parsed : parseMsg .reset (headText protocol startLine headers) .unknown =
      .done layout) (body : Bytes) :
    (compose protocol startLine headers body).result =
      .ok (some (headText protocol startLine headers ++ body)) := by
  have closed := pBody_headText_ne_zero (StartLine.text_plain protocol accepted)
    headersAccepted parsed
  rw [compose, written_head accepted headersAccepted]
  simp only [writeBody, autoCloseHeaders_of_parsed parsed, Outcome.andThen, Outcome.done]
  exact release_unsized closed

/-- Without a body, `release` closes the headers. -/
theorem release_of_parsed (accepted : startLine.Accepted)
    (headersAccepted : ∀ header ∈ headers, HeaderAccepted header)
    (parsed : parseMsg .reset (headText protocol startLine headers) .unknown =
      .done layout) :
    (((MsgWriter.new protocol).start startLine).andThen fun writer _ =>
      (writer.writeHeaders headers).andThen fun writer _ => writer.release).result =
        .ok (some (headText protocol startLine headers)) := by
  rw [written_head accepted headersAccepted, release, autoCloseHeaders_of_parsed parsed]
  rfl

end Parsing

/-! ## Classification of composed start lines -/

section Classification

variable {protocol : MsgProtocol} {method : Method} {status : Status}
variable {uri reason : Bytes}

theorem requestWords_text (valid : protocol.isValid)
    (accepted : (StartLine.request uri method).Accepted) :
    RequestWords ((StartLine.request uri method).text protocol) method.toText uri
      (some protocol.toText) :=
  ⟨rfl, (Method.toText_shape accepted.1).1, (word_of_containsWhitespace accepted.2).1,
    (MsgProtocol.toText_shape valid).1⟩

theorem lineParts_request (valid : protocol.isValid)
    (accepted : (StartLine.request uri method).Accepted) :
    lineParts ((StartLine.request uri method).text protocol) =
      [⟨0, method.toText⟩, ⟨method.toText.length + 1, uri⟩,
        ⟨method.toText.length + 1 + uri.length + 1, protocol.toText⟩] :=
  have words := requestWords_text valid accepted
  lineParts_three words.methodWord words.uriWord words.protocolWord

theorem detectType_request (valid : protocol.isValid)
    (accepted : (StartLine.request uri method).Accepted) :
    detectType .unknown (lineParts ((StartLine.request uri method).text protocol)) =
      .request := by
  simp [lineParts_request valid accepted, detectType, partText,
    MsgProtocol.parse_toText valid, valid]

theorem lineParts_report (valid : protocol.isValid)
    (accepted : (StartLine.report uri status reason).Accepted) :
    lineParts ((StartLine.report uri status reason).text protocol) =
      [⟨0, uri⟩, ⟨uri.length + 1, protocol.toText⟩,
        ⟨uri.length + 1 + protocol.toText.length + 1, status.toText⟩,
        ⟨uri.length + 1 + protocol.toText.length + 1 + status.toText.length + 1,
          reason⟩] :=
  lineParts_four (word_of_containsWhitespace accepted.1).1
    (MsgProtocol.toText_shape valid).1 status.toText_shape.2.1

theorem detectType_report (valid : protocol.isValid)
    (accepted : (StartLine.report uri status reason).Accepted) :
    detectType .unknown
      (lineParts ((StartLine.report uri status reason).text protocol)) =
        .report := by
  simp [lineParts_report valid accepted, detectType, partText,
    status.isValid_parse_toText, MsgProtocol.parse_toText valid, valid]

/-- The bytes before the first space. -/
def firstWord (text : Bytes) : Bytes :=
  text.takeWhile fun byte => decide (byte ≠ sp)

/-- The names of the protocols that a message can have. -/
def protocolNames : List Bytes :=
  [ascii "Tell/0", ascii "HTTP/1.0", ascii "HTTP/1.1"]

theorem isValid_parse_iff (text : Bytes) :
    (MsgProtocol.parse text).isValid ↔ text ∈ protocolNames := by
  constructor
  · intro valid
    rw [MsgProtocol.isValid_parse valid]
    generalize MsgProtocol.parse text = protocol at valid
    cases protocol <;> revert valid <;> decide
  · intro member
    simp only [protocolNames, List.mem_cons, List.not_mem_nil, or_false] at member
    rcases member with rfl | rfl | rfl <;> decide

/-- The parts of a reply: the reason is one part, or its first word and the rest
are two. -/
theorem lineParts_reply (valid : protocol.isValid) (status : Status)
    (reason : Bytes) :
    ∃ rest, lineParts ((StartLine.reply status reason).text protocol) =
        ⟨0, protocol.toText⟩ :: ⟨protocol.toText.length + 1, status.toText⟩ ::
          ⟨protocol.toText.length + 1 + status.toText.length + 1,
            firstWord reason⟩ :: rest ∧
      (rest = [] ↔ sp ∉ reason) := by
  have protocolWord := (MsgProtocol.toText_shape valid).1
  have statusWord := status.toText_shape.2.1
  rcases word_cases reason with single | ⟨word, after, rfl, wordSingle⟩
  · refine ⟨[], ?_, by simp [single]⟩
    rw [firstWord, takeWhile_last single]
    exact lineParts_three protocolWord statusWord single
  · have parts := @lineParts_four _ _ _ after protocolWord statusWord wordSingle
    rw [firstWord, takeWhile_word wordSingle]
    exact ⟨_, parts, by simp⟩

/-- A reply is recognised as one unless its reason begins with the name of a
protocol, which is then taken for the protocol of a request. -/
theorem detectType_reply (valid : protocol.isValid) (status : Status)
    (reason : Bytes) :
    detectType .unknown
        (lineParts ((StartLine.reply status reason).text protocol)) =
      if (MsgProtocol.parse (firstWord reason)).isValid then .request
      else .reply := by
  have slashIn := (MsgProtocol.toText_shape valid).2.2.1
  obtain ⟨rest, parts, _⟩ := lineParts_reply valid status reason
  simp [parts, detectType, partText, status.isValid_parse_toText, slashIn]

end Classification

end MsgWriter

end Telling.Msg
