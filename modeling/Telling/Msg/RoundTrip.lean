import Telling.Msg.Composed

/-!
# Composed messages read back

A message that was composed without an exception is framed the way the parser
expects, so the view of the released bytes has the headers and the body that were
written.  Requests and reports are also recognised with their start line; a reply
is, unless its reason-phrase is the name of a protocol.
-/

namespace Telling.Msg

open Lib

namespace MsgWriter

/-! ## Reading back -/

/-- The view has the type and the elements of the start line that was written. -/
def StartLine.ReadBy (protocol : MsgProtocol) (view : MsgView) :
    StartLine → Prop
  | .request uri method =>
      view.msgType = .request ∧ view.method = method ∧ view.uriString = uri ∧
        view.protocol = protocol
  | .reply status reason =>
      view.msgType = .reply ∧ view.protocol = protocol ∧ view.status = status ∧
        view.reason = reason
  | .report uri status reason =>
      view.msgType = .report ∧ view.uriString = uri ∧ view.protocol = protocol ∧
        view.status = status ∧ view.reason = reason

/-- What was released reads back, with an auto-detected type, as what was
written. -/
def RoundTrips (protocol : MsgProtocol) (startLine : StartLine)
    (headers : List (Bytes × Bytes)) (body : Bytes) (released : Option Bytes) :
    Prop :=
  ∃ bytes view, released = some bytes ∧
    MsgView.parse bytes .unknown = .ok view ∧
    startLine.ReadBy protocol view ∧
    view.headers.map MsgHeaderView.toPair =
      headers.map (fun header => (header.1, trim isBlank header.2)) ∧
    view.bodyString = body

section ReadBack

variable {protocol : MsgProtocol} {headers : List (Bytes × Bytes)}
variable {body : Bytes} {released : Option Bytes}

/-- Headers and body of a composed message read back whatever its start line is;
what is left is how the start line is classified. -/
theorem roundTrips_iff (startLine : StartLine)
    (returned : (compose protocol startLine headers body).result =
      .ok released) :
    startLine.Accepted ∧ ∃ msg layout,
      startLine.text protocol <+: msg ∧
      Described (startLine.text protocol) protocol.preferredNewline
        (headerLines protocol headers) protocol.preferredNewline .unknown
        layout ∧
      (RoundTrips protocol startLine headers body released ↔
        startLine.ReadBy protocol ⟨msg, layout⟩) := by
  obtain ⟨accepted, headersAccepted, rfl, layout, parsed⟩ := compose_done returned
  have plain := StartLine.text_plain protocol accepted
  have framed := framed_headText plain headersAccepted body
  have viewed : MsgView.parse (headText protocol startLine headers ++ body)
      .unknown = .ok ⟨headText protocol startLine headers ++ body, layout⟩ :=
    MsgView.parse_eq_ok.mpr ⟨rfl, parsed⟩
  refine ⟨accepted, headText protocol startLine headers ++ body, layout, ?_,
    framed.described parsed, ?_⟩
  · exact ⟨_, framed.startLine.split.symm⟩
  · constructor
    · rintro ⟨bytes, view, equal, parsedView, reads, _⟩
      obtain rfl := Option.some.inj equal
      rw [viewed] at parsedView
      obtain rfl := Except.ok.inj parsedView
      exact reads
    · intro reads
      exact ⟨_, _, rfl, viewed, reads, view_headText plain headersAccepted parsed⟩

end ReadBack

/-! ## Start lines -/

section StartLines

variable {protocol : MsgProtocol} {method : Method} {status : Status}
variable {uri reason eol blank msg : Bytes} {lines : List (Bytes × Bytes)}
variable {layout : MsgLayout}

/-- The type that is read back is the one that was detected. -/
theorem type_of_detected {line : Bytes} {type : MsgType} (nonempty : line ≠ [])
    (described : Described line eol lines blank .unknown layout)
    (detected : detectType .unknown (lineParts line) = type) :
    layout.type = type := by
  rw [described.type_eq_iff.mpr fun empty => nonempty empty.2, detected]

theorem readBy_request (valid : protocol.isValid)
    (accepted : (StartLine.request uri method).Accepted)
    (startsWith : (StartLine.request uri method).text protocol <+: msg)
    (described : Described ((StartLine.request uri method).text protocol) eol
      lines blank .unknown layout) :
    (StartLine.request uri method).ReadBy protocol ⟨msg, layout⟩ := by
  obtain ⟨_, _, slashIn, _⟩ := MsgProtocol.toText_shape valid
  have named : protocol.toText ≠ [] := List.ne_nil_of_mem slashIn
  have detected := detectType_request valid accepted
  have words := requestWords_text valid accepted
  obtain ⟨methodString, uriString, protocolString⟩ :=
    words.fields ⟨msg, layout⟩ detected startsWith described
  refine ⟨type_of_detected words.line_ne_nil described detected, ?_, ?_, ?_⟩
  · rw [MsgView.method, methodString, Method.parse_toText accepted.1]
  · rw [uriString]
    simp [named]
  · rw [MsgView.protocol, protocolString, Option.getD_some, MsgProtocol.parse_toText valid]

/-- What a message with the words around a status has been read as. -/
theorem readBy_statusWords {type : MsgType} {line : Bytes} (valid : protocol.isValid)
    (inRange : status.InRange)
    (words : StatusWords type line protocol.toText status.toText (some reason))
    (startsWith : line <+: msg)
    (described : Described line eol lines blank .unknown layout)
    (detected : detectType .unknown (lineParts line) = type) :
    (MsgView.mk msg layout).msgType = type ∧
      (MsgView.mk msg layout).protocol = protocol ∧
      (MsgView.mk msg layout).status = status ∧
      (MsgView.mk msg layout).reason = reason := by
  have nonempty : line ≠ [] := by
    cases words <;> simp
  have delimited := words.delimited ⟨msg, layout⟩ detected startsWith described
    status.toText_shape.1
  refine ⟨type_of_detected nonempty described detected, ?_, ?_, delimited.reason⟩
  · rw [MsgView.protocol, delimited.protocolString, MsgProtocol.parse_toText valid]
  · rw [MsgView.status, delimited.statusString, Status.parse_toText inRange]

theorem readBy_report (valid : protocol.isValid) (inRange : status.InRange)
    (accepted : (StartLine.report uri status reason).Accepted)
    (startsWith : (StartLine.report uri status reason).text protocol <+: msg)
    (described : Described ((StartLine.report uri status reason).text protocol)
      eol lines blank .unknown layout) :
    (StartLine.report uri status reason).ReadBy protocol ⟨msg, layout⟩ := by
  have detected := detectType_report valid accepted
  have words : StatusWords .report ((StartLine.report uri status reason).text protocol)
      protocol.toText status.toText (some reason) :=
    .report (some reason) (word_of_containsWhitespace accepted.1).1
      (MsgProtocol.toText_shape valid).1 status.toText_shape.2.1
  obtain ⟨typed, rest⟩ := readBy_statusWords valid inRange words startsWith described detected
  refine ⟨typed, ?_, rest⟩
  obtain ⟨slLen, _, uriPos, prtRpos, _⟩ := described.stores
  rw [detected, lineParts_report valid accepted] at uriPos prtRpos
  simp only [StartLine.text, startLineOffsets, partPos, fromRight,
    List.getElem?_cons_succ, List.getElem?_cons_zero, Option.map_some,
    List.length_append, List.length_cons] at slLen uriPos prtRpos
  obtain ⟨_, uriEq, _⟩ := MsgLayout.fields_eq described.ordered
  refine string_of_range [] uri _ startsWith ?_ ?_
  · simp only [uriEq, List.length_nil]
    omega
  · simp only [uriEq]
    split_ifs <;> omega

/-- A reply reads back once it is recognised as one. -/
theorem readBy_reply (valid : protocol.isValid) (inRange : status.InRange)
    (startsWith : (StartLine.reply status reason).text protocol <+: msg)
    (described : Described ((StartLine.reply status reason).text protocol) eol
      lines blank .unknown layout)
    (detected : detectType .unknown
      (lineParts ((StartLine.reply status reason).text protocol)) = .reply) :
    (StartLine.reply status reason).ReadBy protocol ⟨msg, layout⟩ := by
  have words : StatusWords .reply ((StartLine.reply status reason).text protocol)
      protocol.toText status.toText (some reason) :=
    .reply (some reason) (MsgProtocol.toText_shape valid).1 status.toText_shape.2.1
  exact readBy_statusWords valid inRange words startsWith described detected

/-- A reply that was parsed has no part after a protocol name, so it is taken for
a request exactly when its reason is the name of a protocol. -/
theorem detectType_parsed_reply (valid : protocol.isValid)
    (described : Described ((StartLine.reply status reason).text protocol) eol
      lines blank .unknown layout) :
    detectType .unknown
        (lineParts ((StartLine.reply status reason).text protocol)) =
      if (MsgProtocol.parse reason).isValid then .request else .reply := by
  obtain ⟨rest, parts, restEmpty⟩ := lineParts_reply valid status reason
  have detected := detectType_reply valid status reason
  rcases word_cases reason with single | ⟨word, after, rfl, wordSingle⟩
  · rw [detected, firstWord, takeWhile_last single]
  · have notName : (MsgProtocol.parse (word ++ sp :: after)).isValid = false := by
      by_contra named
      have named : (MsgProtocol.parse (word ++ sp :: after)).isValid := by
        simpa using named
      have blankFree := (MsgProtocol.toText_shape named).1
      rw [← MsgProtocol.isValid_parse named] at blankFree
      simp at blankFree
    -- A request has no fourth element, so the parser would have thrown.
    have wordNoProtocol :
        ¬(MsgProtocol.parse (firstWord (word ++ sp :: after))).isValid := by
      intro named
      have required := described.required
      rw [detected, if_pos named, parts] at required
      cases rest with
      | nil => simp at restEmpty
      | cons fourth rest => simp [Required, partPos] at required
    rw [detected, if_neg wordNoProtocol, notName]
    rfl

end StartLines

/-! ## The round trips -/

/-- Encode and decode of requests and reports: whatever was composed without an
exception reads back as it was written. -/
theorem compose_request_report_roundTrips (protocol : MsgProtocol)
    (valid : protocol.isValid) (headers : List (Bytes × Bytes)) (body : Bytes)
    (released : Option Bytes) :
    (∀ uri method,
      (compose protocol (.request uri method) headers body).result =
        .ok released →
      RoundTrips protocol (.request uri method) headers body released) ∧
    (∀ uri status reason, Status.InRange status →
      (compose protocol (.report uri status reason) headers body).result =
        .ok released →
      RoundTrips protocol (.report uri status reason) headers body
        released) := by
  constructor
  · intro uri method returned
    obtain ⟨accepted, msg, layout, startsWith, described, reads⟩ :=
      roundTrips_iff (.request uri method) returned
    exact reads.mpr (readBy_request valid accepted startsWith described)
  · intro uri status reason inRange returned
    obtain ⟨accepted, msg, layout, startsWith, described, reads⟩ :=
      roundTrips_iff (.report uri status reason) returned
    exact reads.mpr (readBy_report valid inRange accepted startsWith described)

/-- The round trip of a small request and a small report. -/
theorem compose_request_report_roundTrips_small :
    RoundTrips .telling (.request (ascii "/a") .get)
        [(ascii "X", ascii " 1 ")] (ascii "hi")
        (some (ascii "GET /a Tell/0\nX: 1 \n\nhi")) ∧
      RoundTrips .http11 (.report [] ⟨404⟩ (ascii "Not Found")) []
        (ascii "\n\n")
        (some (ascii " HTTP/1.1 404 Not Found\r\n\r\n\n\n")) :=
  ⟨(compose_request_report_roundTrips .telling (by decide)
      [(ascii "X", ascii " 1 ")] (ascii "hi") _).1 (ascii "/a") .get
      (by decide +kernel),
    (compose_request_report_roundTrips .http11 (by decide) [] (ascii "\n\n")
      _).2 [] ⟨404⟩ (ascii "Not Found") (by decide) (by decide +kernel)⟩

/-- Encode and decode of replies: a reply that was composed without an exception
reads back as it was written exactly when its reason is not a protocol name. -/
theorem compose_reply_roundTrips_iff (protocol : MsgProtocol)
    (valid : protocol.isValid) (status : Status) (inRange : status.InRange)
    (reason : Bytes) (headers : List (Bytes × Bytes)) (body : Bytes)
    (released : Option Bytes)
    (returned : (compose protocol (.reply status reason) headers body).result =
      .ok released) :
    RoundTrips protocol (.reply status reason) headers body released ↔
      reason ∉ protocolNames := by
  obtain ⟨_, msg, layout, startsWith, described, reads⟩ :=
    roundTrips_iff (.reply status reason) returned
  have detected := detectType_parsed_reply valid described
  rw [reads, ← isValid_parse_iff]
  by_cases named : (MsgProtocol.parse reason).isValid
  · rw [if_pos named] at detected
    refine ⟨fun readBack => ?_, fun unnamed => absurd named unnamed⟩
    have nonempty : (StartLine.reply status reason).text protocol ≠ [] := by
      simp [StartLine.text]
    have typed := type_of_detected nonempty described detected
    exact absurd (typed.symm.trans readBack.1) (by decide)
  · rw [if_neg named] at detected
    exact ⟨fun _ => named,
      fun _ => readBy_reply valid inRange startsWith described detected⟩

/-- A small reply with an ordinary reason. -/
theorem compose_reply_roundTrips_ok :
    RoundTrips .telling (.reply ⟨200⟩ (ascii "OK")) [] (ascii "hi")
      (some (ascii "Tell/0 200 OK\n\nhi")) :=
  (compose_reply_roundTrips_iff .telling (by decide) ⟨200⟩ (by decide)
    (ascii "OK") [] (ascii "hi") _ (by decide +kernel)).mpr (by decide)

/-- A reply whose reason is the name of the protocol is composed without an
exception and reads back as a request. -/
theorem compose_reply_protocolName :
    (compose .telling (.reply ⟨200⟩ (ascii "Tell/0")) [] []).result =
        .ok (some (ascii "Tell/0 200 Tell/0\n\n")) ∧
      ¬RoundTrips .telling (.reply ⟨200⟩ (ascii "Tell/0")) [] []
        (some (ascii "Tell/0 200 Tell/0\n\n")) := by
  refine ⟨by decide +kernel, ?_⟩
  rintro ⟨bytes, view, equal, parsed, reads, _⟩
  obtain rfl := Option.some.inj equal
  have asRequest : (MsgView.parse (ascii "Tell/0 200 Tell/0\n\n")
      .unknown).map MsgView.msgType = .ok .request := by decide +kernel
  rw [parsed] at asRequest
  have typed := reads.1
  rw [Except.ok.inj asRequest] at typed
  exact absurd typed (by decide)

end MsgWriter

end Telling.Msg
