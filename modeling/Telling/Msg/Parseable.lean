import Telling.Msg.Release

/-!
# Released messages are parseable, if

A message that is released was parsed when its headers were closed, and what is
written afterwards does not reach its head.  There are two ways around this.  The
start functions check less than the parser, which stores the position of the body
before it refuses a start line, so that the next `release` finds the headers closed;
and a length header that is written behind 64 KiB of body is completed at an offset
that has wrapped around.
-/

namespace Telling.Msg.MsgWriter

open Lib

/-! ## Acceptance -/

/-- A text of the writer's form whose head fits is accepted exactly if its start line is
admitted. -/
theorem withNewline_accepted_iff {eol line : Bytes} {headers : List Bytes}
    (newline : eol = [lf] ∨ eol = [cr, lf]) (plain : Plain line)
    (headerLines : ∀ header ∈ headers, header ≠ [] ∧ Plain header)
    (fits : (withNewline eol line headers []).length ≤ 65535) (body : Bytes) :
    (∃ view, MsgView.parse (withNewline eol line headers body) .unknown = .ok view) ↔
      LineAdmitted line := by
  have framed := framed_withNewline newline plain headerLines body
  rw [MsgView.parse_returns, framed.parseMsg_unknown_returns _ newline,
    bodyPos_withNewline]
  exact and_iff_right fits

/-- The start lines that the parser will read.  For the three protocols this is a matter
of the reason; the names that are written for the other two are no protocols to the
parser, and it depends on all the words what the line is taken for. -/
def StartLine.Readable (protocol : MsgProtocol) (startLine : StartLine) : Prop :=
  if protocol.isValid then startLine.Closable
  else LineAdmitted (startLine.text protocol)

instance (protocol : MsgProtocol) (startLine : StartLine) :
    Decidable (startLine.Readable protocol) :=
  inferInstanceAs (Decidable (ite _ _ _))

theorem lineAdmitted_iff_readable (protocol : MsgProtocol) {startLine : StartLine}
    (accepted : startLine.Accepted) :
    LineAdmitted (startLine.text protocol) ↔ startLine.Readable protocol := by
  unfold StartLine.Readable
  split_ifs with valid
  · exact lineAdmitted_iff valid accepted
  · exact Iff.rfl

/-- The length header is written before the headers are closed, or at an offset
that does not wrap around into the head. -/
def LengthSound (writer : MsgWriter) : Prop :=
  writer.layout.pBody = 0 ∨ writer.lengthSize ≠ 0 ∨
    writer.layout.pBody.toNat ≤
      ((writer.msg.getD []).length + lengthName.length) % 65536

/-- The calls that keep released messages parseable. -/
def KeepsParseable (writer : MsgWriter) : Call → Prop
  | .start startLine => startLine.Readable writer.protocol
  | .length _ => LengthSound writer
  | _ => True

instance (writer : MsgWriter) : Decidable (LengthSound writer) :=
  inferInstanceAs (Decidable (_ ∨ _))

instance (writer : MsgWriter) : (call : Call) → Decidable (KeepsParseable writer call)
  | .start startLine => inferInstanceAs (Decidable (startLine.Readable writer.protocol))
  | .length _ => inferInstanceAs (Decidable (LengthSound writer))
  | .header _ _ | .allow _ | .body _ | .reserve _ | .release =>
      inferInstanceAs (Decidable True)

/-! ## Readable start lines -/

/-- The start line of a closed message was admitted, and the length header will be
completed behind it. -/
def AdmittedProperty : ClosedProperty := fun writer _ line headers body =>
  LineAdmitted line ∧ (writer.lengthSize ≠ 0 →
    HeadSlot writer line headers ∨ BodySlot writer body)

/-- The lines of a head stay lines of a head when the length header is completed. -/
theorem headerLines_filled {before after : List Bytes} {width : Nat}
    (headerLines : ∀ header ∈ before ++ lengthLine width :: after,
      header ≠ [] ∧ Plain header) (value : Nat) :
    ∀ header ∈ before ++ filledLine width value :: after,
      header ≠ [] ∧ Plain header := by
  intro header member
  simp only [List.mem_append, List.mem_cons] at member
  rcases member with earlier | rfl | later
  · exact headerLines header (by simp [earlier])
  · exact filledLine_plain width value
  · exact headerLines header (by simp [later])

section Released

variable {writer : MsgWriter} {written bytes line body : Bytes} {headers : List Bytes}

/-- What `release` does to a closed message leaves its start line as it was. -/
theorem released_text (held : writer.msg = some bytes)
    (closed : Closed writer bytes line headers body)
    (slots : writer.lengthSize ≠ 0 → HeadSlot writer line headers ∨ BodySlot writer body)
    {message : Bytes} (released : writer.release.result = .ok (some message)) :
    ∃ lines rest,
      message = withNewline writer.protocol.preferredNewline line lines rest ∧
      (∀ header ∈ lines, header ≠ [] ∧ Plain header) ∧
      (withNewline writer.protocol.preferredNewline line lines []).length ≤ 65535 := by
  have fits := closed.fits
  rw [release_closed held closed] at released
  split_ifs at released with unsized tooLong
  · obtain rfl : bytes = message := by simpa [Outcome.done] using released
    exact ⟨headers, body, closed.text, closed.headerLines, fits⟩
  · simp [Outcome.throw] at released
  · obtain rfl : _ = message := Option.some.inj (Except.ok.inj released)
    cases slots unsized with
    | inl slot =>
        obtain ⟨before, width, after, rfl, digitsFit, put⟩ := slot.complete closed tooLong
        rw [← length_withNewline_filled digitsFit] at fits
        exact ⟨_, body, put, headerLines_filled closed.headerLines body.length, fits⟩
    | inr slot =>
        obtain ⟨completed, put⟩ := slot.complete closed tooLong
        exact ⟨headers, completed, put, closed.headerLines, fits⟩

/-- So that it is accepted exactly if the start line is admitted. -/
theorem released_accepted_iff (held : writer.msg = some bytes)
    (closed : Closed writer bytes line headers body)
    (slots : writer.lengthSize ≠ 0 → HeadSlot writer line headers ∨ BodySlot writer body)
    {message : Bytes} (released : writer.release.result = .ok (some message)) :
    (∃ view, MsgView.parse message .unknown = .ok view) ↔ LineAdmitted line := by
  obtain ⟨lines, rest, rfl, headerLines, fits⟩ := released_text held closed slots released
  exact withNewline_accepted_iff writer.protocol.preferredNewline_cases closed.plain
    headerLines fits rest

end Released

theorem admittedRule : ReleaseRule KeepsParseable LineAdmitted AdmittedProperty
    (fun release => ∃ view, MsgView.parse release.message .unknown = .ok view) where
  start writer _ readable accepted :=
    (lineAdmitted_iff_readable writer.protocol accepted).mpr readable
  close _ _ _ _ _ slot begins := ⟨begins, fun sized => .inl (slot sized)⟩
  body := by
    intro writer written line headers body data holds
    refine ⟨holds.1, fun sized => ?_⟩
    rcases holds.2 sized with slot | slot
    · exact .inl slot
    · refine .inr ⟨slot.1, slot.2.trans ?_⟩
      simp [extend]
  length := by
    intro writer written bytes line headers body maxLength meets unsized held closed
      holds
    refine ⟨holds.1, fun _ => .inr ?_⟩
    rcases meets with unset | sized | behind
    · exact absurd unset closed.pBody_ne_zero
    · exact absurd unsized sized
    · have total : bytes.length = writer.layout.pBody.toNat + body.length := by
        rw [closed.text, closed.pBody]
        simp only [withNewline, List.length_append, List.length_nil]
        omega
      simp only [held, Option.getD_some] at behind
      simp only [BodySlot, UInt16.toNat_ofNat', List.length_append, lengthLine,
        List.length_replicate]
      omega
  release := by
    intro writer written bytes line headers body message held closed holds released
    exact (released_accepted_iff held closed holds.2 released).mpr holds.1

/-! ## Unreadable start lines -/

/-- The message is refused when it is released, and handed out at the second attempt
although no view accepts it. -/
def LeaksUnparseable (writer : MsgWriter) : Prop :=
  ∃ closed exception message, writer.perform .release = .throw closed (.msg exception) ∧
    (closed.perform .release).result = .ok (some message) ∧
    ¬∃ view, MsgView.parse message .unknown = .ok view

/-- A close that fails half-way leaves a message that is released next time. -/
theorem leaks_of_drafted {writer : MsgWriter} {bytes line : Bytes} {headers : List Bytes}
    (held : writer.msg = some bytes) (openHead : writer.layout.pBody = 0)
    (drafted : Drafted writer bytes line headers) (unreadable : ¬LineAdmitted line)
    (fits : bytes.length + writer.protocol.preferredNewline.length ≤ 65535) :
    LeaksUnparseable writer := by
  rw [← List.length_append, drafted.closedText] at fits
  obtain ⟨closed, slot, admitted⟩ := drafted.close held openHead fits
  obtain ⟨exception, failed⟩ := autoCloseHeaders_thrown held openHead
    (fun returned => unreadable (admitted.mp returned))
  have closedHeld : writer.autoCloseHeaders.writer.msg =
      some (bytes ++ writer.protocol.preferredNewline) := by
    rw [autoCloseHeaders_eq held openHead]
  obtain ⟨message, released⟩ :
      ∃ message, writer.autoCloseHeaders.writer.release.result = .ok (some message) := by
    rw [release_closed closedHeld closed]
    split_ifs with unsized tooLong
    · exact ⟨_, rfl⟩
    · -- The body is empty, and its length fits into any blanks.
      have positive : writer.autoCloseHeaders.writer.lengthSize.toNat ≠ 0 := by
        intro zero
        exact unsized (UInt16.toNat_inj.mp zero)
      have single : numDigits ([] : Bytes).length = 1 := by decide +kernel
      omega
    · exact ⟨_, rfl⟩
  refine ⟨_, exception, message, release_of_failedClose failed, released, ?_⟩
  rw [released_accepted_iff closedHeld closed (fun sized => .inl (slot sized)) released]
  exact unreadable

/-- The shapes of a session in which no start line is readable. -/
theorem unreadableRule : ReleaseRule
    (fun writer call => ∀ startLine, call = .start startLine →
      ¬LineAdmitted (startLine.text writer.protocol))
    (fun line => ¬LineAdmitted line) (fun _ _ _ _ _ => True) (fun _ => True) where
  start _ startLine unreadable _ := unreadable startLine rfl
  close _ _ _ _ _ _ _ := trivial
  body _ _ _ _ _ _ _ := trivial
  length _ _ _ _ _ _ _ _ _ _ _ _ := trivial
  release _ _ _ _ _ _ _ _ _ _ _ := trivial

/-- A header call keeps the message and the layout. -/
theorem perform_writesHeader (writer : MsgWriter) {call : Call}
    (header : call.writesHeader) :
    (writer.msg.isSome → (writer.perform call).writer.msg.isSome) ∧
      (writer.perform call).writer.layout = writer.layout := by
  have written (name value : Bytes) :
      (writer.msg.isSome → (writer.writeHeader name value).writer.msg.isSome) ∧
        (writer.writeHeader name value).writer.layout = writer.layout := by
    rcases writeHeader_cases writer name value with ⟨error, thrown⟩ | ⟨_, _, _, _, done⟩
    · rw [thrown]
      exact ⟨id, rfl⟩
    · rw [done]
      exact ⟨fun _ => rfl, rfl⟩
  cases call with
  | header name value => exact written name value
  | allow methods => exact written _ _
  | length maxLength =>
      rw [perform, Outcome.map_writer]
      rcases writeHeaderLength_cases writer maxLength.toNat with ⟨_, thrown⟩ |
          ⟨_, _, thrown⟩ | ⟨_, _, _, done⟩
      · rw [thrown]
        exact ⟨id, rfl⟩
      · rw [thrown]
        exact ⟨id, rfl⟩
      · rw [done]
        exact ⟨fun _ => rfl, rfl⟩
  | start _ | body _ | reserve _ | release => simp [Call.writesHeader] at header

/-- A session that writes the headers of a message with an unreadable start line. -/
structure Session.Unreadable (session : Session) : Prop extends
    Session.Kept (fun line => ¬LineAdmitted line) (fun _ _ _ _ _ => True) (fun _ => True)
      session where
  held : session.writer.msg.isSome
  openHead : session.writer.layout.pBody = 0

theorem unreadable_of_start {session next : Session} {startLine : StartLine}
    (unreadable : ¬startLine.Readable session.writer.protocol)
    (stepped : session.step (.start startLine) = some next) : next.Unreadable := by
  unfold Session.step at stepped
  split_ifs at stepped with ended
  obtain rfl := Option.some.inj stepped
  rw [perform, Outcome.map_eq_error, start_eq] at ended
  split_ifs at ended with held accepted
  · exact absurd rfl ended
  · have refused := mt (lineAdmitted_iff_readable session.writer.protocol accepted).mp
      unreadable
    have unoccupied : session.writer.msg.isNone := by simpa using held
    have begun : (session.writer.perform (.start startLine)).writer =
        begun session.writer.protocol (startLine.text session.writer.protocol ++
          session.writer.protocol.preferredNewline) := by
      rw [perform, Outcome.map_writer, start_eq, if_neg held, if_pos accepted]
      rfl
    refine ⟨⟨?_, fun _ _ => trivial⟩, ?_, ?_⟩
    · simp only [Session.writtenAfter, if_pos unoccupied, begun]
      exact Shaped.begin _ (StartLine.text_plain _ accepted) refused
    · rw [begun]
      rfl
    · rw [begun]
      rfl
  · exact absurd rfl ended

theorem Session.Unreadable.header {session next : Session} {call : Call}
    (unreadable : session.Unreadable) (header : call.writesHeader)
    (stepped : session.step call = some next) : next.Unreadable := by
  have meets : ∀ startLine, call = .start startLine →
      ¬LineAdmitted (startLine.text session.writer.protocol) := by
    rintro startLine rfl
    simp [Call.writesHeader] at header
  refine ⟨unreadable.toKept.step unreadableRule meets stepped, ?_, ?_⟩ <;>
    obtain ⟨holds, sameLayout⟩ := perform_writesHeader session.writer header <;>
    unfold Session.step at stepped <;>
    split_ifs at stepped with ended <;>
    obtain rfl := Option.some.inj stepped
  · exact holds unreadable.held
  · rw [sameLayout, unreadable.openHead]

theorem Session.Unreadable.leaks {session : Session} (unreadable : session.Unreadable)
    (fits : (session.writer.msg.getD []).length +
      session.writer.protocol.preferredNewline.length ≤ 65535) :
    LeaksUnparseable session.writer := by
  obtain ⟨bytes, held⟩ := Option.isSome_iff_exists.mp unreadable.held
  rw [held, Option.getD_some] at fits
  rcases (unreadable.shaped.opened bytes held unreadable.openHead).2 with
    ⟨line, lines, drafted, refused⟩ | overfull
  · exact leaks_of_drafted held unreadable.openHead drafted refused fits
  · have tooBig := overfull.length_gt
    omega

/-- A message with an unreadable start line and any headers that fit. -/
theorem leaks_of_unreadable {session opened : Session} {startLine : StartLine}
    {headers : List Call} (unreadable : ¬startLine.Readable session.writer.protocol)
    (onlyHeaders : ∀ call ∈ headers, call.writesHeader)
    (reached : run Session.step session (.start startLine :: headers) = some opened)
    (fits : (opened.writer.msg.getD []).length +
      opened.writer.protocol.preferredNewline.length ≤ 65535) :
    LeaksUnparseable opened.writer := by
  obtain ⟨started, stepped, reached⟩ := run_cons_eq_some.mp reached
  have meets : Meets Session.step (fun _ call => call.writesHeader) started headers :=
    meets_of_forall onlyHeaders
  have ends : opened.Unreadable :=
    invariant_of_run Session.Unreadable (unreadable_of_start unreadable stepped)
      (fun _ _ _ unreadable header stepped => unreadable.header header stepped) meets
      reached
  exact ends.leaks fits

/-! ## Whole sessions -/

/-- Every message that a writer releases is accepted by `MsgView`, in every session whose
start lines are readable and whose length headers are in place.  The condition on start
lines is sharp: a message that begins with an unreadable one and has any headers that fit
is refused by the first `release` and handed out by the second. -/
theorem released_parseable (protocol : MsgProtocol) (calls : List Call)
    (final : Session)
    (meets : Meets Session.step (fun session => KeepsParseable session.writer)
      (.new protocol) calls)
    (reached : run Session.step (.new protocol) calls = some final) :
    (∀ release ∈ final.released,
      ∃ view, MsgView.parse release.message .unknown = .ok view) ∧
    ∀ (startLine : StartLine) (headers : List Call) (opened : Session),
      ¬startLine.Readable final.writer.protocol →
      (∀ call ∈ headers, call.writesHeader) →
      run Session.step final (.start startLine :: headers) = some opened →
      (opened.writer.msg.getD []).length +
        opened.writer.protocol.preferredNewline.length ≤ 65535 →
      LeaksUnparseable opened.writer :=
  ⟨(admittedRule.reached meets reached).released,
    fun _ _ _ unreadable onlyHeaders opens fits =>
      leaks_of_unreadable unreadable onlyHeaders opens fits⟩

/-- A session with a length header and two releases. -/
def smallSession : List Call :=
  [.start (.reply ⟨200⟩ (ascii "OK")), .header (ascii "X") (ascii "1"), .length 99,
    .body (ascii "hi"), .release, .start (.request (ascii "/a") .get), .release]

/-- The messages of the small session are accepted.  A reply that goes on after a protocol
name would be handed out at the second attempt, also with a length header. -/
theorem released_parseable_small :
    ∃ final opened, run Session.step (.new .telling) smallSession = some final ∧
      final.released.map Release.message =
        [ascii "Tell/0 200 OK\nX:1\nContent-Length:2 \n\nhi",
          ascii "GET /a Tell/0\n\n"] ∧
      (∀ release ∈ final.released,
        ∃ view, MsgView.parse release.message .unknown = .ok view) ∧
      run Session.step final [.start (.reply ⟨200⟩ (ascii "Tell/0 x")), .length 99] =
        some opened ∧ LeaksUnparseable opened.writer := by
  have computed : (run Session.step (.new .telling) smallSession).map
      (fun final => (final.released.map Release.message, final.writer.protocol)) =
        some ([ascii "Tell/0 200 OK\nX:1\nContent-Length:2 \n\nhi",
          ascii "GET /a Tell/0\n\n"], .telling) := by
    decide +kernel
  have continued : (run Session.step (.new .telling) (smallSession ++
      [.start (.reply ⟨200⟩ (ascii "Tell/0 x")), .length 99])).map
        (fun opened => (opened.writer.msg, opened.writer.protocol)) =
      some (some (ascii "Tell/0 200 Tell/0 x\nContent-Length:  \n"), .telling) := by
    decide +kernel
  obtain ⟨final, reached, equal⟩ := Option.map_eq_some_iff.mp computed
  obtain ⟨released, protocol⟩ := Prod.mk.inj equal
  obtain ⟨opened, opens, shows⟩ := Option.map_eq_some_iff.mp continued
  obtain ⟨text, sameProtocol⟩ := Prod.mk.inj shows
  rw [run_append, reached, Option.bind_some] at opens
  obtain ⟨parseable, leaks⟩ :=
    released_parseable .telling smallSession final (by decide +kernel) reached
  refine ⟨final, opened, reached, released, parseable, opens, ?_⟩
  apply leaks (.reply ⟨200⟩ (ascii "Tell/0 x")) [.length 99] opened _ (by decide) opens
  · rw [text, sameProtocol]
    decide +kernel
  · rw [protocol]
    decide +kernel

/-- A reply whose reason goes on after a protocol name: the first `release` throws
and the second one returns a message that is not accepted. -/
theorem released_unparseable :
    (responses (.new .telling)
        [.start (.reply ⟨200⟩ (ascii "Tell/0 x")), .release, .release]).getLast? =
      some (.ok (some (ascii "Tell/0 200 Tell/0 x\n\n"))) ∧
    ¬∃ view, MsgView.parse (ascii "Tell/0 200 Tell/0 x\n\n") .unknown =
      .ok view := by
  refine ⟨by decide +kernel, ?_⟩
  rw [MsgView.parse_returns]
  decide +kernel

end Telling.Msg.MsgWriter
