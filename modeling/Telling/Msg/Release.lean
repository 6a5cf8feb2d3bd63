import Telling.Msg.Session

/-!
# What a writer releases

A rule for sessions: a property of closed messages that is established whenever
headers are closed, and kept by everything that is written afterwards, gives a
property of every message that is released.  It is used twice, for the
acceptance of released messages by the parser and for the bytes of their bodies.
-/

namespace Telling.Msg.MsgWriter

open Lib

/-- A property of a closed message: the writer, what `writeBody` was given, and
the parts of the text. -/
abbrev ClosedProperty :=
  MsgWriter → (written line : Bytes) → (headers : List Bytes) → (body : Bytes) → Prop

/-- The premises of the rule.  Calls are made under `condition`, and the start lines they
write have the property `beginning`.  `close`, `body` and `length` say that the property
holds of closed messages throughout, and `release` what it gives for the message that is
released. -/
structure ReleaseRule (condition : MsgWriter → Call → Prop) (beginning : Bytes → Prop)
    (property : ClosedProperty) (good : Release → Prop) : Prop where
  start : ∀ writer startLine, condition writer (.start startLine) →
    startLine.Accepted → beginning (startLine.text writer.protocol)
  close : ∀ writer bytes line headers, Closed writer bytes line headers [] →
    (writer.lengthSize ≠ 0 → HeadSlot writer line headers) → beginning line →
    property writer [] line headers []
  body : ∀ writer written line headers body data,
    property writer written line headers body →
    property (writer.extend data) (written ++ data) line headers (body ++ data)
  length : ∀ writer written bytes line headers body (maxLength : UInt64),
    condition writer (.length maxLength) → writer.lengthSize = 0 →
    writer.msg = some bytes → Closed writer bytes line headers body →
    property writer written line headers body →
    property { writer with
        msg := some (bytes ++ (lengthLine (numDigits maxLength.toNat) ++
          writer.protocol.preferredNewline))
        lengthOffset := UInt16.ofNat (bytes ++ lengthName).length
        lengthSize := UInt16.ofNat (numDigits maxLength.toNat) }
      written line headers (body ++ (lengthLine (numDigits maxLength.toNat) ++
        writer.protocol.preferredNewline))
  release : ∀ writer written bytes line headers body message,
    writer.msg = some bytes → Closed writer bytes line headers body →
    property writer written line headers body →
    writer.release.result = .ok (some message) →
    good ⟨message, writer.layout.pBody, written⟩

/-- The shape of a writer during a session, with a property of the start lines and one of
closed messages. -/
structure Shaped (beginning : Bytes → Prop) (property : ClosedProperty)
    (writer : MsgWriter) (written : Bytes) : Prop where
  idle : writer.msg = none → writer.lengthSize = 0
  opened : ∀ bytes, writer.msg = some bytes → writer.layout.pBody = 0 →
    written = [] ∧ Opened beginning writer bytes
  closed : ∀ bytes, writer.msg = some bytes → writer.layout.pBody ≠ 0 →
    ∃ line headers body, Closed writer bytes line headers body ∧
      property writer written line headers body

namespace Shaped

variable {condition : MsgWriter → Call → Prop} {beginning : Bytes → Prop}
variable {property : ClosedProperty} {good : Release → Prop}
variable {writer : MsgWriter} {written : Bytes}

theorem of_none (empty : writer.msg = none) (unsized : writer.lengthSize = 0) :
    Shaped beginning property writer written where
  idle := fun _ => unsized
  opened := by simp [empty]
  closed := by simp [empty]

/-- A message that was just begun. -/
theorem begin (protocol : MsgProtocol) {line : Bytes} (plain : Plain line)
    (begins : beginning line) :
    Shaped beginning property (begun protocol (line ++ protocol.preferredNewline)) [] where
  idle := fun _ => rfl
  opened := by
    intro bytes held _
    obtain rfl := Option.some.inj held
    refine ⟨rfl, .inl ⟨line, [], ⟨?_, plain, by simp, fun sized => absurd rfl sized⟩,
      begins⟩⟩
    rw [joinWith_cons, joinWith_nil, List.append_nil]
    rfl
  closed := fun _ _ closed => absurd rfl closed

/-- One more line in the headers. -/
theorem line (shaped : Shaped beginning property writer written) {bytes text : Bytes}
    (held : writer.msg = some bytes) (openHead : writer.layout.pBody = 0)
    (header : text ≠ [] ∧ Plain text) {offset size : UInt16}
    (slot : ∀ line headers, Drafted writer bytes line headers → size ≠ 0 →
      HeadSlot { writer with lengthOffset := offset, lengthSize := size } line
        (headers ++ [text])) :
    Shaped beginning property { writer with
      msg := some (bytes ++ (text ++ writer.protocol.preferredNewline))
      lengthOffset := offset
      lengthSize := size } written where
  idle := by simp
  opened := by
    intro next heldNext _
    obtain rfl := Option.some.inj heldNext
    obtain ⟨unwritten, opened⟩ := shaped.opened bytes held openHead
    refine ⟨unwritten, ?_⟩
    rcases opened with ⟨line, headers, drafted, begins⟩ | overfull
    · exact .inl ⟨line, headers ++ [text],
        drafted.line rfl header (slot line headers drafted), begins⟩
    · exact .inr (overfull.append _)
  closed := fun _ _ closed => absurd openHead closed

/-- Whatever the headers are closed for, the writer keeps its shape. -/
theorem close (rule : ReleaseRule condition beginning property good)
    (shaped : Shaped beginning property writer written) :
    Shaped beginning property writer.autoCloseHeaders.writer written := by
  by_cases openHead : writer.layout.pBody = 0
  · cases held : writer.msg with
    | none =>
        have unchanged : writer.autoCloseHeaders =
            .throwMsg writer .alreadyWritten := by
          simp [autoCloseHeaders, openHead, held]
        rw [unchanged]
        exact shaped
    | some bytes =>
        obtain ⟨unwritten, opened⟩ := shaped.opened bytes held openHead
        have closedEq := autoCloseHeaders_eq held openHead
        cases afterClose held openHead opened with
        | overfull unset _ stays =>
            refine ⟨by simp [closedEq], ?_, fun _ _ set => absurd unset set⟩
            intro next heldNext _
            rw [closedEq] at heldNext ⊢
            obtain rfl := Option.some.inj heldNext
            exact ⟨unwritten, .inr stays⟩
        | @closed line headers closed slot begins admitted =>
            refine ⟨by simp [closedEq], fun _ _ unset =>
              absurd unset closed.pBody_ne_zero, ?_⟩
            intro next heldNext _
            rw [closedEq] at heldNext
            obtain rfl := Option.some.inj heldNext
            refine ⟨line, headers, [], closed, ?_⟩
            rw [unwritten]
            exact rule.close _ _ line headers closed slot begins
  · rw [autoCloseHeaders_closed openHead]
    exact shaped

theorem extend (rule : ReleaseRule condition beginning property good)
    (shaped : Shaped beginning property writer written)
    (closed : writer.layout.pBody ≠ 0) (data : Bytes) :
    Shaped beginning property (writer.extend data) (written ++ data) where
  idle := by
    intro empty
    apply shaped.idle
    simpa [MsgWriter.extend] using empty
  opened := fun _ _ unset => absurd unset closed
  closed := by
    intro next heldNext _
    cases held : writer.msg with
    | none => simp [MsgWriter.extend, held] at heldNext
    | some bytes =>
        obtain ⟨line, headers, body, closedText, holds⟩ :=
          shaped.closed bytes held closed
        have nextEq : bytes ++ data = next := by
          simpa [MsgWriter.extend, held] using heldNext
        refine ⟨line, headers, body ++ data, ⟨?_, closedText.plain,
          closedText.headerLines, closedText.pBody⟩,
          rule.body writer written line headers body data holds⟩
        rw [← nextEq, closedText.text, withNewline_append]
        rfl

end Shaped

/-! ## One call -/

theorem writeHeader_cases (writer : MsgWriter) (name value : Bytes) :
    (∃ error, writer.writeHeader name value = .throwMsg writer error) ∨
      ∃ bytes, writer.msg = some bytes ∧ writer.layout.pBody = 0 ∧
        HeaderAccepted (name, value) ∧
        writer.writeHeader name value = .done { writer with
          msg := some (bytes ++ (headerLine (name, value) ++
            writer.protocol.preferredNewline)) } () := by
  by_cases shut : (writer.msg.isNone || decide (writer.layout.pBody ≠ 0)) = true
  · exact .inl ⟨.alreadyWritten, by rw [MsgWriter.writeHeader, if_pos shut]⟩
  cases held : writer.msg with
  | none => simp [held] at shut
  | some bytes =>
      have openHead : writer.layout.pBody = 0 := by simpa [held] using shut
      cases outcome : writer.writeHeader name value with
      | mk next result =>
          cases result with
          | ok value =>
              obtain ⟨accepted, rfl⟩ := writeHeader_done held outcome
              exact .inr ⟨bytes, rfl, openHead, accepted, rfl⟩
          | error error =>
              left
              rw [MsgWriter.writeHeader, if_neg shut] at outcome
              split_ifs at outcome
              · exact ⟨.headerMalformed, outcome.symm⟩
              · exact ⟨.headerMalformed, outcome.symm⟩
              · rw [append_held held] at outcome
                simp [Outcome.done] at outcome

theorem writeHeaderLength_eq {writer : MsgWriter} {bytes : Bytes}
    (held : writer.msg = some bytes) (unsized : writer.lengthSize = 0)
    (maxLength : Nat) :
    writer.writeHeaderLength maxLength = .done { writer with
      msg := some (bytes ++ (lengthLine (numDigits maxLength) ++
        writer.protocol.preferredNewline))
      lengthOffset := UInt16.ofNat (bytes ++ lengthName).length
      lengthSize := UInt16.ofNat (numDigits maxLength) } () := by
  simp [writeHeaderLength, unsized, append, extend, held, lengthLine, lengthName,
    Outcome.done, Outcome.andThen]

theorem writeHeaderLength_cases (writer : MsgWriter) (maxLength : Nat) :
    (writer.lengthSize ≠ 0 ∧ writer.writeHeaderLength maxLength = .throw writer
      (.nng .nospc (ascii "Content-Length header allocation"))) ∨
    (writer.lengthSize = 0 ∧ writer.msg = none ∧
      writer.writeHeaderLength maxLength = .throw writer .terminate) ∨
    ∃ bytes, writer.lengthSize = 0 ∧ writer.msg = some bytes ∧
      writer.writeHeaderLength maxLength = .done { writer with
        msg := some (bytes ++ (lengthLine (numDigits maxLength) ++
          writer.protocol.preferredNewline))
        lengthOffset := UInt16.ofNat (bytes ++ lengthName).length
        lengthSize := UInt16.ofNat (numDigits maxLength) } () := by
  by_cases sized : writer.lengthSize = 0
  · cases held : writer.msg with
    | none =>
        refine .inr (.inl ⟨sized, rfl, ?_⟩)
        simp [writeHeaderLength, sized, append, held, Outcome.andThen, Outcome.throw]
    | some bytes =>
        exact .inr (.inr ⟨bytes, sized, rfl, writeHeaderLength_eq held sized maxLength⟩)
  · refine .inl ⟨sized, ?_⟩
    simp [writeHeaderLength, sized]

theorem headerLine_plain {header : Bytes × Bytes} (accepted : HeaderAccepted header) :
    headerLine header ≠ [] ∧ Plain (headerLine header) := by
  have colonPlain : colon ≠ cr ∧ colon ≠ lf := by decide
  obtain ⟨namePlain, _, valuePlain⟩ := accepted
  simp [headerLine, namePlain, valuePlain, colonPlain]

namespace Shaped

variable {condition : MsgWriter → Call → Prop} {beginning : Bytes → Prop}
variable {property : ClosedProperty} {good : Release → Prop}
variable {writer : MsgWriter} {written : Bytes}

/-- A start that returns was made on a writer without a message, and begins a new one. -/
theorem start (rule : ReleaseRule condition beginning property good)
    {startLine : StartLine} (meets : condition writer (.start startLine))
    (continues : (writer.start startLine).result ≠ .error .terminate) :
    Shaped beginning property (writer.start startLine).writer [] ∧
      writer.msg.isNone := by
  rw [start_eq] at continues ⊢
  split_ifs at continues ⊢ with held accepted
  · exact absurd rfl continues
  · refine ⟨Shaped.begin writer.protocol (StartLine.text_plain writer.protocol accepted)
      (rule.start writer startLine meets accepted), ?_⟩
    simpa using held
  · exact absurd rfl continues

theorem writeHeader (shaped : Shaped beginning property writer written)
    (name value : Bytes) :
    Shaped beginning property (writer.writeHeader name value).writer written := by
  rcases writeHeader_cases writer name value with ⟨error, thrown⟩ |
      ⟨bytes, held, openHead, accepted, done⟩
  · rw [thrown]
    exact shaped
  · rw [done]
    apply shaped.line held openHead (headerLine_plain accepted)
    intro line headers drafted sized
    exact (drafted.slot sized).line _

theorem writeHeaderLength (rule : ReleaseRule condition beginning property good)
    (shaped : Shaped beginning property writer written) {maxLength : UInt64}
    (meets : condition writer (.length maxLength)) :
    Shaped beginning property (writer.writeHeaderLength maxLength.toNat).writer
      written := by
  rcases writeHeaderLength_cases writer maxLength.toNat with ⟨_, thrown⟩ |
      ⟨_, _, thrown⟩ | ⟨bytes, unsized, held, done⟩
  · rw [thrown]
    exact shaped
  · rw [thrown]
    exact shaped
  · rw [done]
    dsimp only [Outcome.done]
    have width : numDigits maxLength.toNat ≤ 20 := by
      apply numDigits_le
      exact maxLength.toNat_lt.trans (by decide)
    by_cases openHead : writer.layout.pBody = 0
    · apply shaped.line held openHead (lengthLine_plain (numDigits maxLength.toNat))
      intro line headers drafted _
      refine ⟨headers, _, [], rfl, numDigits_pos _, width, rfl, ?_⟩
      rw [drafted.text]
    · obtain ⟨line, headers, body, closed, holds⟩ :=
        shaped.closed bytes held openHead
      refine ⟨by simp, fun _ _ unset => absurd unset openHead, ?_⟩
      intro next heldNext _
      obtain rfl := Option.some.inj heldNext
      refine ⟨line, headers, _, ⟨?_, closed.plain, closed.headerLines, closed.pBody⟩,
        rule.length writer written bytes line headers body maxLength meets unsized
          held closed holds⟩
      rw [closed.text, withNewline_append]

theorem writeBody (rule : ReleaseRule condition beginning property good)
    (shaped : Shaped beginning property writer written) {data : Bytes}
    (continues : (writer.writeBody data).result ≠ .error .terminate) :
    (writer.writeBody data).result = .ok () ∧
      Shaped beginning property (writer.writeBody data).writer (written ++ data) := by
  have closing : writer.autoCloseHeaders.result = .ok () := by
    cases outcome : writer.autoCloseHeaders with
    | mk closed result =>
        cases result with
        | ok value => rfl
        | error error =>
            simp [MsgWriter.writeBody, outcome, Outcome.throw] at continues
  rw [writeBody_of_close closing] at continues ⊢
  unfold MsgWriter.append at continues ⊢
  split_ifs at continues ⊢ with held
  · exact ⟨rfl, (close rule shaped).extend rule (pBody_of_close closing) data⟩
  · exact absurd rfl continues

theorem reserveBodyBytes (rule : ReleaseRule condition beginning property good)
    (shaped : Shaped beginning property writer written) (capac : Nat) :
    Shaped beginning property (writer.reserveBodyBytes capac).writer written := by
  have sameWriter : (writer.reserveBodyBytes capac).writer =
      writer.autoCloseHeaders.writer := by
    unfold MsgWriter.reserveBodyBytes
    cases writer.autoCloseHeaders with
    | mk closed result =>
        cases result with
        | ok value =>
            simp only [Outcome.andThen]
            split_ifs <;> rfl
        | error error => rfl
  rw [sameWriter]
  exact close rule shaped

/-- `release` of a writer whose headers are closed either hands out the message
and leaves none, or throws and changes nothing. -/
theorem release_of_closed (rule : ReleaseRule condition beginning property good)
    (shaped : Shaped beginning property writer written)
    (closed : writer.layout.pBody ≠ 0) :
    Shaped beginning property writer.release.writer
      (match writer.release.result with
        | .ok _ => []
        | .error _ => written) ∧
    ∀ message, writer.release.result = .ok (some message) →
      good ⟨message, writer.release.writer.layout.pBody, written⟩ := by
  cases held : writer.msg with
  | none =>
      have outcome : writer.release = .done { writer with
          msg := none
          lengthOffset := 0
          lengthSize := 0 } none := by
        simp [MsgWriter.release, autoCloseHeaders_closed closed, shaped.idle held, held]
      rw [outcome]
      exact ⟨of_none rfl rfl, by simp [Outcome.done]⟩
  | some bytes =>
      obtain ⟨line, headers, body, closedText, holds⟩ :=
        shaped.closed bytes held closed
      have goodRelease := rule.release writer written bytes line headers body
      rw [release_closed held closedText] at goodRelease ⊢
      split_ifs at goodRelease ⊢ with unsized tooLong
      · exact ⟨of_none rfl rfl, fun message released =>
          goodRelease message held closedText holds released⟩
      · exact ⟨shaped, by simp [Outcome.throw]⟩
      · exact ⟨of_none rfl rfl, fun message released =>
          goodRelease message held closedText holds released⟩

theorem release (rule : ReleaseRule condition beginning property good)
    (shaped : Shaped beginning property writer written) :
    Shaped beginning property writer.release.writer
      (match writer.release.result with
        | .ok _ => []
        | .error _ => written) ∧
    ∀ message, writer.release.result = .ok (some message) →
      good ⟨message, writer.release.writer.layout.pBody, written⟩ := by
  have shapedClosed := close rule shaped
  cases returned : writer.autoCloseHeaders.result with
  | error error =>
      rw [release_of_failedClose returned]
      exact ⟨shapedClosed, by simp [Outcome.throw]⟩
  | ok value =>
      rw [release_of_close returned]
      exact release_of_closed rule shapedClosed (pBody_of_close returned)

/-- Every call that does not end the process keeps the shape. -/
theorem perform (rule : ReleaseRule condition beginning property good)
    {session : Session}
    (shaped : Shaped beginning property session.writer session.written) {call : Call}
    (meets : condition session.writer call)
    (continues : (session.writer.perform call).result ≠ .error .terminate) :
    Shaped beginning property (session.writer.perform call).writer
      (session.writtenAfter call (session.writer.perform call).result) := by
  cases call with
  | start startLine =>
      rw [MsgWriter.perform, ne_eq, Outcome.map_eq_error] at continues
      obtain ⟨begun, unoccupied⟩ := start rule meets continues
      rw [Session.writtenAfter, if_pos unoccupied]
      exact begun
  | header name value => exact shaped.writeHeader name value
  | allow methods => exact shaped.writeHeader _ _
  | length maxLength => exact shaped.writeHeaderLength rule meets
  | body data =>
      rw [MsgWriter.perform, ne_eq, Outcome.map_eq_error] at continues
      obtain ⟨returned, shapedNext⟩ := shaped.writeBody rule continues
      have value : (session.writer.perform (.body data)).result = .ok none := by
        simp [MsgWriter.perform, Outcome.map, returned, Except.map]
      rw [value]
      exact shapedNext
  | reserve capac => exact shaped.reserveBodyBytes rule _
  | release =>
      have released := (shaped.release rule).1
      simp only [MsgWriter.perform]
      cases result : session.writer.release.result with
      | ok value =>
          rw [result] at released
          exact released
      | error error =>
          rw [result] at released
          exact released

end Shaped

/-! ## Whole sessions -/

variable {condition : MsgWriter → Call → Prop} {beginning : Bytes → Prop}
variable {property : ClosedProperty} {good : Release → Prop}

/-- What holds of a session whose calls meet the condition of a rule. -/
structure Session.Kept (beginning : Bytes → Prop) (property : ClosedProperty)
    (good : Release → Prop) (session : Session) : Prop where
  shaped : Shaped beginning property session.writer session.written
  released : ∀ release ∈ session.released, good release

theorem Session.Kept.step (rule : ReleaseRule condition beginning property good)
    {session next : Session} (kept : Kept beginning property good session) {call : Call}
    (meets : condition session.writer call) (stepped : session.step call = some next) :
    Kept beginning property good next := by
  unfold Session.step at stepped
  split_ifs at stepped with ended
  obtain rfl := Option.some.inj stepped
  refine ⟨Shaped.perform rule kept.shaped meets ended, ?_⟩
  simp only [Session.releasedAfter]
  split
  · next message result =>
      intro release member
      rcases List.mem_append.mp member with earlier | last
      · exact kept.released release earlier
      · rw [List.mem_singleton.mp last]
        exact (kept.shaped.release rule).2 message result
  · exact kept.released

/-- The rule: in every session whose calls meet the condition, the writer keeps
its shape and every released message is good. -/
theorem ReleaseRule.reached (rule : ReleaseRule condition beginning property good)
    {protocol : MsgProtocol} {calls : List Call} {final : Session}
    (meets : Meets Session.step (fun session => condition session.writer)
      (.new protocol) calls)
    (reached : run Session.step (.new protocol) calls = some final) :
    final.Kept beginning property good :=
  invariant_of_run _ ⟨Shaped.of_none rfl rfl, by simp [Session.new]⟩
    (fun _ _ _ kept meets stepped => kept.step rule meets stepped) meets reached

end Telling.Msg.MsgWriter
