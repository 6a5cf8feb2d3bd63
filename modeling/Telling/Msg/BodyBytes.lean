import Telling.Msg.Release

/-!
# Headers out of place

Once the headers of a message are closed, `writeHeader` and `writeHeader_Allow` end the
process, as every refusal of theirs does.  `writeHeader_Length` does not ask: it throws
when a length header has been written before, and otherwise writes into the body.
-/

namespace Telling.Msg.MsgWriter

open Lib

/-- The header calls that throw an exception: a second length header. -/
def HeaderRefused (writer : MsgWriter) : Call → Prop
  | .length _ => writer.lengthSize ≠ 0
  | _ => False

/-- A header is written while the headers are open, or refused. -/
def HeaderInPlace (writer : MsgWriter) (call : Call) : Prop :=
  call.writesHeader → writer.layout.pBody = 0 ∨ HeaderRefused writer call

instance (writer : MsgWriter) : (call : Call) → Decidable (HeaderRefused writer call)
  | .length _ => inferInstanceAs (Decidable (_ ≠ _))
  | .start _ | .header _ _ | .allow _ | .body _ | .reserve _ | .release =>
      inferInstanceAs (Decidable False)

instance (writer : MsgWriter) (call : Call) : Decidable (HeaderInPlace writer call) :=
  inferInstanceAs (Decidable (_ → _))

/-! ## One call -/

theorem writeHeader_closed {writer : MsgWriter} (closed : writer.layout.pBody ≠ 0)
    (name value : Bytes) :
    writer.writeHeader name value = .throw writer .terminate := by
  simp [writeHeader, closed, Outcome.throwMsg]

/-- A call in which the process ends throws nothing that could be caught. -/
theorem terminate_uncaught {α : Type} (writer : MsgWriter) :
    ¬∃ error, error ≠ WriterError.terminate ∧
      (Outcome.throw writer .terminate : Outcome α) = .throw writer error := by
  rintro ⟨error, survived, ended⟩
  exact survived (Outcome.throw_inj ended)

/-- After the close a header call throws and changes nothing exactly when it is a second
length header. -/
theorem headerCall_closed {writer : MsgWriter} (held : writer.msg.isSome)
    (closed : writer.layout.pBody ≠ 0) {call : Call} (header : call.writesHeader) :
    (∃ error, error ≠ .terminate ∧ writer.perform call = .throw writer error) ↔
      HeaderRefused writer call := by
  cases call with
  | header name value =>
      rw [perform, writeHeader_closed closed, Outcome.map_throw]
      exact iff_of_false (terminate_uncaught writer) id
  | allow methods =>
      rw [perform, writeHeaderAllow, writeHeader_closed closed, Outcome.map_throw]
      exact iff_of_false (terminate_uncaught writer) id
  | length maxLength =>
      rcases writeHeaderLength_cases writer maxLength.toNat with ⟨sized, thrown⟩ |
          ⟨_, empty, _⟩ | ⟨bytes, unsized, _, done⟩
      · refine iff_of_true ⟨_, ?_, by rw [perform, thrown, Outcome.map_throw]⟩ sized
        simp
      · simp [empty] at held
      · refine iff_of_false ?_ (not_not_intro unsized)
        rintro ⟨error, _, thrown⟩
        rw [perform, done, Outcome.map_done] at thrown
        exact Outcome.throw_ne_done thrown.symm
  | start _ | body _ | reserve _ | release => simp [Call.writesHeader] at header

/-! ## Bodies -/

theorem drop_withNewline (eol line : Bytes) (headers : List Bytes) (body : Bytes) :
    (withNewline eol line headers body).drop (withNewline eol line headers []).length =
      body := by
  have split := withNewline_append eol line headers [] body
  rw [List.nil_append] at split
  rw [← split, List.drop_left]

/-- The body holds what was written to it, and the length header is in the head. -/
def WrittenProperty : ClosedProperty := fun writer written line headers body =>
  body = written ∧ (writer.lengthSize ≠ 0 → HeadSlot writer line headers)

theorem writtenProperty_release {writer : MsgWriter} {written bytes line body : Bytes}
    {headers : List Bytes} {message : Bytes} (held : writer.msg = some bytes)
    (closed : Closed writer bytes line headers body)
    (holds : WrittenProperty writer written line headers body)
    (released : writer.release.result = .ok (some message)) :
    message.drop writer.layout.pBody.toNat = written := by
  obtain ⟨rfl, slots⟩ := holds
  rw [release_closed held closed] at released
  split_ifs at released with unsized tooLong
  · obtain rfl : bytes = message := by simpa [Outcome.done] using released
    rw [closed.pBody, closed.text]
    exact drop_withNewline _ _ _ _
  · simp [Outcome.throw] at released
  · obtain rfl : _ = message := Option.some.inj (Except.ok.inj released)
    obtain ⟨before, width, after, split, digitsFit, put⟩ :=
      (slots unsized).complete closed tooLong
    rw [put, closed.pBody, split, ← length_withNewline_filled digitsFit]
    exact drop_withNewline _ _ _ _

theorem writtenRule : ReleaseRule HeaderInPlace (fun _ => True) WrittenProperty
    (fun release => release.message.drop release.pBody.toNat = release.written) where
  start _ _ _ _ := trivial
  close _ _ _ _ _ slot _ := ⟨rfl, slot⟩
  body := by
    intro writer written line headers body data holds
    exact ⟨by rw [holds.1], holds.2⟩
  length := by
    intro writer written bytes line headers body maxLength meets unsized held closed
      holds
    rcases meets rfl with unset | sized
    · exact absurd unset closed.pBody_ne_zero
    · exact absurd unsized sized
  release := by
    intro writer written bytes line headers body message held closed holds released
    exact writtenProperty_release held closed holds released

/-- Headers out of place: in every state that a session reaches with its headers closed, a
header call throws and leaves the writer as it was exactly when it is a second length
header; and in a session whose headers are all in place the body of every released message
is what was written through `writeBody`. -/
theorem headers_after_close (protocol : MsgProtocol) (calls : List Call)
    (final : Session)
    (reached : run Session.step (.new protocol) calls = some final) :
    (final.writer.msg.isSome → final.writer.layout.pBody ≠ 0 →
      ∀ call : Call, call.writesHeader →
        ((∃ error, error ≠ .terminate ∧
            final.writer.perform call = .throw final.writer error) ↔
          HeaderRefused final.writer call)) ∧
    (Meets Session.step (fun session => HeaderInPlace session.writer)
        (.new protocol) calls →
      ∀ release ∈ final.released,
        release.message.drop release.pBody.toNat = release.written) :=
  ⟨fun held closed _ header => headerCall_closed held closed header,
    fun meets => (writtenRule.reached meets reached).released⟩

/-- A session that keeps its headers in place: the second length header is refused. -/
def orderlySession : List Call :=
  [.start (.request (ascii "/a") .get), .header (ascii "X") (ascii "1"), .length 99,
    .body (ascii "hi"), .length 9, .body (ascii "!"), .release]

/-- The orderly session releases the body that was written. -/
theorem headers_after_close_orderly :
    ∃ final, run Session.step (.new .telling) orderlySession = some final ∧
      final.released.map Release.message =
        [ascii "GET /a Tell/0\nX:1\nContent-Length:3 \n\nhi!"] ∧
      ∀ release ∈ final.released,
        release.message.drop release.pBody.toNat = release.written := by
  have computed : (run Session.step (.new .telling) orderlySession).map
      (fun final => final.released.map Release.message) =
        some [ascii "GET /a Tell/0\nX:1\nContent-Length:3 \n\nhi!"] := by
    decide +kernel
  obtain ⟨final, reached, released⟩ := Option.map_eq_some_iff.mp computed
  exact ⟨final, reached, released,
    (headers_after_close .telling orderlySession final reached).2 (by decide +kernel)⟩

/-- A length header after the body has begun returns normally and becomes part of
the body. -/
theorem headers_after_close_length :
    (run Session.step (.new .telling)
        [.start (.request (ascii "/a") .get), .body (ascii "hi")]).map
        (fun closed => (decide (closed.writer.layout.pBody ≠ 0),
          (closed.writer.perform (.length 99)).result)) =
      some (true, .ok none) ∧
    (run Session.step (.new .telling)
        [.start (.request (ascii "/a") .get), .body (ascii "hi"), .length 99,
          .release]).map
        (fun final => final.released.map fun release =>
          (release.message.drop release.pBody.toNat, release.written)) =
      some [(ascii "hiContent-Length:20\n", ascii "hi")] := by
  decide +kernel

end Telling.Msg.MsgWriter
