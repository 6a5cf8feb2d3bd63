import Telling.Msg.Session

/-!
# Writers that should be as good as new

Two writers are told apart by the results of the calls made on them.  Compared
here are a writer after a start that was refused with the same writer before it, and a
writer after `release` with a new one.  A refused start does not come back, and neither
does any other call but a start or `release` on a writer without a message.
-/

namespace Telling.Msg.MsgWriter

open Lib

/-! ## Comparing responses -/

theorem responses_cons_terminate {writer : MsgWriter} {call : Call}
    (ended : (writer.perform call).result = .error .terminate) (calls : List Call) :
    responses writer (call :: calls) = [.error .terminate] := by
  simp [responses, ended]

/-- Writers that answer the first call differently are told apart by it. -/
theorem responses_ne_of_result {left right : MsgWriter} {call : Call}
    (differ : (left.perform call).result ≠ (right.perform call).result)
    (calls : List Call) :
    responses left (call :: calls) ≠ responses right (call :: calls) := by
  intro same
  simp only [responses, List.cons.injEq] at same
  exact differ same.1

/-- A call with the same outcome on both writers leaves nothing to compare. -/
theorem responses_of_perform {left right : MsgWriter} {call : Call}
    (same : left.perform call = right.perform call) (calls : List Call) :
    responses left (call :: calls) = responses right (call :: calls) := by
  simp only [responses, same]

/-! ## Without a message -/

/-- The calls that a writer without a message can survive. -/
def Call.survivable : Call → Bool
  | .start _ | .release => true
  | _ => false

section Empty

variable {writer : MsgWriter} (empty : writer.msg = none)
include empty

theorem perform_start_empty (startLine : StartLine) :
    writer.perform (.start startLine) =
      if startLine.Accepted then
        .done (begun writer.protocol (startLine.text writer.protocol ++
          writer.protocol.preferredNewline)) none
      else .throw (begun writer.protocol []) .terminate := by
  rw [perform, start_eq, empty]
  simp only [Option.isSome_none, Bool.false_eq_true, if_false]
  split_ifs <;> rfl

theorem autoClose_empty :
    writer.autoCloseHeaders =
      if writer.layout.pBody = 0 then .throw writer .terminate else .done writer () := by
  by_cases unset : writer.layout.pBody = 0 <;>
    simp [autoCloseHeaders, empty, unset, Outcome.throwMsg]

/-- Whatever the headers are closed for, nothing can be done with a missing message. -/
theorem ends_empty (unsized : writer.lengthSize = 0) {call : Call}
    (fatal : call.survivable = false) :
    (writer.perform call).result = .error .terminate := by
  cases call with
  | start _ | release => simp [Call.survivable] at fatal
  | header name value => simp [perform, writeHeader, empty, Outcome.throwMsg, Outcome.throw]
  | allow methods =>
      simp [perform, writeHeaderAllow, writeHeader, empty, Outcome.throwMsg, Outcome.throw]
  | length maxLength =>
      simp [perform, writeHeaderLength, append, empty, unsized, Outcome.andThen,
        Outcome.throw]
  | body data =>
      by_cases unset : writer.layout.pBody = 0 <;>
        simp [perform, writeBody, autoClose_empty empty, unset, append, empty,
          Outcome.throw, Outcome.done]
  | reserve capac =>
      by_cases unset : writer.layout.pBody = 0 <;>
        simp [perform, reserveBodyBytes, autoClose_empty empty, unset, empty,
          Outcome.andThen, Outcome.throw, Outcome.done]

theorem perform_release_empty (unsized : writer.lengthSize = 0) :
    (writer.perform .release).result =
      if writer.layout.pBody = 0 then .error .terminate else .ok none := by
  by_cases unset : writer.layout.pBody = 0 <;>
    simp [perform, release, autoClose_empty empty, unset, unsized, empty,
      Outcome.andThen, Outcome.throw, Outcome.done]

end Empty

/-! ## After `release` -/

theorem autoCloseHeaders_protocol (writer : MsgWriter) :
    writer.autoCloseHeaders.writer.protocol = writer.protocol := by
  by_cases unset : writer.layout.pBody = 0
  · cases held : writer.msg with
    | none => simp [autoClose_empty held, unset, Outcome.throw]
    | some bytes => rw [autoCloseHeaders_eq held unset]
  · rw [autoCloseHeaders_closed unset]
    rfl

/-- What a successful `release` leaves: no message and no length header, but the
position of the last body. -/
theorem released_writer {writer : MsgWriter} {released : Option Bytes}
    (returned : writer.release.result = .ok released) :
    writer.release.writer.protocol = writer.protocol ∧
      writer.release.writer.msg = none ∧ writer.release.writer.lengthSize = 0 ∧
      writer.release.writer.layout.pBody ≠ 0 := by
  have protocolEq := autoCloseHeaders_protocol writer
  have outcome : writer.release = .done writer.release.writer released := by
    rw [Outcome.done, ← returned]
  unfold release at outcome
  obtain ⟨closed, _, closing, outcome⟩ := Outcome.andThen_eq_done.mp outcome
  have set := pBody_of_close (show writer.autoCloseHeaders.result = .ok () by
    rw [closing]; rfl)
  rw [closing] at set protocolEq
  have left : writer.release.writer =
      { closed with msg := none, lengthOffset := 0, lengthSize := 0 } := by
    split_ifs at outcome
    · cases held : closed.msg with
      | none => simp [held] at outcome
      | some bytes =>
          simp only [held] at outcome
          split_ifs at outcome
          · exact absurd outcome Outcome.throw_ne_done
          · exact (Outcome.done_eq_done.mp outcome).1.symm
    · exact (Outcome.done_eq_done.mp outcome).1.symm
  rw [left]
  exact ⟨protocolEq, rfl, rfl, set⟩

/-- `release` resets the writer but for the position of the body, and only another
`release` asks for it before a new start: a sequence of calls gives the same results as on
a new writer exactly when it does not begin with `release`. -/
theorem release_resets_iff (writer : MsgWriter) (released : Option Bytes)
    (returned : (writer.perform .release).result = .ok released)
    (calls : List Call) :
    responses (writer.perform .release).writer calls =
        responses (.new writer.protocol) calls ↔ calls.head? ≠ some .release := by
  obtain ⟨protocolEq, empty, unsized, set⟩ := released_writer returned
  rw [perform]
  generalize writer.release.writer = left at protocolEq empty unsized set
  have newEmpty : (MsgWriter.new writer.protocol).msg = none := rfl
  have newUnsized : (MsgWriter.new writer.protocol).lengthSize = 0 := rfl
  have newUnset : (MsgWriter.new writer.protocol).layout.pBody = 0 := rfl
  cases calls with
  | nil => exact iff_of_true rfl (by simp)
  | cons call calls =>
      cases survivable : call.survivable with
      | false =>
          refine iff_of_true ?_ ?_
          · rw [responses_cons_terminate (ends_empty empty unsized survivable),
              responses_cons_terminate (ends_empty newEmpty newUnsized survivable)]
          · rintro ⟨⟩
            contradiction
      | true =>
          cases call with
          | start startLine =>
              refine iff_of_true (responses_of_perform ?_ calls) (by simp)
              rw [perform_start_empty empty, perform_start_empty newEmpty, protocolEq]
              rfl
          | release =>
              refine iff_of_false (responses_ne_of_result ?_ calls) (by simp)
              rw [perform_release_empty empty unsized,
                perform_release_empty newEmpty newUnsized, if_neg set, if_pos newUnset]
              simp
          | _ => contradiction

/-- A writer that released a message takes a new start as if it were new. -/
theorem release_resets_start :
    responses ((begun .telling (ascii "Tell/0 200 OK\n")).perform .release).writer
        [.start (.request (ascii "/a") .get), .release, .release] =
      responses (.new .telling)
        [.start (.request (ascii "/a") .get), .release, .release] :=
  (release_resets_iff (begun .telling (ascii "Tell/0 200 OK\n"))
    (some (ascii "Tell/0 200 OK\n\n")) (by decide +kernel) _).mpr (by simp)

/-- A second `release` returns a null message where a new writer ends the process. -/
theorem release_twice :
    responses (.new .telling)
        [.start (.request (ascii "/a") .get), .release, .release] =
      [.ok none, .ok (some (ascii "GET /a Tell/0\n\n")), .ok none] ∧
    responses (.new .telling) [.release] = [.error .terminate] := by
  decide +kernel

/-! ## After a refused start -/

/-- A start on a writer without a message returns, or ends the process.  So a refused
start is followed by what would have happened without it exactly when nothing would have
happened. -/
theorem failedStart_unnoticed_iff (writer : MsgWriter) (empty : writer.msg = none)
    (startLine : StartLine) (calls : List Call) :
    (writer.perform (.start startLine)).result =
        (if startLine.Accepted then .ok none else .error .terminate) ∧
      ((∀ error, (writer.perform (.start startLine)).result = .error error →
          (responses writer (.start startLine :: calls)).tail = responses writer calls) ↔
        startLine.Accepted ∨ calls = []) := by
  have result : (writer.perform (.start startLine)).result =
      if startLine.Accepted then .ok none else .error .terminate := by
    rw [perform_start_empty empty]
    split_ifs <;> rfl
  refine ⟨result, ?_⟩
  by_cases accepted : startLine.Accepted
  · refine iff_of_true ?_ (.inl accepted)
    intro error failed
    rw [result, if_pos accepted] at failed
    contradiction
  · rw [if_neg accepted] at result
    rw [responses_cons_terminate result, or_iff_right accepted]
    constructor
    · intro unnoticed
      cases calls with
      | nil => rfl
      | cons call calls => simpa [responses] using unnoticed .terminate result
    · rintro rfl error _
      rfl

/-- Nothing follows the refused start, and nothing would have followed. -/
theorem failedStart_unnoticed_last :
    ((MsgWriter.new .telling).perform (.start (.request (ascii "a b") .get))).result =
        .error .terminate ∧
      (responses (.new .telling) [.start (.request (ascii "a b") .get)]).tail =
        responses (.new .telling) [] := by
  obtain ⟨result, unnoticed⟩ :=
    failedStart_unnoticed_iff (.new .telling) rfl (.request (ascii "a b") .get) []
  rw [if_neg (by decide +kernel)] at result
  exact ⟨result, unnoticed.mpr (.inr rfl) .terminate result⟩

/-- After a start that is refused, the next one is not reached. -/
theorem failedStart_noticed :
    responses (.new .telling)
        [.start (.request (ascii "a b") .get), .start (.request (ascii "/a") .get)] =
      [.error .terminate] ∧
    responses (.new .telling) [.start (.request (ascii "/a") .get)] =
      [.ok none] := by
  decide +kernel

end Telling.Msg.MsgWriter
