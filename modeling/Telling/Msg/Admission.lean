import Telling.Msg.LayoutSound

/-!
# Which messages are accepted

`_parse_msg` throws in many places.  Here its acceptance is put into one
condition: the message is framed, its head fits into 64 KiB, the start line ends
with LF, and the elements of the start line are within the limits for the type of
the message.
-/

namespace Telling.Msg

open Lib

/-! ## Start lines -/

/-- The check of the last elements: a status alone is three bytes wide, and with a
reason it is followed by at least a space. -/
def StatusFits (width : Nat) (reason : Option Nat) : Prop :=
  width = 0 ∨ if reason.isSome then 4 ≤ width else width = 3

/-- The start lines that `_setStartLine` lets through, by the positions of their
elements. -/
def Admitted (type : MsgType) (line : Bytes) (second third fourth : Option Nat) :
    Prop :=
  match type with
  | .unknown => False
  | .request =>
      fourth = none ∧ ∃ uri, second = some uri ∧ uri ≤ maxUriPos ∧
        ∀ protocol, third = some protocol → line.length - protocol ≤ maxPrtRpos
  | .reply =>
      ∃ status, second = some status ∧ line.length ≤ maxPrtRpos ∧
        line.length - status ≤ maxStsRpos ∧
        StatusFits (line.length - status) third
  | .report =>
      match second, third with
      | none, none => fourth = none
      | none, some _ => False
      | some protocol, none => line.length - protocol ≤ maxPrtRpos ∧ fourth = none
      | some protocol, some status =>
          line.length - protocol ≤ maxPrtRpos ∧
            line.length - status ≤ maxStsRpos ∧
            StatusFits (line.length - status) fourth

instance (width : Nat) (reason : Option Nat) : Decidable (StatusFits width reason) :=
  inferInstanceAs (Decidable (_ ∨ ite _ _ _))

instance (type : MsgType) (line : Bytes) (second third fourth : Option Nat) :
    Decidable (Admitted type line second third fourth) :=
  match type, second, third with
  | .unknown, _, _ => isFalse id
  | .request, none, _ | .reply, none, _ => isFalse (by simp [Admitted])
  | .request, some uri, none =>
      decidable_of_iff (fourth = none ∧ uri ≤ maxUriPos) (by simp [Admitted])
  | .request, some uri, some protocol =>
      decidable_of_iff (fourth = none ∧ uri ≤ maxUriPos ∧
        line.length - protocol ≤ maxPrtRpos) (by simp [Admitted])
  | .reply, some status, third =>
      decidable_of_iff (line.length ≤ maxPrtRpos ∧ line.length - status ≤ maxStsRpos ∧
        StatusFits (line.length - status) third) (by simp [Admitted])
  | .report, none, none => inferInstanceAs (Decidable (fourth = none))
  | .report, none, some _ => isFalse id
  | .report, some _, none | .report, some _, some _ =>
      inferInstanceAs (Decidable (_ ∧ _))

/-- A start line that the auto-detecting parser admits. -/
def LineAdmitted (line : Bytes) : Prop :=
  Admitted (detectType .unknown (lineParts line)) line
    (partPos (lineParts line) 1) (partPos (lineParts line) 2)
    (partPos (lineParts line) 3)

instance (line : Bytes) : Decidable (LineAdmitted line) :=
  inferInstanceAs (Decidable (Admitted _ _ _ _ _))

theorem LineAdmitted.ne_nil {line : Bytes} (admitted : LineAdmitted line) :
    line ≠ [] := by
  rintro rfl
  exact admitted

section Returns

variable {layout : MsgLayout} {line : Bytes}
variable {second third fourth : Option Nat}

theorem fail_thrown {error : MsgError} {excerpt : Bytes} :
    (Parsed.fail layout error excerpt).thrown ≠ none := by
  simp [Parsed.fail]

/-- A limit check lets the parser go on exactly when the value is within it. -/
theorem limit_returns {limit value : Nat} {error : MsgError} {excerpt : Bytes}
    {next : Parsed} :
    (if limit < value then Parsed.fail layout error excerpt else next).thrown =
        none ↔ value ≤ limit ∧ next.thrown = none := by
  split_ifs with far
  · exact iff_of_false fail_thrown fun within => absurd far (Nat.not_lt.mpr within.1)
  · simp [Nat.not_lt.mp far]

theorem verifyReason_returns {reason : Option Nat} :
    (verifyReason layout line reason).thrown = none ↔
      StatusFits layout.stsRpos.toNat reason := by
  have isThree : layout.stsRpos = 3 ↔ layout.stsRpos.toNat = 3 :=
    UInt8.toNat_inj.symm
  have isZero : layout.stsRpos = 0 ↔ layout.stsRpos.toNat = 0 :=
    UInt8.toNat_inj.symm
  have below : layout.stsRpos < 4 ↔ layout.stsRpos.toNat < 4 :=
    UInt8.lt_iff_toNat_lt
  unfold verifyReason StatusFits
  simp only [ne_eq, isZero, isThree, below]
  split_ifs <;> simp [Parsed.fail, Parsed.done] <;> omega

theorem setRequest_returns (thirdInside : Inside line third) :
    (setRequest layout line second third fourth).thrown = none ↔
      Admitted .request line second third fourth := by
  unfold setRequest Admitted
  cases second with
  | none => simp [fail_thrown]
  | some second =>
      cases fourth with
      | some fourth => simp [fail_thrown]
      | none =>
          rw [limit_returns]
          cases third with
          | none => simp [Parsed.done]
          | some third =>
              simp only [sizeT_sub (thirdInside third rfl), limit_returns]
              simp [Parsed.done]

theorem setReply_returns (secondInside : Inside line second) :
    (setReply layout line second third).thrown = none ↔
      Admitted .reply line second third fourth := by
  unfold setReply Admitted
  cases second with
  | none => simp [fail_thrown]
  | some second =>
      simp only [sizeT_sub (secondInside second rfl), limit_returns,
        verifyReason_returns, Option.some.injEq, exists_eq_left']
      refine and_congr_right fun _ => and_congr_right fun statusFits => ?_
      rw [toNat_ofNat_of_le (statusFits.trans (by decide))]

theorem setReport_returns (secondInside : Inside line second)
    (thirdInside : Inside line third) :
    (setReport layout line second third fourth).thrown = none ↔
      Admitted .report line second third fourth := by
  unfold setReport Admitted
  cases second with
  | none =>
      cases third with
      | some third => simp [fail_thrown]
      | none =>
          cases fourth with
          | some fourth => simp [fail_thrown]
          | none => simp [verifyReason_returns, StatusFits]
  | some second =>
      simp only [sizeT_sub (secondInside second rfl), limit_returns]
      cases third with
      | none =>
          refine and_congr_right fun _ => ?_
          cases fourth with
          | some fourth => simp [fail_thrown]
          | none => simp [verifyReason_returns, StatusFits]
      | some third =>
          simp only [sizeT_sub (thirdInside third rfl), limit_returns,
            verifyReason_returns]
          refine and_congr_right fun _ => and_congr_right fun statusFits => ?_
          rw [toNat_ofNat_of_le (statusFits.trans (by decide))]

/-- `_setStartLine` returns exactly for the lines that are admitted. -/
theorem setStartLine_returns {eol : Bytes} {type : MsgType} (plain : Plain line)
    (newline : eol = [lf] ∨ eol = [cr, lf]) (long : 2 ≤ (line ++ eol).length)
    (fits : line.length ≤ 65535)
    (secondInside : Inside line second) (thirdInside : Inside line third) :
    (setStartLine layout (line ++ eol) type second third fourth).thrown = none ↔
      Admitted type line second third fourth := by
  have guard : ¬((line ++ eol).length < 2 ∨ (line ++ eol).getLast? ≠ some lf) := by
    have ends : (line ++ eol).getLast? = some lf := by
      rcases newline with rfl | rfl <;> simp
    rw [not_or]
    exact ⟨Nat.not_lt.mpr long, not_not.mpr ends⟩
  simp only [setStartLine, if_neg guard, stripEol_append plain newline,
    if_neg (Nat.not_lt.mpr fits)]
  cases type with
  | unknown => simp [Admitted, fail_thrown]
  | request => exact setRequest_returns thirdInside
  | reply => exact setReply_returns secondInside
  | report => exact setReport_returns secondInside thirdInside

theorem verifyReason_layout {reason : Option Nat} :
    (verifyReason layout line reason).layout = layout := by
  unfold verifyReason
  split_ifs <;> rfl

/-- `_setStartLine` leaves the position of the body alone, also when it throws. -/
theorem setStartLine_pBody {lineWithEol : Bytes} {type : MsgType} :
    (setStartLine layout lineWithEol type second third fourth).layout.pBody =
      layout.pBody := by
  unfold setStartLine
  dsimp only
  split_ifs with guard tooLong
  · rfl
  · rfl
  · cases type with
    | unknown => rfl
    | request =>
        dsimp only [setRequest]
        repeat' split
        all_goals rfl
    | reply =>
        dsimp only [setReply]
        repeat' split
        all_goals first | rfl | rw [verifyReason_layout]
    | report =>
        dsimp only [setReport]
        repeat' split
        all_goals first | rfl | rw [verifyReason_layout]

end Returns

/-! ## Messages -/

namespace Framed

variable {msg line eol blank body : Bytes} {lines : List (Bytes × Bytes)}

/-- The exact acceptance condition for a framed message whose head fits. -/
theorem parseMsg_returns (framed : Framed msg line eol lines blank body)
    (layout : MsgLayout) (requested : MsgType)
    (newline : eol = [lf] ∨ eol = [cr, lf]) (long : 2 ≤ (line ++ eol).length) :
    (parseMsg layout msg requested).thrown = none ↔
      bodyPos line eol lines blank ≤ 65535 ∧
        Admitted (detectType requested (lineParts line)) line
          (partPos (lineParts line) 1) (partPos (lineParts line) 2)
          (partPos (lineParts line) 3) := by
  obtain ⟨secondIn, thirdIn⟩ := lineParts_positions line
  have admitted : bodyPos line eol lines blank ≤ 65535 →
      ((parseMsg layout msg requested).thrown = none ↔
        Admitted (detectType requested (lineParts line)) line
          (partPos (lineParts line) 1) (partPos (lineParts line) 2)
          (partPos (lineParts line) 3)) := by
    intro fits
    rw [framed.parseMsg_eq layout requested fits]
    apply setStartLine_returns framed.startLine.plain newline long
    · unfold bodyPos at fits
      omega
    · exact fun position given => (secondIn position given).2
    · exact fun position given => (thirdIn position given).elim fun _ rest => rest.2.2
  constructor
  · intro returned
    have fits := framed.fits returned
    exact ⟨fits, (admitted fits).mp returned⟩
  · rintro ⟨fits, within⟩
    exact (admitted fits).mpr within

/-- The parser accepts no start line that ends with a lone CR, and none of one
byte. -/
theorem startLine_terminated {layout : MsgLayout} {requested : MsgType}
    (framed : Framed msg line eol lines blank body)
    (returned : (parseMsg layout msg requested).thrown = none) :
    (eol = [lf] ∨ eol = [cr, lf]) ∧ 2 ≤ (line ++ eol).length := by
  rw [framed.parseMsg_eq layout requested (framed.fits returned)] at returned
  by_cases guard : (line ++ eol).length < 2 ∨ (line ++ eol).getLast? ≠ some lf
  · simp only [setStartLine, if_pos guard] at returned
    exact absurd returned fail_thrown
  · rw [not_or, not_not, Nat.not_lt] at guard
    refine ⟨?_, guard.1⟩
    rcases framed.startLine.newline with equal | equal | ⟨equal, _⟩
    · exact .inl equal
    · exact .inr equal
    · rw [equal, List.getLast?_concat] at guard
      exact absurd guard.2 (by decide)

/-- The checks that an accepted message has passed. -/
theorem admitted_of_parse {requested : MsgType} {view : MsgView}
    (framed : Framed msg line eol lines blank body)
    (accepted : MsgView.parse msg requested = .ok view) :
    (eol = [lf] ∨ eol = [cr, lf]) ∧ 2 ≤ (line ++ eol).length ∧
      bodyPos line eol lines blank ≤ 65535 ∧
      Admitted (detectType requested (lineParts line)) line
        (partPos (lineParts line) 1) (partPos (lineParts line) 2)
        (partPos (lineParts line) 3) := by
  have returned := MsgView.parse_returns.mp ⟨view, accepted⟩
  obtain ⟨newline, long⟩ := framed.startLine_terminated returned
  exact ⟨newline, long, (framed.parseMsg_returns .reset requested newline long).mp returned⟩

/-- The auto-detecting parser accepts no empty start line, so that the length of
the line with its newline needs no mention. -/
theorem parseMsg_unknown_returns (framed : Framed msg line eol lines blank body)
    (layout : MsgLayout) (newline : eol = [lf] ∨ eol = [cr, lf]) :
    (parseMsg layout msg .unknown).thrown = none ↔
      bodyPos line eol lines blank ≤ 65535 ∧ LineAdmitted line := by
  by_cases empty : line = []
  · apply iff_of_false
    · intro returned
      have parsed : parseMsg layout msg .unknown =
          .done (parseMsg layout msg .unknown).layout := by
        rw [Parsed.done, ← returned]
      have required := (framed.described parsed).required
      simp [empty, lineParts, detectType, Required] at required
    · exact fun admitted => admitted.2.ne_nil empty
  · apply framed.parseMsg_returns layout .unknown newline
    have nonempty := List.length_pos_of_ne_nil empty
    have terminated := List.length_pos_of_ne_nil framed.startLine.eol_ne_nil
    rw [List.length_append]
    omega

/-- When the head fits, the position of the body is stored whether or not the
start line is then refused. -/
theorem parseMsg_pBody (framed : Framed msg line eol lines blank body)
    (layout : MsgLayout) (requested : MsgType)
    (fits : bodyPos line eol lines blank ≤ 65535) :
    (parseMsg layout msg requested).layout.pBody.toNat =
      bodyPos line eol lines blank := by
  rw [framed.parseMsg_eq layout requested fits, setStartLine_pBody]
  exact UInt16.toNat_ofNat_of_lt' (by simp only [UInt16.size]; omega)

/-- When the head does not fit, the parser throws before it stores anything. -/
theorem parseMsg_tooBig (framed : Framed msg line eol lines blank body)
    (layout : MsgLayout) (requested : MsgType)
    (tooBig : 65535 < bodyPos line eol lines blank) :
    (parseMsg layout msg requested).thrown ≠ none ∧
      (parseMsg layout msg requested).layout.pBody = 0 := by
  have total := framed.length_eq
  refine ⟨fun returned => absurd (framed.fits returned) (Nat.not_le.mpr tooBig), ?_⟩
  have msgNonempty : msg ≠ [] := by
    rintro rfl
    simp only [List.length_nil] at total
    omega
  have posEq : 65535 < msg.length - body.length := by omega
  simp only [parseMsg, msgNonempty, if_false, consumeLine_of_lineAt framed.startLine,
    headerLoop_of_block framed.block, posEq, if_true]
  split_ifs <;> rfl

end Framed

/-! ## What the parser throws -/

/-- The parser throws for incomplete, oversized and malformed heads only. -/
def Parsed.ThrowsForHead (parsed : Parsed) : Prop :=
  ∀ exception, parsed.thrown = some exception →
    exception.error = .headerIncomplete ∨ exception.error = .headerTooBig ∨
      exception.error = .startLineMalformed

namespace Parsed.ThrowsForHead

theorem done (layout : MsgLayout) : (Parsed.done layout).ThrowsForHead := by
  intro exception thrown
  contradiction

theorem fail (layout : MsgLayout) {error : MsgError} (excerpt : Bytes)
    (forHead : error = .headerIncomplete ∨ error = .headerTooBig ∨
      error = .startLineMalformed) : (Parsed.fail layout error excerpt).ThrowsForHead := by
  intro exception thrown
  obtain rfl := Option.some.inj thrown
  exact forHead

theorem verifyReason (layout : MsgLayout) (line : Bytes) (reason : Option Nat) :
    (verifyReason layout line reason).ThrowsForHead := by
  unfold Msg.verifyReason
  repeat' split
  all_goals first | exact done _ | exact fail _ _ (by simp)

theorem setRequest (layout : MsgLayout) (line : Bytes)
    (second third fourth : Option Nat) :
    (setRequest layout line second third fourth).ThrowsForHead := by
  simp only [Msg.setRequest]
  repeat' split
  all_goals first | exact done _ | exact fail _ _ (by simp)

theorem setReply (layout : MsgLayout) (line : Bytes) (second third : Option Nat) :
    (setReply layout line second third).ThrowsForHead := by
  simp only [Msg.setReply]
  repeat' split
  all_goals first | exact fail _ _ (by simp) | exact verifyReason _ _ _

theorem setReport (layout : MsgLayout) (line : Bytes)
    (second third fourth : Option Nat) :
    (setReport layout line second third fourth).ThrowsForHead := by
  simp only [Msg.setReport]
  repeat' split
  all_goals first | exact fail _ _ (by simp) | exact verifyReason _ _ _

theorem setStartLine (layout : MsgLayout) (lineWithEol : Bytes) (type : MsgType)
    (second third fourth : Option Nat) :
    (setStartLine layout lineWithEol type second third fourth).ThrowsForHead := by
  simp only [Msg.setStartLine]
  split
  · exact fail _ _ (by simp)
  · split
    · exact fail _ _ (by simp)
    · cases type with
      | unknown => exact fail _ _ (by simp)
      | request => exact setRequest _ _ _ _ _
      | reply => exact setReply _ _ _ _
      | report => exact setReport _ _ _ _ _

theorem parseMsg (layout : MsgLayout) (msg : Bytes) (requested : MsgType) :
    (parseMsg layout msg requested).ThrowsForHead := by
  simp only [Msg.parseMsg]
  repeat' split
  all_goals first | exact fail _ _ (by simp) | exact setStartLine _ _ _ _ _ _

end Parsed.ThrowsForHead

/-- A message that is not accepted is malformed, or its head is too large. -/
theorem MsgView.replyStatus_of_parse {msg : Bytes} {requested : MsgType}
    {exception : MsgException} (failed : MsgView.parse msg requested = .error exception) :
    exception.replyStatus = .badRequest ∨
      exception.replyStatus = .requestHeaderFieldsTooLarge := by
  have forHead := Parsed.ThrowsForHead.parseMsg .reset msg requested
  unfold MsgView.parse at failed
  cases parsed : parseMsg .reset msg requested with
  | mk layout thrown =>
      rw [parsed] at forHead failed
      cases thrown with
      | none => contradiction
      | some other =>
          obtain rfl := Except.error.inj failed
          rcases forHead other rfl with error | error | error
          · exact .inl (by rw [MsgException.replyStatus, error])
          · exact .inr (by rw [MsgException.replyStatus, error])
          · exact .inl (by rw [MsgException.replyStatus, error])

end Telling.Msg
