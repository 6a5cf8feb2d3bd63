import Telling.Msg.Framing

/-!
# Soundness of the layout

Whatever bytes are parsed and whatever type is requested, a layout that the
parser returns describes the message: nothing stored in its narrow fields was
truncated, the accessors never subtract below zero, and the ranges they compute
are disjoint pieces of the start line in their textual order.
-/

namespace Telling.Msg

open Lib

/-! ## What `_setStartLine` stores -/

theorem stripEol_append {line eol : Bytes} (plain : Plain line)
    (newline : eol = [lf] ∨ eol = [cr, lf]) : stripEol (line ++ eol) = line := by
  rcases newline with rfl | rfl
  · have notCr : line.getLast? ≠ some cr := by
      intro last
      exact (plain cr (List.mem_of_getLast? last)).1 rfl
    simp [stripEol, notCr]
  · have split : line ++ [cr, lf] = (line ++ [cr]) ++ [lf] := by simp
    rw [stripEol, split, List.dropLast_concat]
    simp

/-- Positions in the start line before they are narrowed to 8 bits. -/
structure Offsets where
  uriPos : Int
  prtRpos : Int
  stsRpos : Int

/-- Distance of an element from the end of the line; an absent element has
distance zero. -/
def fromRight (line : Bytes) (position : Option Nat) : Int :=
  match position with
  | none => 0
  | some position => (line.length : Int) - position

/-- The positions that `_setStartLine` computes for each type. -/
def startLineOffsets (type : MsgType) (line : Bytes)
    (second third : Option Nat) : Offsets :=
  match type with
  | .unknown => ⟨0, 0, 0⟩
  | .request => ⟨(second.getD 0 : Nat), fromRight line third, 0⟩
  | .reply => ⟨0, line.length, fromRight line second⟩
  | .report => ⟨0, fromRight line second, fromRight line third⟩

/-- A layout holds the untruncated description of a start line. -/
structure Stores (layout : MsgLayout) (line eol : Bytes) (offsets : Offsets) :
    Prop where
  slLen : layout.slLen.toNat = line.length
  slNl : layout.slNl.toNat = eol.length
  uriPos : (layout.uriPos.toNat : Int) = offsets.uriPos
  prtRpos : (layout.prtRpos.toNat : Int) = offsets.prtRpos
  stsRpos : (layout.stsRpos.toNat : Int) = offsets.stsRpos

/-- Elements that a start line of the given type must have, and may not have. -/
def Required (type : MsgType) (second fourth : Option Nat) : Prop :=
  match type with
  | .unknown => False
  | .request => second.isSome ∧ fourth = none
  | .reply => second.isSome
  | .report => True

theorem toNat_ofNat_of_le {value : Nat} (small : value ≤ 149) :
    (UInt8.ofNat value).toNat = value :=
  UInt8.toNat_ofNat_of_lt' (by simp only [UInt8.size]; omega)

theorem verifyReason_done {layout result : MsgLayout} {line : Bytes}
    {reason : Option Nat}
    (returned : verifyReason layout line reason = .done result) :
    result = layout ∧
      (layout.stsRpos ≠ 0 → 3 ≤ layout.stsRpos.toNat) := by
  unfold verifyReason at returned
  split_ifs at returned with present given short bad
  · simp [Parsed.fail, Parsed.done] at returned
  · simp only [Parsed.done, Parsed.mk.injEq, and_true] at returned
    have four : 4 ≤ layout.stsRpos.toNat := by
      have bound : ¬layout.stsRpos.toNat < (4 : UInt8).toNat :=
        fun below => short (UInt8.lt_iff_toNat_lt.mpr below)
      simpa using bound
    exact ⟨returned.symm, fun _ => by omega⟩
  · simp [Parsed.fail, Parsed.done] at returned
  · simp only [Parsed.done, Parsed.mk.injEq, and_true] at returned
    have three : layout.stsRpos = 3 := by simpa using bad
    exact ⟨returned.symm, fun _ => by simp [three]⟩
  · simp only [Parsed.done, Parsed.mk.injEq, and_true] at returned
    exact ⟨returned.symm, fun nonzero => absurd nonzero (by simpa using present)⟩

@[simp] theorem fail_ne_done {layout result : MsgLayout} {error : MsgError}
    {excerpt : Bytes} : Parsed.fail layout error excerpt ≠ .done result := by
  simp [Parsed.fail, Parsed.done]

theorem done_inj {layout result : MsgLayout}
    (equal : Parsed.done layout = .done result) : layout = result := by
  simpa [Parsed.done] using equal

/-- The values that one case of the switch assigns to the three position fields,
on top of the fields that are already set. -/
structure Assigns (before after : MsgLayout) (offsets : Offsets) : Prop where
  pBody : after.pBody = before.pBody
  slLen : after.slLen = before.slLen
  slNl : after.slNl = before.slNl
  uriPos : (after.uriPos.toNat : Int) = offsets.uriPos
  prtRpos : (after.prtRpos.toNat : Int) = offsets.prtRpos
  stsRpos : (after.stsRpos.toNat : Int) = offsets.stsRpos
  statusWidth : after.stsRpos ≠ 0 → 3 ≤ after.stsRpos.toNat

section Cases

variable {layout result : MsgLayout} {line : Bytes}
variable {second third fourth : Option Nat}

/-- An optional element lies inside the line. -/
def Inside (line : Bytes) (position : Option Nat) : Prop :=
  ∀ value, position = some value → value ≤ line.length

theorem rpos_eq {position : Nat} (inside : position ≤ line.length)
    (fits : line.length - position ≤ 149) :
    ((UInt8.ofNat (sizeT ((line.length : Int) - position))).toNat : Int) =
      (line.length : Int) - position := by
  rw [sizeT_sub inside, toNat_ofNat_of_le fits]
  omega

theorem setRequest_assigns (thirdInside : Inside line third)
    (returned : setRequest layout line second third fourth = .done result) :
    (second.isSome ∧ fourth = none) ∧
      Assigns layout result (startLineOffsets .request line second third) := by
  unfold setRequest at returned
  cases second with
  | none => simp at returned
  | some second =>
      cases fourth with
      | some fourth => simp at returned
      | none =>
          simp only at returned
          by_cases uriFar : maxUriPos < second
          · simp [uriFar] at returned
          have uriEq : ((UInt8.ofNat second).toNat : Int) = second := by
            rw [toNat_ofNat_of_le]
            simp only [maxUriPos, maxMethodLength] at uriFar
            omega
          rw [if_neg uriFar] at returned
          cases third with
          | none =>
              obtain rfl := done_inj returned
              exact ⟨⟨rfl, rfl⟩, rfl, rfl, rfl, uriEq, rfl, rfl, by simp⟩
          | some third =>
              have inside := thirdInside third rfl
              simp only [sizeT_sub inside] at returned
              by_cases protocolFar : maxPrtRpos < line.length - third
              · simp [protocolFar] at returned
              rw [if_neg protocolFar, ← sizeT_sub inside] at returned
              obtain rfl := done_inj returned
              refine ⟨⟨rfl, rfl⟩, rfl, rfl, rfl, uriEq, rpos_eq inside ?_, rfl, by simp⟩
              exact Nat.not_lt.mp protocolFar

theorem setReply_assigns (secondInside : Inside line second)
    (returned : setReply layout line second third = .done result) :
    second.isSome ∧
      Assigns layout result (startLineOffsets .reply line second third) := by
  unfold setReply at returned
  cases second with
  | none => simp at returned
  | some second =>
      have inside := secondInside second rfl
      simp only [sizeT_sub inside] at returned
      by_cases lineFar : maxPrtRpos < line.length
      · simp [lineFar] at returned
      by_cases statusFar : maxStsRpos < line.length - second
      · simp [lineFar, statusFar] at returned
      have lineFits : line.length ≤ 149 := Nat.not_lt.mp lineFar
      rw [if_neg lineFar, if_neg statusFar, ← sizeT_sub inside] at returned
      obtain ⟨rfl, width⟩ := verifyReason_done returned
      refine ⟨rfl, rfl, rfl, rfl, rfl, ?_, rpos_eq inside (by omega), width⟩
      simp only [toNat_ofNat_of_le lineFits]
      rfl

theorem setReport_assigns (secondInside : Inside line second)
    (thirdInside : Inside line third)
    (returned : setReport layout line second third fourth = .done result) :
    Assigns layout result (startLineOffsets .report line second third) := by
  unfold setReport at returned
  cases second with
  | none =>
      cases third with
      | some third => simp at returned
      | none =>
          simp only at returned
          split at returned
          · simp at returned
          · obtain ⟨rfl, width⟩ := verifyReason_done returned
            exact ⟨rfl, rfl, rfl, rfl, rfl, rfl, width⟩
  | some second =>
      have secondIn := secondInside second rfl
      simp only [sizeT_sub secondIn] at returned
      by_cases protocolFar : maxPrtRpos < line.length - second
      · simp [protocolFar] at returned
      have protocolFits : line.length - second ≤ 149 := Nat.not_lt.mp protocolFar
      rw [if_neg protocolFar, ← sizeT_sub secondIn] at returned
      cases third with
      | none =>
          simp only at returned
          split at returned
          · simp at returned
          · obtain ⟨rfl, width⟩ := verifyReason_done returned
            exact ⟨rfl, rfl, rfl, rfl, rpos_eq secondIn protocolFits, rfl, width⟩
      | some third =>
          have thirdIn := thirdInside third rfl
          simp only at returned
          by_cases statusFar : maxStsRpos < sizeT ((line.length : Int) - third)
          · simp [statusFar] at returned
          rw [if_neg statusFar] at returned
          rw [sizeT_sub thirdIn] at statusFar
          have statusFits : line.length - third ≤ 132 := Nat.not_lt.mp statusFar
          obtain ⟨rfl, width⟩ := verifyReason_done returned
          exact ⟨rfl, rfl, rfl, rfl, rpos_eq secondIn protocolFits,
            rpos_eq thirdIn (by omega), width⟩

/-- Everything that a normal return of `_setStartLine` guarantees. -/
theorem setStartLine_stores {msg eol rest : Bytes} {type : MsgType}
    (lineAt : LineAt msg line eol rest)
    (secondInside : Inside line second) (thirdInside : Inside line third)
    (returned : setStartLine layout (line ++ eol) type second third fourth =
      .done result) :
    Stores result line eol (startLineOffsets type line second third) ∧
      result.pBody = layout.pBody ∧ Required type second fourth ∧
      (result.stsRpos ≠ 0 → 3 ≤ result.stsRpos.toNat) := by
  unfold setStartLine at returned
  by_cases guard : (line ++ eol).length < 2 ∨ (line ++ eol).getLast? ≠ some lf
  · rw [if_pos guard] at returned
    exact absurd returned fail_ne_done
  have newline : eol = [lf] ∨ eol = [cr, lf] := by
    rcases lineAt.newline with equal | equal | ⟨equal, _⟩
    · exact .inl equal
    · exact .inr equal
    · subst equal
      exact absurd (.inr (by simp [cr, lf])) guard
  simp only [if_neg guard, stripEol_append lineAt.plain newline] at returned
  by_cases tooLong : 65535 < line.length
  · simp [tooLong] at returned
  rw [if_neg tooLong] at returned
  have slLenEq : (UInt16.ofNat line.length).toNat = line.length :=
    UInt16.toNat_ofNat_of_lt' (by simp only [UInt16.size]; omega)
  have slNlEq : (UInt8.ofNat ((line ++ eol).length - line.length)).toNat =
      eol.length := by
    rw [List.length_append, Nat.add_sub_cancel_left, toNat_ofNat_of_le]
    rcases newline with rfl | rfl <;> simp
  have finish : ∀ {offsets : Offsets} {required : Prop}, required →
      Assigns { layout with
        slLen := UInt16.ofNat line.length
        slNl := UInt8.ofNat ((line ++ eol).length - line.length) }
        result offsets →
      Stores result line eol offsets ∧ result.pBody = layout.pBody ∧ required ∧
        (result.stsRpos ≠ 0 → 3 ≤ result.stsRpos.toNat) := by
    intro offsets required given assigns
    exact ⟨⟨assigns.slLen ▸ slLenEq, assigns.slNl ▸ slNlEq, assigns.uriPos,
      assigns.prtRpos, assigns.stsRpos⟩, assigns.pBody, given,
      assigns.statusWidth⟩
  cases type with
  | unknown => simp at returned
  | request =>
      obtain ⟨given, assigns⟩ := setRequest_assigns thirdInside returned
      exact finish given assigns
  | reply =>
      obtain ⟨given, assigns⟩ := setReply_assigns secondInside returned
      exact finish given assigns
  | report =>
      exact finish trivial
        (setReport_assigns secondInside thirdInside returned)

end Cases

/-! ## Arithmetic of the stored positions -/

/-- Positions of the elements of a start line: they are in order and inside the
line, and no element is present without the one before it. -/
theorem lineParts_positions (line : Bytes) :
    (∀ second, partPos (lineParts line) 1 = some second →
      1 ≤ second ∧ second ≤ line.length) ∧
    (∀ third, partPos (lineParts line) 2 = some third →
      ∃ second, partPos (lineParts line) 1 = some second ∧
        second + 1 ≤ third ∧ third ≤ line.length) := by
  by_cases empty : line = []
  · simp [lineParts, empty, partPos]
  · rcases lineParts_cases empty with ⟨_, parts⟩ | ⟨_, _, rfl, _, _, parts⟩ |
      ⟨_, _, _, rfl, _, _, _, parts⟩ | ⟨_, _, _, _, rfl, _, _, _, parts⟩ <;>
      rw [parts] <;>
      simp [partPos] <;> omega

/-- The relations between the length of the start line and the positions stored
for it that make every accessor subtract in range. -/
structure Ordered (slLen uriPos prtRpos stsRpos : Nat) : Prop where
  uriFits : uriPos + prtRpos ≤ slLen
  uriGap : prtRpos < slLen → prtRpos ≠ 0 → uriPos + prtRpos + 1 ≤ slLen
  statusFits : stsRpos ≠ 0 → 3 ≤ stsRpos ∧ stsRpos + 1 ≤ prtRpos

theorem ordered_of_stores {layout : MsgLayout} {line eol : Bytes}
    {type : MsgType} {fourth : Option Nat}
    (stores : Stores layout line eol (startLineOffsets type line
      (partPos (lineParts line) 1) (partPos (lineParts line) 2)))
    (required : Required type (partPos (lineParts line) 1) fourth)
    (width : layout.stsRpos ≠ 0 → 3 ≤ layout.stsRpos.toNat) :
    Ordered layout.slLen.toNat layout.uriPos.toNat layout.prtRpos.toNat
      layout.stsRpos.toNat := by
  obtain ⟨slLen, _, uriPos, prtRpos, stsRpos⟩ := stores
  obtain ⟨secondIn, thirdIn⟩ := lineParts_positions line
  have widthNat : layout.stsRpos.toNat ≠ 0 → 3 ≤ layout.stsRpos.toNat :=
    fun nonzero => width fun equal => nonzero (by simp [equal])
  rw [slLen]
  cases type with
  | unknown => exact required.elim
  | request =>
      obtain ⟨second, secondEq⟩ := Option.isSome_iff_exists.mp required.1
      have bounds := secondIn second secondEq
      simp only [startLineOffsets, secondEq, Option.getD_some]
        at uriPos prtRpos stsRpos
      cases thirdEq : partPos (lineParts line) 2 with
      | none =>
          simp only [thirdEq, fromRight] at prtRpos
          constructor <;> omega
      | some third =>
          obtain ⟨other, otherEq, order⟩ := thirdIn third thirdEq
          obtain rfl : second = other := by
            rw [secondEq] at otherEq
            exact Option.some.inj otherEq
          simp only [thirdEq, fromRight] at prtRpos
          constructor <;> omega
  | reply =>
      obtain ⟨second, secondEq⟩ := Option.isSome_iff_exists.mp required
      have bounds := secondIn second secondEq
      simp only [startLineOffsets, secondEq, fromRight] at uriPos prtRpos stsRpos
      constructor <;> omega
  | report =>
      simp only [startLineOffsets] at uriPos prtRpos stsRpos
      cases secondEq : partPos (lineParts line) 1 with
      | none =>
          cases thirdEq : partPos (lineParts line) 2 with
          | none =>
              simp only [secondEq, thirdEq, fromRight] at prtRpos stsRpos
              constructor <;> omega
          | some third =>
              obtain ⟨other, otherEq, _⟩ := thirdIn third thirdEq
              simp [secondEq] at otherEq
      | some second =>
          have bounds := secondIn second secondEq
          cases thirdEq : partPos (lineParts line) 2 with
          | none =>
              simp only [secondEq, thirdEq, fromRight] at prtRpos stsRpos
              constructor <;> omega
          | some third =>
              obtain ⟨other, otherEq, order⟩ := thirdIn third thirdEq
              obtain rfl : second = other := by
                rw [secondEq] at otherEq
                exact Option.some.inj otherEq
              simp only [secondEq, thirdEq, fromRight] at prtRpos stsRpos
              constructor <;> omega

namespace MsgLayout

/-- The ranges computed by subtraction, before their conversion to `size_t`. -/
def rawRanges (layout : MsgLayout) : List RawRange :=
  [layout.rawMethod, layout.rawUri, layout.rawProtocol, layout.rawStatus,
    layout.rawReason, layout.rawHeaders]

/-- The elements of the start line, in textual order. -/
def fields (layout : MsgLayout) : List HeadRange :=
  [layout.method, layout.uri, layout.protocol, layout.status, layout.reason]

theorem flag_eq (field : UInt8) : flag field = if field.toNat = 0 then 0 else 1 := by
  unfold flag
  by_cases zero : field = 0
  · simp [zero]
  · have nonzero : field.toNat ≠ 0 := fun equal =>
      zero (UInt8.toNat_inj.mp (by simpa using equal))
    rw [if_neg zero, if_neg nonzero]

theorem ne_zero_iff (field : UInt8) : field ≠ 0 ↔ field.toNat ≠ 0 := by
  rw [not_iff_not, ← UInt8.toNat_inj]
  simp

variable {layout : MsgLayout}

theorem rawRanges_nonneg
    (ordered : Ordered layout.slLen.toNat layout.uriPos.toNat
      layout.prtRpos.toNat layout.stsRpos.toNat)
    (bodyAfter : layout.pHeaders ≤ layout.pBody.toNat) :
    ∀ raw ∈ layout.rawRanges, 0 ≤ raw.start ∧ 0 ≤ raw.length := by
  obtain ⟨uriFits, uriGap, statusFits⟩ := ordered
  simp only [rawRanges, List.forall_mem_cons, List.not_mem_nil, false_implies,
    implies_true, and_true]
  refine ⟨?_, ?_, ?_, ?_, ?_, ?_⟩
  · simp only [rawMethod, flag_eq]
    split <;> omega
  · simp only [rawUri, flag_eq, hasUri, decide_eq_true_eq]
    split_ifs <;> omega
  · simp only [rawProtocol, flag_eq, ne_zero_iff]
    split_ifs <;> omega
  · simp only [rawStatus, ne_zero_iff]
    split <;> omega
  · simp only [rawReason]
    split <;> omega
  · simp only [rawHeaders]
    omega

/-- The elements of the start line in plain arithmetic. -/
theorem fields_eq
    (ordered : Ordered layout.slLen.toNat layout.uriPos.toNat
      layout.prtRpos.toNat layout.stsRpos.toNat) :
    layout.method = ⟨0, layout.uriPos.toNat - 1⟩ ∧
    layout.uri = ⟨layout.uriPos.toNat,
      if layout.prtRpos.toNat < layout.slLen.toNat then
        layout.slLen.toNat - layout.uriPos.toNat - layout.prtRpos.toNat -
          (if layout.prtRpos.toNat = 0 then 0 else 1)
      else 0⟩ ∧
    layout.protocol = ⟨layout.slLen.toNat - layout.prtRpos.toNat,
      layout.prtRpos.toNat - layout.stsRpos.toNat -
        (if layout.stsRpos.toNat = 0 then 0 else 1)⟩ ∧
    layout.status = ⟨layout.slLen.toNat - layout.stsRpos.toNat,
      if layout.stsRpos.toNat = 0 then 0 else 3⟩ ∧
    layout.reason = ⟨layout.slLen.toNat + 4 - layout.stsRpos.toNat,
      layout.stsRpos.toNat - 4⟩ := by
  obtain ⟨uriFits, uriGap, statusFits⟩ := ordered
  refine ⟨?_, ?_, ?_, ?_, ?_⟩
  · simp only [method, rawMethod, RawRange.toHeadRange, flag_eq, sizeT,
      HeadRange.mk.injEq]
    split_ifs <;> omega
  · simp only [uri, rawUri, RawRange.toHeadRange, flag_eq, sizeT, hasUri,
      decide_eq_true_eq, HeadRange.mk.injEq]
    split_ifs <;> omega
  · simp only [protocol, rawProtocol, RawRange.toHeadRange, flag_eq, sizeT,
      ne_zero_iff, HeadRange.mk.injEq]
    split_ifs <;> omega
  · simp only [status, rawStatus, RawRange.toHeadRange, sizeT, ne_zero_iff,
      HeadRange.mk.injEq]
    split_ifs <;> omega
  · simp only [reason, rawReason, RawRange.toHeadRange, HeadRange.mk.injEq]
    constructor
    · rw [sizeT_of_nonneg (by omega)]
      omega
    · rw [sizeT_of_nonneg (by split <;> omega)]
      split <;> omega

theorem fields_inside
    (ordered : Ordered layout.slLen.toNat layout.uriPos.toNat
      layout.prtRpos.toNat layout.stsRpos.toNat) :
    ∀ field ∈ layout.fields, field.length ≠ 0 →
      field.start + field.length ≤ layout.slLen.toNat := by
  obtain ⟨methodEq, uriEq, protocolEq, statusEq, reasonEq⟩ := fields_eq ordered
  obtain ⟨uriFits, uriGap, statusFits⟩ := ordered
  simp only [fields, methodEq, uriEq, protocolEq, statusEq, reasonEq,
    List.forall_mem_cons, List.not_mem_nil, false_implies, implies_true, and_true]
  refine ⟨?_, ?_, ?_, ?_, ?_⟩ <;> (try split_ifs) <;> omega

theorem fields_ordered
    (ordered : Ordered layout.slLen.toNat layout.uriPos.toNat
      layout.prtRpos.toNat layout.stsRpos.toNat) :
    layout.fields.Pairwise fun left right =>
      left.length ≠ 0 → right.length ≠ 0 →
        left.start + left.length ≤ right.start := by
  obtain ⟨methodEq, uriEq, protocolEq, statusEq, reasonEq⟩ := fields_eq ordered
  obtain ⟨uriFits, uriGap, statusFits⟩ := ordered
  simp only [fields, methodEq, uriEq, protocolEq, statusEq, reasonEq,
    List.pairwise_cons, List.forall_mem_cons, List.not_mem_nil, false_implies,
    implies_true, and_true, List.Pairwise.nil]
  refine ⟨⟨?_, ?_, ?_, ?_⟩, ⟨?_, ?_, ?_⟩, ⟨?_, ?_⟩, ?_⟩ <;>
    (try split_ifs) <;> omega

end MsgLayout

/-! ## The soundness theorem -/

/-- What the parser establishes about a message with a known framing. -/
structure Described (line eol : Bytes) (lines : List (Bytes × Bytes))
    (blank : Bytes) (requested : MsgType) (layout : MsgLayout) : Prop where
  stores : Stores layout line eol
    (startLineOffsets (detectType requested (lineParts line)) line
      (partPos (lineParts line) 1) (partPos (lineParts line) 2))
  ordered : Ordered layout.slLen.toNat layout.uriPos.toNat layout.prtRpos.toNat
    layout.stsRpos.toNat
  required : Required (detectType requested (lineParts line))
    (partPos (lineParts line) 1) (partPos (lineParts line) 3)
  pBody : layout.pBody.toNat = Framed.bodyPos line eol lines blank

namespace Framed

variable {msg line eol blank body : Bytes} {lines : List (Bytes × Bytes)}
variable {before layout : MsgLayout} {requested : MsgType}

theorem described (framed : Framed msg line eol lines blank body)
    (returned : parseMsg before msg requested = .done layout) :
    Described line eol lines blank requested layout := by
  have fits := framed.fits (show (parseMsg before msg requested).thrown = none by
    rw [returned]; rfl)
  rw [framed.parseMsg_eq before requested fits] at returned
  obtain ⟨secondIn, thirdIn⟩ := lineParts_positions line
  obtain ⟨stores, pBodyEq, required, width⟩ :=
    setStartLine_stores framed.startLine
      (fun position given => (secondIn position given).2)
      (fun position given => (thirdIn position given).elim fun _ rest => rest.2.2)
      returned
  refine ⟨stores, ordered_of_stores stores required width, required, ?_⟩
  rw [pBodyEq]
  exact UInt16.toNat_ofNat_of_lt' (by simp only [UInt16.size]; omega)

theorem pHeaders_eq
    (described : Described line eol lines blank requested layout) :
    layout.pHeaders = line.length + eol.length := by
  rw [MsgLayout.pHeaders, described.stores.slLen, described.stores.slNl]

theorem rawBodySize_eq (framed : Framed msg line eol lines blank body)
    (described : Described line eol lines blank requested layout) :
    (MsgView.mk msg layout).rawBodySize = body.length := by
  simp only [MsgView.rawBodySize, described.pBody, framed.length_eq]
  omega

theorem bodyString_eq (framed : Framed msg line eol lines blank body)
    (described : Described line eol lines blank requested layout) :
    (MsgView.mk msg layout).bodyString = body := by
  simp only [MsgView.bodyString, MsgView.bodySize, MsgView.string,
    framed.rawBodySize_eq described, sizeT_natCast]
  refine slice_middle (line ++ eol ++ joinLines lines ++ blank) body [] ?_ ?_ rfl
  · rw [framed.startLine.split]
    simp
  · simp only [described.pBody, Framed.bodyPos, List.length_append]

end Framed

/-- An element of the start line is read from the message by its range. -/
theorem string_of_range {view : MsgView} {range : HeadRange}
    (left middle right : Bytes) (startsWith : left ++ (middle ++ right) <+: view.msg)
    (start : range.start = left.length) (length : range.length = middle.length) :
    view.string range = middle := by
  obtain ⟨rest, split⟩ := startsWith
  exact slice_middle left middle (right ++ rest) (by simp [← split]) start length

/-- A message that was accepted has a framing, which its layout describes. -/
theorem MsgView.described_of_parse {msg : Bytes} {requested : MsgType} {view : MsgView}
    (accepted : MsgView.parse msg requested = .ok view) :
    view.msg = msg ∧ ∃ line eol lines blank body,
      Framed msg line eol lines blank body ∧
        Described line eol lines blank requested view.layout := by
  obtain ⟨sameMsg, parsed⟩ := MsgView.parse_eq_ok.mp accepted
  obtain ⟨line, eol, lines, blank, body, framed, _⟩ := framed_of_parseMsg
    (MsgView.parse_returns.mp ⟨view, accepted⟩)
  exact ⟨sameMsg, line, eol, lines, blank, body, framed, framed.described parsed⟩

/-- A layout describes the message it was parsed from. -/
structure LayoutSound (msg : Bytes) (requested : MsgType) (layout : MsgLayout)
    (line eol : Bytes) (lines : List (Bytes × Bytes)) (blank body : Bytes) :
    Prop where
  /-- The start line, the header lines up to the first empty line, and the
  body. -/
  framed : Framed msg line eol lines blank body
  /-- No stored value was truncated. -/
  pBodyExact : layout.pBody.toNat = msg.length - body.length
  startLineExact : Stores layout line eol
    (startLineOffsets (detectType requested (startLineParts msg line)) line
      (partPos (startLineParts msg line) 1) (partPos (startLineParts msg line) 2))
  /-- The header range is nonempty and the body begins inside the message. -/
  headersStart : layout.slLen.toNat + layout.slNl.toNat = layout.pHeaders
  headersBeforeBody : layout.pHeaders < layout.pBody.toNat
  bodyInside : layout.pBody.toNat ≤ msg.length
  /-- No accessor subtracts below zero. -/
  rangesNonneg : ∀ raw ∈ layout.rawRanges, 0 ≤ raw.start ∧ 0 ≤ raw.length
  bodySizeNonneg : 0 ≤ (MsgView.mk msg layout).rawBodySize
  /-- Nonempty fields lie in the start line, disjoint and in textual order. -/
  fieldsInside : ∀ field ∈ layout.fields, field.length ≠ 0 →
    field.start + field.length ≤ layout.slLen.toNat
  fieldsOrdered : layout.fields.Pairwise fun left right =>
    left.length ≠ 0 → right.length ≠ 0 →
      left.start + left.length ≤ right.start
  /-- The body is what follows the first empty line. -/
  bodyExact : (MsgView.mk msg layout).bodyString = body

/-- Layout soundness: a parse that returns normally, of any bytes and for any
requested type, yields a layout that describes the message. -/
theorem parseMsg_layoutSound (before : MsgLayout) (msg : Bytes)
    (requested : MsgType) (layout : MsgLayout)
    (returned : parseMsg before msg requested = .done layout) :
    ∃ line eol lines blank body,
      LayoutSound msg requested layout line eol lines blank body := by
  have normal : (parseMsg before msg requested).thrown = none := by
    rw [returned]
    rfl
  obtain ⟨line, eol, lines, blank, body, framed, _⟩ := framed_of_parseMsg normal
  have described := framed.described returned
  have total := framed.length_eq
  have pBodyEq := described.pBody
  have bodySizeEq := framed.rawBodySize_eq described
  have blankPos := List.length_pos_of_ne_nil framed.block.blank_ne_nil
  have headersBeforeBody : layout.pHeaders < layout.pBody.toNat := by
    rw [Framed.pHeaders_eq described, pBodyEq, Framed.bodyPos]
    omega
  refine ⟨line, eol, lines, blank, body, framed, by omega, ?_, rfl,
    headersBeforeBody, by omega,
    MsgLayout.rawRanges_nonneg described.ordered headersBeforeBody.le, by omega,
    MsgLayout.fields_inside described.ordered,
    MsgLayout.fields_ordered described.ordered,
    framed.bodyString_eq described⟩
  rw [startLineParts_eq framed.startLine]
  exact described.stores

/-- The soundness theorem at a small report. -/
theorem parseMsg_layoutSound_report :
    ∃ line eol lines blank body,
      LayoutSound (ascii "/a Tell/0\n\n") .unknown
        (parseMsg .reset (ascii "/a Tell/0\n\n") .unknown).layout
        line eol lines blank body :=
  parseMsg_layoutSound .reset _ _ _ (by decide +kernel)

end Telling.Msg
