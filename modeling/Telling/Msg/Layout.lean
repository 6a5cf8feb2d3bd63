import Telling.Msg.Codes
import Telling.Msg.Util

/-!
# Message layout

`MsgLayout` packs the structure of a message into 64 bits.  Positions in the
start line are kept in 8-bit fields, some counted from its left end and some from
its right end, and the parts of the start line are recovered by subtraction.
This module embeds the parser that fills the layout (`_parse_msg` and
`_setStartLine`) and the accessors that read it back.
-/

namespace Telling.Msg

open Lib

/-- `MsgLayout::TYPE`. -/
inductive MsgType where
  | unknown
  | reply
  | report
  | request
  deriving DecidableEq, Repr

def maxMethodLength : Nat := 14
def maxProtocolLength : Nat := 16
def maxStatusLength : Nat := 3
def maxReasonLength : Nat := 128

def maxUriPos : Nat := maxMethodLength + 1
def maxStsRpos : Nat := maxReasonLength + maxStatusLength + 1
def maxPrtRpos : Nat := maxStsRpos + maxProtocolLength + 1

/-- A part of a message, by position and length (`HeadRange`). -/
structure HeadRange where
  start : Nat
  length : Nat
  deriving DecidableEq, Repr

/-- The stored fields of `MsgLayout`. -/
structure MsgLayout where
  pBody : UInt16
  slLen : UInt16
  uriPos : UInt8
  prtRpos : UInt8
  stsRpos : UInt8
  slNl : UInt8
  deriving DecidableEq, Repr

namespace MsgLayout

/-- `_parse_reset`. -/
def reset : MsgLayout := ⟨0, 0, 0, 0, 0, 0⟩

/-! ## Accessors -/

/-- A range as the accessors compute it, before its conversion to `size_t`. -/
structure RawRange where
  start : Int
  length : Int
  deriving DecidableEq, Repr

def RawRange.toHeadRange (raw : RawRange) : HeadRange :=
  ⟨sizeT raw.start, sizeT raw.length⟩

/-- `bool(field)` in arithmetic. -/
def flag (field : UInt8) : Int := if field = 0 then 0 else 1

def pHeaders (layout : MsgLayout) : Nat :=
  layout.slLen.toNat + layout.slNl.toNat

def hasMethod (layout : MsgLayout) : Bool := decide (layout.uriPos ≠ 0)

def hasUri (layout : MsgLayout) : Bool :=
  decide (layout.prtRpos.toNat < layout.slLen.toNat)

def hasProtocol (layout : MsgLayout) : Bool :=
  decide (layout.stsRpos.toNat + 1 ≤ layout.prtRpos.toNat)

/-- `_type`: the type is not stored but recovered from the positions. -/
def type (layout : MsgLayout) : MsgType :=
  if layout.hasMethod then .request
  else if layout.hasUri then .report
  else if layout.hasProtocol then .reply
  else .unknown

def rawHeaders (layout : MsgLayout) : RawRange :=
  ⟨layout.pHeaders, (layout.pBody.toNat : Int) - layout.pHeaders⟩

def rawMethod (layout : MsgLayout) : RawRange :=
  ⟨0, (layout.uriPos.toNat : Int) - flag layout.uriPos⟩

def rawUri (layout : MsgLayout) : RawRange :=
  ⟨layout.uriPos.toNat,
    if layout.hasUri then
      (layout.slLen.toNat : Int) - layout.uriPos.toNat - layout.prtRpos.toNat -
        flag layout.prtRpos
    else 0⟩

def rawProtocol (layout : MsgLayout) : RawRange :=
  ⟨(layout.slLen.toNat : Int) - layout.prtRpos.toNat,
    if layout.prtRpos ≠ 0 then
      (layout.prtRpos.toNat : Int) - layout.stsRpos.toNat - flag layout.stsRpos
    else 0⟩

def rawStatus (layout : MsgLayout) : RawRange :=
  ⟨(layout.slLen.toNat : Int) - layout.stsRpos.toNat,
    if layout.stsRpos ≠ 0 then 3 else 0⟩

def rawReason (layout : MsgLayout) : RawRange :=
  ⟨(layout.slLen.toNat : Int) + 4 - layout.stsRpos.toNat,
    if 4 < layout.stsRpos.toNat then (layout.stsRpos.toNat : Int) - 4 else 0⟩

def startLine (layout : MsgLayout) : HeadRange := ⟨0, layout.slLen.toNat⟩
def headers (layout : MsgLayout) : HeadRange := layout.rawHeaders.toHeadRange
def method (layout : MsgLayout) : HeadRange := layout.rawMethod.toHeadRange
def uri (layout : MsgLayout) : HeadRange := layout.rawUri.toHeadRange
def protocol (layout : MsgLayout) : HeadRange := layout.rawProtocol.toHeadRange
def status (layout : MsgLayout) : HeadRange := layout.rawStatus.toHeadRange
def reason (layout : MsgLayout) : HeadRange := layout.rawReason.toHeadRange

end MsgLayout

/-! ## Parsing the start line -/

/-- What a parsing function leaves behind: the layout, updated as far as the
function got, and the exception if it threw one. -/
structure Parsed where
  layout : MsgLayout
  thrown : Option MsgException
  deriving DecidableEq, Repr

namespace Parsed

def done (layout : MsgLayout) : Parsed := ⟨layout, none⟩

def fail (layout : MsgLayout) (error : MsgError) (excerpt : Bytes) : Parsed :=
  ⟨layout, some ⟨error, excerpt⟩⟩

end Parsed

/-- The start line without its newline. -/
def stripEol (lineWithEol : Bytes) : Bytes :=
  if lineWithEol.dropLast.getLast? = some cr then lineWithEol.dropLast.dropLast
  else lineWithEol.dropLast

/-- The check shared by replies and reports once `_sts_rpos` is known. -/
def verifyReason (layout : MsgLayout) (line : Bytes) (reason : Option Nat) :
    Parsed :=
  if layout.stsRpos ≠ 0 then
    if reason.isSome then
      if layout.stsRpos < 4 then .fail layout .startLineMalformed line
      else .done layout
    else
      if layout.stsRpos ≠ 3 then .fail layout .startLineMalformed line
      else .done layout
  else .done layout

/-- The case `REQUEST` of `_setStartLine`: URI required, protocol optional, no
fourth element. -/
def setRequest (layout : MsgLayout) (line : Bytes)
    (second third fourth : Option Nat) : Parsed :=
  match second, fourth with
  | some second, none =>
      if maxUriPos < second then .fail layout .headerTooBig line
      else
        let layout := { layout with uriPos := UInt8.ofNat second }
        match third with
        | none => .done { layout with prtRpos := 0, stsRpos := 0 }
        | some third =>
            let rpos := sizeT ((line.length : Int) - third)
            if maxPrtRpos < rpos then .fail layout .headerTooBig line
            else .done { layout with prtRpos := UInt8.ofNat rpos, stsRpos := 0 }
  | _, _ => .fail layout .startLineMalformed line

/-- The case `REPLY` of `_setStartLine`: the reason-phrase is optional. -/
def setReply (layout : MsgLayout) (line : Bytes) (second third : Option Nat) :
    Parsed :=
  match second with
  | none => .fail layout .startLineMalformed line
  | some second =>
      let layout := { layout with uriPos := 0 }
      if maxPrtRpos < line.length then .fail layout .headerTooBig line
      else
        let layout := { layout with prtRpos := UInt8.ofNat line.length }
        let rpos := sizeT ((line.length : Int) - second)
        if maxStsRpos < rpos then .fail layout .headerTooBig line
        else
          verifyReason { layout with stsRpos := UInt8.ofNat rpos } line third

/-- The case `REPORT` of `_setStartLine`: every element but the URI is
optional. -/
def setReport (layout : MsgLayout) (line : Bytes)
    (second third fourth : Option Nat) : Parsed :=
  let layout := { layout with uriPos := 0 }
  match second with
  | none =>
      let layout := { layout with prtRpos := 0, stsRpos := 0 }
      if third.isSome || fourth.isSome then
        .fail layout .startLineMalformed line
      else verifyReason layout line none
  | some second =>
      let rpos := sizeT ((line.length : Int) - second)
      if maxPrtRpos < rpos then .fail layout .headerTooBig line
      else
        let layout := { layout with prtRpos := UInt8.ofNat rpos }
        match third with
        | none =>
            let layout := { layout with stsRpos := 0 }
            if fourth.isSome then .fail layout .startLineMalformed line
            else verifyReason layout line none
        | some third =>
            let rpos := sizeT ((line.length : Int) - third)
            if maxStsRpos < rpos then .fail layout .headerTooBig line
            else
              verifyReason { layout with stsRpos := UInt8.ofNat rpos } line fourth

/-- `_setStartLine`.  The optional positions are those of the second, third and
fourth element, counted from the beginning of the line; an absent element is a
null pointer in the source. -/
def setStartLine (layout : MsgLayout) (lineWithEol : Bytes) (type : MsgType)
    (second third fourth : Option Nat) : Parsed :=
  if lineWithEol.length < 2 ∨ lineWithEol.getLast? ≠ some lf then
    .fail layout .startLineMalformed lineWithEol
  else
    let line := stripEol lineWithEol
    if 65535 < line.length then .fail layout .headerTooBig line
    else
      let layout := { layout with
        slLen := UInt16.ofNat line.length
        slNl := UInt8.ofNat (lineWithEol.length - line.length) }
      match type with
      | .unknown => .fail layout .startLineMalformed line
      | .request => setRequest layout line second third fourth
      | .reply => setReply layout line second third
      | .report => setReport layout line second third fourth

/-- An element of the start line, with the position where it begins. -/
structure Part where
  pos : Nat
  text : Bytes
  deriving DecidableEq, Repr

/-- `MAX_PARTS`. -/
def maxParts : Nat := 4

/-- The loop that delimits the start line.  `slots` counts the parts that may
still be filled; the last slot takes the whole remainder.  The result includes
the read position after the loop, which is one past the end of the line when the
line ran out inside a word. -/
def delimit : (slots : Nat) → (i : Nat) → (rest : Bytes) → List Part × Nat
  | 0, i, _ => ([], i)
  | slots + 1, i, rest =>
      if rest = [] then ([], i)
      else if slots = 0 then ([⟨i, rest⟩], i)
      else
        let word := rest.takeWhile fun byte => decide (byte ≠ sp)
        let scan :=
          delimit slots (i + word.length + 1) (rest.drop (word.length + 1))
        (⟨i, word⟩ :: scan.1, scan.2)

/-- The rule after the loop: respect an empty final element if there is room. -/
def respectFinal (msg : Bytes) (slots : Nat) (scan : List Part × Nat) :
    List Part :=
  if 0 < scan.2 ∧ msg[scan.2 - 1]? = some sp ∧ scan.1.length < slots then
    scan.1 ++ [⟨scan.2, []⟩]
  else scan.1

/-- The parts of the start line of `msg`. -/
def startLineParts (msg startLine : Bytes) : List Part :=
  respectFinal msg maxParts (delimit maxParts 0 startLine)

/-- Text of a part; the unassigned entries of `parts` are empty views. -/
def partText (parts : List Part) (index : Nat) : Bytes :=
  (parts[index]?.map Part.text).getD []

/-- Position of a part, or a null pointer. -/
def partPos (parts : List Part) (index : Nat) : Option Nat :=
  parts[index]?.map Part.pos

/-- Auto-detection of the message type, applied when no type was requested. -/
def detectType (requested : MsgType) (parts : List Part) : MsgType :=
  match requested with
  | .unknown =>
      match parts.length with
      | 0 => .unknown
      | 1 => .report
      | count =>
          if 2 < count ∧ (MsgProtocol.parse (partText parts 2)).isValid then
            .request
          else if (MsgProtocol.parse (partText parts 1)).isValid then .report
          else if (partText parts 0).length = 0 ∨ slash ∈ partText parts 0 then
            .reply
          else .request
  | type => type

/-! ## Parsing the message -/

/-- The header loop: skip nonempty lines up to and including the first empty
one, and return what follows.  The error carries the line at which the data
ended. -/
def headerLoop (rest : Bytes) : Except Bytes Bytes :=
  if (consumeLine rest).1 = [] then .ok (consumeLine rest).2
  else if _more : (consumeLine rest).2 = [] then .error (consumeLine rest).1
  else headerLoop (consumeLine rest).2
termination_by rest.length
decreasing_by
  apply consumeLine_length_lt
  rintro rfl
  simp [consumeLine] at _more

/-- `_parse_msg`.  The test for a null data pointer is left out: data of nonzero
size has an address. -/
def parseMsg (layout : MsgLayout) (msg : Bytes) (requested : MsgType) : Parsed :=
  if msg = [] then
    .fail layout .headerIncomplete (ascii "Message data is empty (no header)")
  else
    let layout := MsgLayout.reset
    let (startLine, rest) := consumeLine msg
    if 0xFFFF < startLine.length then
      .fail layout .headerTooBig (ascii "Start line >= 64 KiB")
    else if rest = [] then .fail layout .headerIncomplete startLine
    else
      match headerLoop rest with
      | .error headerLine => .fail layout .headerIncomplete headerLine
      | .ok body =>
          let pos := msg.length - body.length
          if 0xFFFF < pos then
            .fail layout .headerTooBig
              (ascii "Headers >= 64 KiB; missing empty line?")
          else
            let layout := { layout with pBody := UInt16.ofNat pos }
            let parts := startLineParts msg startLine
            setStartLine layout (msg.take (msg.length - rest.length))
              (detectType requested parts)
              (partPos parts 1) (partPos parts 2) (partPos parts 3)

example : (parseMsg .reset (ascii "Tell/0 404\n\n") .unknown).layout.type =
    .reply := by decide +kernel

end Telling.Msg
