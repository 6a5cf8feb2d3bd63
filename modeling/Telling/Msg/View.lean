import Mathlib.Data.List.Infix
import Telling.Msg.Layout

/-!
# Message views

`MsgView` couples the bytes of a message with its layout.  This module embeds the
accessors of a view, the header iterator, the header parser and the assessment of
completeness.
-/

namespace Telling.Msg

open Lib

def tab : Byte := 9
def colon : Byte := 58

/-- Spaces and tabs, which do not belong to a header's value. -/
def isBlank (byte : Byte) : Bool := decide (byte = sp) || decide (byte = tab)

/-! ## Headers -/

/-- `MsgHeaderView`.  `data` is the address of the name, relative to the text
that is iterated; the iterator reads its own position from it. -/
structure MsgHeaderView where
  data : Nat
  name : Bytes
  value : Bytes
  deriving DecidableEq, Repr

namespace MsgHeaderView

/-- The bytes that the search for a colon passes over. -/
def isNameByte (byte : Byte) : Bool :=
  decide (byte ≠ cr) && decide (byte ≠ lf) && decide (byte ≠ colon)

/-- `parse_header` on a line that begins at address `data`: without a colon the
whole line is the value. -/
def parseHeader (data : Nat) (line : Bytes) : MsgHeaderView :=
  match line.dropWhile isNameByte with
  | [] => ⟨data, [], trim isBlank line⟩
  | stop :: rest =>
      if stop = colon then
        ⟨data, line.takeWhile isNameByte, trim isBlank rest⟩
      else ⟨data, [], trim isBlank line⟩

@[simp] theorem parseHeader_data (data : Nat) (line : Bytes) :
    (parseHeader data line).data = data := by
  unfold parseHeader
  split
  · rfl
  · split <;> rfl

/-- `std::tolower` in the C locale. -/
def toLower (byte : Byte) : Byte :=
  if 65 ≤ byte ∧ byte ≤ 90 then byte + 32 else byte

/-- `MsgHeaderView::is`. -/
def is (header : MsgHeaderView) (headerName : Bytes) : Bool :=
  decide (header.name.map toLower = headerName.map toLower)

/-- Value of a numeral, most significant digit first. -/
def decimal (digits : Bytes) : Nat :=
  digits.foldl (fun value byte => 10 * value + (byte.toNat - 48)) 0

/-- `std::from_chars` for `int64_t` in base 10: an optional minus sign and the
longest run of digits.  On failure the result keeps its initial value. -/
def fromChars (text : Bytes) (initial : Int) : Int :=
  let (sign, body) : Int × Bytes :=
    match text with
    | 45 :: rest => (-1, rest)
    | _ => (1, text)
  let digits := body.takeWhile Status.isDigit
  let value := sign * decimal digits
  if digits = [] then initial
  else if -(2 ^ 63) ≤ value ∧ value < 2 ^ 63 then value
  else initial

/-- `MsgHeaderView::value_dec`. -/
def valueDec (header : MsgHeaderView) (initial : Int) : Int :=
  match header.value with
  | 43 :: rest => fromChars rest initial
  | value => fromChars value initial

end MsgHeaderView

namespace MsgHeaders

/-- `MsgHeaders::iterator::setp`. -/
def setp (text : Bytes) (p : Nat) : MsgHeaderView :=
  let header : MsgHeaderView :=
    if p < text.length then
      .parseHeader p (consumeLine (text.drop p)).1
    else ⟨0, [], []⟩
  if header.name.length = 0 then { header with data := p, name := [] }
  else header

/-- `MsgHeaders::iterator::operator++`. -/
def next (text : Bytes) (header : MsgHeaderView) : MsgHeaderView :=
  setp text (text.length - (consumeLine (text.drop header.data)).2.length)

/-- The position of an iterator is the address of its name. -/
@[simp] theorem setp_data (text : Bytes) (p : Nat) : (setp text p).data = p := by
  by_cases inside : p < text.length
  · simp only [setp, inside, if_true]
    split
    · rfl
    · exact MsgHeaderView.parseHeader_data _ _
  · simp [setp, inside]

/-- The headers visited from an iterator up to `end()`.  An iterator never passes
the end (`next_data_le`), so being before it and being different from it are the
same. -/
def collect (text : Bytes) (header : MsgHeaderView) : List MsgHeaderView :=
  if header.data < text.length then
    header :: collect text (next text header)
  else []
termination_by text.length - header.data
decreasing_by
  rename_i inside
  have nonempty : text.drop header.data ≠ [] := by simpa using inside
  have progress := consumeLine_length_lt nonempty
  simp only [List.length_drop] at progress
  simp only [next, setp_data]
  omega

theorem next_data_le (text : Bytes) (header : MsgHeaderView) :
    (next text header).data ≤ text.length := by
  simp [next]

/-- Iteration from `begin()` to `end()`. -/
def toList (text : Bytes) : List MsgHeaderView := collect text (setp text 0)

end MsgHeaders

/-! ## Views -/

/-- `MsgCompletion`. -/
structure MsgCompletion where
  complete : Bool
  isChunked : Bool
  lengthHeader : Bool
  messageLength : Nat
  deriving DecidableEq, Repr

namespace MsgCompletion

def empty : MsgCompletion := ⟨false, false, false, 0⟩

def implicit (completion : MsgCompletion) : Bool :=
  !completion.isChunked && !completion.lengthHeader

end MsgCompletion

structure MsgView where
  msg : Bytes
  layout : MsgLayout
  deriving DecidableEq, Repr

namespace MsgView

/-- Construction of a view: the parse must not throw. -/
def parse (msg : Bytes) (requested : MsgType) : Except MsgException MsgView :=
  match parseMsg .reset msg requested with
  | ⟨layout, none⟩ => .ok ⟨msg, layout⟩
  | ⟨_, some thrown⟩ => .error thrown

theorem parse_eq_ok {msg : Bytes} {requested : MsgType} {view : MsgView} :
    parse msg requested = .ok view ↔
      view.msg = msg ∧ parseMsg .reset msg requested = .done view.layout := by
  obtain ⟨viewMsg, viewLayout⟩ := view
  unfold parse
  cases parseMsg .reset msg requested with
  | mk layout thrown =>
      cases thrown with
      | none => simp [Parsed.done, eq_comm]
      | some exception => simp [Parsed.done]

theorem parse_returns {msg : Bytes} {requested : MsgType} :
    (∃ view, parse msg requested = .ok view) ↔
      (parseMsg .reset msg requested).thrown = none := by
  unfold parse
  cases parseMsg .reset msg requested with
  | mk layout thrown =>
      cases thrown with
      | none => simp
      | some exception => simp

def string (view : MsgView) (range : HeadRange) : Bytes :=
  slice range.start range.length view.msg

/-- `_string_rem_nl`: one trailing newline is removed by its last two bytes. -/
def stringRemNl (view : MsgView) (range : HeadRange) : Bytes :=
  let text := view.string range
  let text := if text.getLast? = some lf then text.dropLast else text
  if text.getLast? = some cr then text.dropLast else text

def msgType (view : MsgView) : MsgType := view.layout.type
def startLine (view : MsgView) : Bytes := view.string view.layout.startLine
def methodString (view : MsgView) : Bytes := view.string view.layout.method
def uriString (view : MsgView) : Bytes := view.string view.layout.uri
def protocolString (view : MsgView) : Bytes := view.string view.layout.protocol
def statusString (view : MsgView) : Bytes := view.string view.layout.status
def reason (view : MsgView) : Bytes := view.string view.layout.reason

def method (view : MsgView) : Method := .parse view.methodString
def protocol (view : MsgView) : MsgProtocol := .parse view.protocolString
def status (view : MsgView) : Status := .parse view.statusString

def headersText (view : MsgView) : Bytes := view.stringRemNl view.layout.headers
def headers (view : MsgView) : List MsgHeaderView :=
  MsgHeaders.toList view.headersText

/-- `bodySize`, before its conversion to `size_t`. -/
def rawBodySize (view : MsgView) : Int :=
  (view.msg.length : Int) - view.layout.pBody.toNat

def bodySize (view : MsgView) : Nat := sizeT view.rawBodySize

def bodyString (view : MsgView) : Bytes :=
  view.string ⟨view.layout.pBody.toNat, view.bodySize⟩

/-- One header's contribution to `completion`. -/
def noteHeader (completion : MsgCompletion) (header : MsgHeaderView) :
    MsgCompletion :=
  if header.is (ascii "Content-Length") then
    { completion with
      lengthHeader := true
      messageLength := sizeT (header.valueDec 0) }
  else if header.is (ascii "Transfer-Encoding") then
    if ascii "chunked" <:+: header.value then
      { completion with isChunked := true }
    else completion
  else completion

/-- `MsgView::completion`. -/
def completion (view : MsgView) : MsgCompletion :=
  let noted := view.headers.foldl noteHeader .empty
  let noted :=
    if noted.lengthHeader && decide (noted.messageLength ≤ view.bodySize) then
      { noted with complete := true }
    else noted
  if noted.implicit && !view.protocol.isHttp then
    { noted with complete := true, messageLength := view.bodySize }
  else noted

end MsgView

end Telling.Msg
