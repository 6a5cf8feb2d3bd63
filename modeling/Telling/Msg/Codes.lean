import Telling.Lib.Text

/-!
# Protocols, methods and statuses

The three codes that occur in start lines, with their conversion to and from
text (`MsgProtocol`, `Method` and `Status`).
-/

namespace Telling.Msg

open Lib

def sp : Byte := 32
def slash : Byte := 47

/-! ## Protocols -/

/-- `MsgProtocolCode`. -/
inductive MsgProtocol where
  | unknown
  | none
  | telling
  | http10
  | http11
  deriving DecidableEq, Repr

namespace MsgProtocol

def toInt : MsgProtocol → Int
  | unknown => -1
  | none => 0
  | telling => 1
  | http10 => 2
  | http11 => 3

/-- `MsgProtocol::operator bool`. -/
def isValid (protocol : MsgProtocol) : Bool :=
  decide (MsgProtocol.none.toInt < protocol.toInt) &&
    decide (protocol.toInt ≤ MsgProtocol.http11.toInt)

def toText : MsgProtocol → Bytes
  | telling => ascii "Tell/0"
  | http10 => ascii "HTTP/1.0"
  | http11 => ascii "HTTP/1.1"
  | none => ascii "NoProtocol"
  | unknown => ascii "UnknownProtocol"

/-- `MsgProtocol::Parse`. -/
def parse (text : Bytes) : MsgProtocol :=
  match text with
  | [] => none
  | first :: _ =>
      if first = 84 then
        if text = ascii "Tell/0" then telling else unknown
      else if first = 72 then
        if text = ascii "HTTP/1.0" then http10
        else if text = ascii "HTTP/1.1" then http11
        else unknown
      else unknown

def preferredNewline (protocol : MsgProtocol) : Bytes :=
  if protocol.toInt ≤ MsgProtocol.telling.toInt then [lf] else [cr, lf]

def isHttp (protocol : MsgProtocol) : Bool :=
  decide (protocol = http10) || decide (protocol = http11)

theorem preferredNewline_cases (protocol : MsgProtocol) :
    protocol.preferredNewline = [lf] ∨ protocol.preferredNewline = [cr, lf] := by
  unfold preferredNewline
  split
  · exact .inl rfl
  · exact .inr rfl

theorem parse_toText {protocol : MsgProtocol} (valid : protocol.isValid) :
    parse protocol.toText = protocol := by
  cases protocol <;> revert valid <;> decide +kernel

theorem toText_plain (protocol : MsgProtocol) : Plain protocol.toText := by
  cases protocol <;> decide +kernel

/-- The text of a valid protocol is a single word with a slash in it. -/
theorem toText_shape {protocol : MsgProtocol} (valid : protocol.isValid) :
    sp ∉ protocol.toText ∧ Plain protocol.toText ∧ slash ∈ protocol.toText ∧
      protocol.toText.length ≤ 8 := by
  cases protocol <;> revert valid <;> decide +kernel

/-- Only the three protocol names parse to a valid protocol. -/
theorem isValid_parse {text : Bytes} (valid : (parse text).isValid) :
    text = (parse text).toText := by
  unfold parse at valid ⊢
  cases text with
  | nil => exact absurd valid (by decide)
  | cons first rest =>
      simp only at valid ⊢
      split_ifs at valid ⊢ with isT isTell isH isHttp10 isHttp11
      · exact isTell
      · exact absurd valid (by decide)
      · exact isHttp10
      · exact isHttp11
      · exact absurd valid (by decide)
      · exact absurd valid (by decide)

end MsgProtocol

/-! ## Methods -/

/-- `MethodCode`. -/
inductive Method where
  | unknown
  | none
  | get
  | head
  | post
  | put
  | delete
  | patch
  | options
  | connect
  | trace
  | endOfValidMethods
  deriving DecidableEq, Repr

namespace Method

def toInt : Method → Int
  | unknown => -1
  | none => 0
  | get => 1
  | head => 2
  | post => 3
  | put => 4
  | delete => 5
  | patch => 6
  | options => 7
  | connect => 8
  | trace => 9
  | endOfValidMethods => 10

/-- `Method::operator bool`. -/
def isValid (method : Method) : Bool :=
  decide (Method.none.toInt < method.toInt) &&
    decide (method.toInt < Method.endOfValidMethods.toInt)

def toText : Method → Bytes
  | get => ascii "GET"
  | head => ascii "HEAD"
  | post => ascii "POST"
  | put => ascii "PUT"
  | delete => ascii "DELETE"
  | patch => ascii "PATCH"
  | options => ascii "OPTIONS"
  | trace => ascii "TRACE"
  | connect => ascii "CONNECT"
  | none => ascii "NoMethod"
  | unknown | endOfValidMethods => ascii "UnknownMethod"

/-- The cases of the switch in `Method::Parse`, in source order. -/
def parseCases : List Method :=
  [get, head, post, put, delete, patch, options, trace, connect]

/-- `Method::Parse`: the first two characters select the only name the text is
compared with. -/
def parse (text : Bytes) : Method :=
  match text with
  | [] => none
  | [_] => unknown
  | first :: second :: _ =>
      match parseCases.find? fun method =>
          decide (method.toText.take 2 = [first, second]) with
      | some method => if text = method.toText then method else unknown
      | .none => unknown

theorem parse_toText {method : Method} (valid : method.isValid) :
    parse method.toText = method := by
  cases method <;> revert valid <;> decide +kernel

/-- What parsing a text can come to. -/
theorem parse_cases (text : Bytes) :
    (text = [] ∧ parse text = none) ∨ parse text = unknown ∨
      (parse text).isValid ∧ text = (parse text).toText := by
  match text with
  | [] => exact .inl ⟨rfl, rfl⟩
  | [_] => exact .inr (.inl rfl)
  | first :: second :: rest =>
      refine .inr ?_
      rw [parse]
      cases found : parseCases.find? fun method =>
          decide (method.toText.take 2 = [first, second]) with
      | none => exact .inl rfl
      | some method =>
          dsimp only
          split_ifs with named
          · have valid : ∀ method ∈ parseCases, method.isValid := by decide
            exact .inr ⟨valid method (List.mem_of_find?_eq_some found), named⟩
          · exact .inl rfl

/-- The text of a valid method is a single nonempty word that fits the limit of
a start line. -/
theorem toText_shape {method : Method} (valid : method.isValid) :
    sp ∉ method.toText ∧ Plain method.toText ∧ 0 < method.toText.length ∧
      method.toText.length ≤ 14 := by
  cases method <;> revert valid <;> decide +kernel

end Method

/-! ## Statuses -/

/-- `Status`: a wrapper around an integer status code. -/
structure Status where
  code : Int
  deriving DecidableEq, Repr

namespace Status

/-! The codes of `HttpStatus` that the library answers with. -/

def ok : Status := ⟨200⟩
def created : Status := ⟨201⟩
def badRequest : Status := ⟨400⟩
def notFound : Status := ⟨404⟩
def conflict : Status := ⟨409⟩
def gone : Status := ⟨410⟩
def requestHeaderFieldsTooLarge : Status := ⟨431⟩
def internalServerError : Status := ⟨500⟩
def notImplemented : Status := ⟨501⟩
def badGateway : Status := ⟨502⟩
def serviceUnavailable : Status := ⟨503⟩
def httpVersionNotSupported : Status := ⟨505⟩

/-- `HttpStatus::isSuccessful`. -/
def isSuccessful (status : Status) : Bool :=
  decide (200 ≤ status.code) && decide (status.code < 300)

/-- The phrases of `HttpStatus::reasonPhrase`. -/
def reasonPhrases : List (Int × String) :=
  [(100, "Continue"), (101, "Switching Protocols"), (102, "Processing"),
    (103, "Early Hints"), (200, "OK"), (201, "Created"), (202, "Accepted"),
    (203, "Non-Authoritative Information"), (204, "No Content"),
    (205, "Reset Content"), (206, "Partial Content"), (207, "Multi-Status"),
    (208, "Already Reported"), (226, "IM Used"), (300, "Multiple Choices"),
    (301, "Moved Permanently"), (302, "Found"), (303, "See Other"),
    (304, "Not Modified"), (305, "Use Proxy"), (307, "Temporary Redirect"),
    (308, "Permanent Redirect"), (400, "Bad Request"), (401, "Unauthorized"),
    (402, "Payment Required"), (403, "Forbidden"), (404, "Not Found"),
    (405, "Method Not Allowed"), (406, "Not Acceptable"),
    (407, "Proxy Authentication Required"), (408, "Request Timeout"),
    (409, "Conflict"), (410, "Gone"), (411, "Length Required"),
    (412, "Precondition Failed"), (413, "Payload Too Large"), (414, "URI Too Long"),
    (415, "Unsupported Media Type"), (416, "Range Not Satisfiable"),
    (417, "Expectation Failed"), (418, "I'm a teapot"), (422, "Unprocessable Entity"),
    (423, "Locked"), (424, "Failed Dependency"), (426, "Upgrade Required"),
    (428, "Precondition Required"), (429, "Too Many Requests"),
    (431, "Request Header Fields Too Large"), (451, "Unavailable For Legal Reasons"),
    (500, "Internal Server Error"), (501, "Not Implemented"), (502, "Bad Gateway"),
    (503, "Service Unavailable"), (504, "Gateway Time-out"),
    (505, "HTTP Version Not Supported"), (506, "Variant Also Negotiates"),
    (507, "Insufficient Storage"), (508, "Loop Detected"), (510, "Not Extended"),
    (511, "Network Authentication Required")]

/-- `Status::reasonPhrase`. -/
def reasonPhrase (status : Status) : Bytes :=
  match reasonPhrases.lookup status.code with
  | some phrase => ascii phrase
  | none => ascii "(Undefined Status)"

/-- The character of a decimal digit. -/
def digit (value : Nat) : Byte := UInt8.ofNat (48 + value % 10)

/-- `Status::toString`: three digits, or `N/A` outside `1..999`. -/
def toText (status : Status) : Bytes :=
  if status.code ≤ 0 ∨ 999 < status.code then ascii "N/A"
  else
    let value := status.code.toNat
    [digit (value / 100), digit (value / 10), digit value]

def isDigit (byte : Byte) : Bool := decide (48 ≤ byte) && decide (byte ≤ 57)

def digitValue (byte : Byte) : Int := (byte.toNat : Int) - 48

/-- `Status::Parse`: exactly three digits, or the null status. -/
def parse (text : Bytes) : Status :=
  match text with
  | [hundreds, tens, ones] =>
      if isDigit hundreds && isDigit tens && isDigit ones then
        ⟨digitValue ones + 10 * digitValue tens + 100 * digitValue hundreds⟩
      else ⟨0⟩
  | _ => ⟨0⟩

/-- The statuses that have a three-digit text. -/
def InRange (status : Status) : Prop := 1 ≤ status.code ∧ status.code ≤ 999

instance (status : Status) : Decidable status.InRange :=
  inferInstanceAs (Decidable (_ ∧ _))

theorem digit_toNat (value : Nat) : (digit value).toNat = 48 + value % 10 := by
  unfold digit
  rw [UInt8.toNat_ofNat_of_lt']
  have := Nat.mod_lt value (show 0 < 10 by decide)
  simp only [UInt8.size]
  omega

theorem isDigit_digit (value : Nat) : isDigit (digit value) := by
  have bound := Nat.mod_lt value (show 0 < 10 by decide)
  simp only [isDigit, Bool.and_eq_true, decide_eq_true_eq, UInt8.le_iff_toNat_le,
    digit_toNat]
  constructor
  · change 48 ≤ 48 + value % 10
    omega
  · change 48 + value % 10 ≤ 57
    omega

theorem digitValue_digit (value : Nat) :
    digitValue (digit value) = (value % 10 : Nat) := by
  simp only [digitValue, digit_toNat]
  omega

theorem toText_of_inRange {status : Status} (inRange : status.InRange) :
    status.toText = [digit (status.code.toNat / 100),
      digit (status.code.toNat / 10), digit status.code.toNat] := by
  obtain ⟨lower, upper⟩ := inRange
  unfold toText
  rw [if_neg (by omega)]

theorem parse_toText {status : Status} (inRange : status.InRange) :
    parse status.toText = status := by
  rw [toText_of_inRange inRange]
  obtain ⟨lower, upper⟩ := inRange
  obtain ⟨code⟩ := status
  simp only at lower upper
  simp only [parse, isDigit_digit, Bool.and_self, if_true, digitValue_digit,
    Status.mk.injEq]
  omega

/-- The text of any status is three bytes that are neither blanks nor newlines. -/
theorem toText_shape (status : Status) :
    status.toText.length = 3 ∧ sp ∉ status.toText ∧ Plain status.toText := by
  have digits : ∀ value, digit value ≠ sp ∧ digit value ≠ cr ∧ digit value ≠ lf := by
    intro value
    have lower : 48 ≤ (digit value).toNat := by rw [digit_toNat]; omega
    refine ⟨?_, ?_, ?_⟩ <;>
      · intro equal
        rw [equal] at lower
        exact absurd lower (by decide)
  by_cases inRange : status.InRange
  · rw [toText_of_inRange inRange]
    refine ⟨rfl, ?_, ?_⟩
    · simp only [List.mem_cons, List.not_mem_nil, or_false, not_or]
      exact ⟨fun equal => (digits _).1 equal.symm,
        fun equal => (digits _).1 equal.symm,
        fun equal => (digits _).1 equal.symm⟩
    · simp only [plain_cons, plain_nil, and_true]
      exact ⟨(digits _).2, (digits _).2, (digits _).2⟩
  · have outside : status.code ≤ 0 ∨ 999 < status.code := by
      rw [InRange] at inRange
      omega
    rw [toText, if_pos outside]
    decide +kernel

/-- The text of a status is not the name of a protocol. -/
theorem isValid_parse_toText (status : Status) :
    (MsgProtocol.parse status.toText).isValid = false := by
  by_contra valid
  have named := MsgProtocol.isValid_parse (by simpa using valid)
  have length := congrArg List.length named
  rw [(toText_shape status).1] at length
  generalize MsgProtocol.parse status.toText = protocol at length
  cases protocol <;> exact absurd length (by decide)

end Status

end Telling.Msg
