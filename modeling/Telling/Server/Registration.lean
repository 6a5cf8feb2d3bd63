import Telling.Msg.Admission
import Telling.Msg.Composed
import Telling.Server.Services

/-!
# Registration requests

A service registers by a request whose body has two lines, the URI it wants to be
known by and its own path.  The server reads the body line by line.  What it makes of
the requests that `Registration` builds is worked out here, and which statuses it
refuses other requests with.
-/

namespace Telling.Server

open Lib Msg
open Msg.MsgWriter (StartLine headText compose)

/-- The name under which a service is registered: an empty alias stands for its
path. -/
def registeredName (servicePath servicePathAlias : Bytes) : Bytes :=
  if servicePathAlias = [] then servicePath else servicePathAlias

def registrationLine : StartLine := .request (ascii "*services") .post

/-- `Registration::Registration`, up to the request it hands to the requester. -/
def registrationRequest (servicePath servicePathAlias : Bytes) :
    Outcome (Option Bytes) :=
  compose .telling registrationLine []
    (registeredName servicePath servicePathAlias ++ (lf :: servicePath))

/-- The head of every registration request. -/
def registrationHead : Bytes := headText .telling registrationLine []

theorem registrationLine_accepted : registrationLine.Accepted := by decide

theorem parseMsg_registrationHead {requested : MsgType}
    (asked : requested = .unknown ∨ requested = .request) :
    ∃ layout, parseMsg .reset registrationHead requested = .done layout := by
  have returned : (parseMsg .reset registrationHead requested).thrown = none := by
    rcases asked with rfl | rfl <;> decide +kernel
  exact ⟨(parseMsg .reset registrationHead requested).layout, by
    rw [Parsed.done, ← returned]⟩

/-- The request is always built. -/
theorem registrationRequest_result (servicePath servicePathAlias : Bytes) :
    (registrationRequest servicePath servicePathAlias).result =
      .ok (some (registrationHead ++
        (registeredName servicePath servicePathAlias ++ (lf :: servicePath)))) := by
  obtain ⟨layout, parsed⟩ := parseMsg_registrationHead (.inl rfl)
  exact MsgWriter.compose_of_parsed registrationLine_accepted (by simp) parsed _

namespace Services

/-- Behind that head, only the body decides. -/
theorem decodeRegistration_head (body : Bytes) :
    decodeRegistration (registrationHead ++ body) =
      if (consumeLine (consumeLine body).2).2 ≠ [] then
        .error (.badRequest, ascii "Malformed Registration Request Body.")
      else .ok (consumeLine body).1 := by
  obtain ⟨layout, parsed⟩ := parseMsg_registrationHead (.inr rfl)
  have plain := StartLine.text_plain .telling registrationLine_accepted
  have whole := MsgWriter.parseMsg_headText_append plain (by simp) parsed body
  have read := (MsgWriter.view_headText plain (by simp) whole).2
  have viewed : MsgView.parse (registrationHead ++ body) .request =
      .ok ⟨registrationHead ++ body, layout⟩ :=
    MsgView.parse_eq_ok.mpr ⟨rfl, whole⟩
  simp only [decodeRegistration, viewed]
  rw [registrationHead, read]

/-- A text without newlines is one line, ended by the end of data. -/
theorem consumeLine_of_plain {text : Bytes} (plain : Plain text) :
    consumeLine text = (text, []) := by
  rcases consumeLine_cases text with ⟨eol, lineAt⟩ | ⟨_, whole⟩
  · rw [lineAt.split, plain_append, plain_append] at plain
    rcases lineAt.newline with rfl | rfl | ⟨rfl, _⟩ <;> simp [lf, cr] at plain
  · exact whole

/-- A body of two lines registers its first line. -/
theorem decodeRegistration_twoLines {name path : Bytes} (plainName : Plain name)
    (plainPath : Plain path) :
    decodeRegistration (registrationHead ++ (name ++ (lf :: path))) = .ok name := by
  have first : consumeLine (name ++ (lf :: path)) = (name, path) :=
    consumeLine_of_lineAt ⟨rfl, plainName, .inl rfl⟩
  rw [decodeRegistration_head, first, consumeLine_of_plain plainPath]
  rfl

/-- The URI that the server reads in a registration request: the first line of the
body. -/
def requestedUri (servicePath servicePathAlias : Bytes) : Bytes :=
  (consumeLine (registeredName servicePath servicePathAlias ++ (lf :: servicePath))).1

section Requests

variable {servicePath servicePathAlias : Bytes}

theorem registeredName_plain (plainPath : Plain servicePath)
    (plainAlias : Plain servicePathAlias) :
    Plain (registeredName servicePath servicePathAlias) := by
  unfold registeredName
  split
  · exact plainPath
  · exact plainAlias

/-- Without line breaks in path and alias, it is the name of the service. -/
theorem requestedUri_of_plain (plainPath : Plain servicePath)
    (plainAlias : Plain servicePathAlias) :
    requestedUri servicePath servicePathAlias =
      registeredName servicePath servicePathAlias := by
  have first := consumeLine_of_lineAt
    (LineAt.of_newline (registeredName_plain plainPath plainAlias) (.inl rfl) servicePath)
  exact congrArg Prod.fst first

/-- The request of a service asks for that URI, unless line breaks in its path or alias
give the body a third line. -/
theorem decodeRegistration_request (servicePath servicePathAlias : Bytes) :
    decodeRegistration (registrationHead ++
        (registeredName servicePath servicePathAlias ++ (lf :: servicePath))) =
        .ok (requestedUri servicePath servicePathAlias) ∨
      ¬(Plain servicePath ∧ Plain servicePathAlias) ∧
        decodeRegistration (registrationHead ++
          (registeredName servicePath servicePathAlias ++ (lf :: servicePath))) =
          .error (.badRequest, ascii "Malformed Registration Request Body.") := by
  by_cases plain : Plain servicePath ∧ Plain servicePathAlias
  · obtain ⟨plainPath, plainAlias⟩ := plain
    rw [requestedUri_of_plain plainPath plainAlias]
    exact .inl (decodeRegistration_twoLines
      (registeredName_plain plainPath plainAlias) plainPath)
  · rw [decodeRegistration_head]
    split
    · exact .inr ⟨plain, rfl⟩
    · exact .inl rfl

end Requests

/-- A request is refused as malformed, or because its head is too large. -/
theorem decodeRegistration_error {msg body : Bytes} {status : Status}
    (refused : decodeRegistration msg = .error (status, body)) :
    status = .badRequest ∨ status = .requestHeaderFieldsTooLarge := by
  unfold decodeRegistration at refused
  cases parsed : MsgView.parse msg .request with
  | error exception =>
      rw [parsed] at refused
      obtain rfl := (Prod.mk.inj (Except.error.inj refused)).1
      exact MsgView.replyStatus_of_parse parsed
  | ok view =>
      rw [parsed] at refused
      dsimp only at refused
      split at refused
      · exact .inl (Prod.mk.inj (Except.error.inj refused)).1.symm
      · contradiction

end Services

end Telling.Server
