import Telling.Io.SendLoop
import Telling.Msg.Admission
import Telling.Msg.ErrorReply
import Telling.Msg.Uri

/-!
# Reactors

A `Reactor` is a service handler that parses requests and calls one of its `async_*`
members by their method.  A subclass overrides the members it wants to serve.  What
they throw, and what `_handle` throws itself, becomes an error reply.
-/

namespace Telling.Service

open Lib Msg
open Io (SendPrompt)
open Msg.MsgWriter (Methods HeaderAccepted headerLines validMethods)

/-! ## Exceptions -/

/-- An exception derived from `std::exception`, by the clause that catches it. -/
inductive Exception where
  | replyable (exception : Replyable)
  | nng (what who : Bytes)
  | std (what : Bytes)

namespace Exception

/-- The status that tells of the exception. -/
def replyStatus : Exception → Status
  | .replyable exception => exception.replyStatus
  | .nng _ _ | .std _ => .internalServerError

/-- The message that the catch clauses write. -/
def reply (exception : Exception) (uriPrefix : Bytes) : Except WriterError (Option Bytes) :=
  match exception with
  | .replyable exception => exception.replyWithError uriPrefix
  | .nng what who =>
      (writeReply .internalServerError plainText (some
        (ascii "NNG exception in `" ++ uriPrefix ++ ascii "`:\r\n\t" ++ what ++
          ascii " -- " ++ who))).result
  | .std what =>
      (writeReply .internalServerError plainText (some
        (ascii "C++ exception in `" ++ uriPrefix ++ ascii "`:\r\n\t" ++ what))).result

/-- When that message carries the status. -/
def Tells (exception : Exception) (uriPrefix : Bytes) : Prop :=
  match exception with
  | .replyable exception => exception.Tells uriPrefix
  | .nng _ _ | .std _ => True

theorem reply_iff (exception : Exception) (uriPrefix : Bytes) :
    (∃ reply, exception.reply uriPrefix = .ok (some reply) ∧
      IsReply reply exception.replyStatus) ↔ exception.Tells uriPrefix := by
  have internal : Status.internalServerError.ReadsBack := by decide
  cases exception with
  | replyable exception => exact exception.replyWithError_iff uriPrefix
  | nng what who =>
      exact (Replyable.isReply_of_written_iff
        (writeReply_result _ plainText_fits _)).trans (iff_of_true internal trivial)
  | std what =>
      exact (Replyable.isReply_of_written_iff
        (writeReply_result _ plainText_fits _)).trans (iff_of_true internal trivial)

end Exception

/-! ## Handlers -/

/-- The `async_*` members. -/
inductive Handler where
  | get
  | head
  | options
  | trace
  | put
  | delete
  | patch
  | post
  | unknown
  deriving DecidableEq, Repr

/-- The switch on the method of a request. -/
def handlerOf : Method → Option Handler
  | .get => some .get
  | .head => some .head
  | .options => some .options
  | .trace => some .trace
  | .put => some .put
  | .delete => some .delete
  | .patch => some .patch
  | .post => some .post
  | .unknown => some .unknown
  | .connect | .none | .endOfValidMethods => none

/-- The method texts for which the switch only breaks. -/
theorem handlerOf_parse_eq_none_iff (text : Bytes) :
    handlerOf (.parse text) = none ↔ text = [] ∨ text = ascii "CONNECT" := by
  constructor
  · intro unserved
    rcases Method.parse_cases text with ⟨empty, _⟩ | unknown | ⟨valid, named⟩
    · exact .inl empty
    · rw [unknown] at unserved
      contradiction
    · refine .inr ?_
      cases parsed : Method.parse text <;> rw [parsed] at unserved valid named <;>
        first | contradiction | exact named
  · rintro (rfl | rfl)
    · rfl
    · have parsed : Method.parse (ascii "CONNECT") = .connect := by decide +kernel
      rw [parsed]
      rfl

/-- What a call of a handler comes to: a call of `query.reply`, whose message may be
null, an answer put off until later, or an exception. -/
inductive Reaction where
  | replies (msg : Option Bytes)
  | defers
  | throws (exception : Exception)
  | terminates

/-- `query.reply` of a message that is being written.  The only error of NNG that a
writer reports is `NNG_ENOSPC`. -/
def Reaction.ofWritten (written : Outcome (Option Bytes)) : Reaction :=
  match written.result with
  | .ok msg => .replies msg
  | .error (.msg exception) => .throws (.replyable (.msg exception))
  | .error (.nng _ who) => .throws (.nng (ascii "Out of space") who)
  | .error .terminate => .terminates

/-- The replies with an `Allow` header: `WriteReply`, `writeHeader_Allow`, `release`. -/
def writeAllowed (status : Status) (methods : Methods) : Outcome (Option Bytes) :=
  ((MsgWriter.new .telling).start (.reply status status.reasonPhrase)).andThen
    fun writer _ => (writer.writeHeaderAllow methods).andThen fun writer _ =>
      writer.release

/-- The handlers of `Reactor` itself: `async_trace`, `async_options`, and
`NotImplemented` for the others.  `async_get` is pure virtual. -/
def inherited (methods : Methods) : Handler → Outcome (Option Bytes)
  | .trace => writeReply .ok [(ascii "Content-Type", ascii "http")] none
  | .options => writeAllowed .ok methods
  | _ => writeAllowed .notImplemented methods

def inheritedStatus : Handler → Status
  | .trace | .options => .ok
  | _ => .notImplemented

section Inherited

def allowHeader (methods : Methods) : Bytes × Bytes :=
  (ascii "Allow", List.intercalate (ascii ", ")
    ((validMethods.filter methods.contains).map Method.toText))

theorem writeAllowed_eq (status : Status) (methods : Methods) :
    writeAllowed status methods = writeReply status [allowHeader methods] none := by
  have allowed (writer : MsgWriter) :
      writer.writeHeaders [allowHeader methods] = writer.writeHeaderAllow methods := by
    rw [MsgWriter.writeHeaders, MsgWriter.writeHeaderAllow, allowHeader]
    cases writer.writeHeader _ _ with
    | mk next result => cases result <;> rfl
  unfold writeAllowed writeReply
  simp only [allowed]
  rfl

theorem allowHeader_fits (methods : Methods) : ReplyHeaders [allowHeader methods] := by
  have valid : ∀ method ∈ validMethods, method.isValid := by decide
  have texts : ∀ text ∈ (validMethods.filter methods.contains).map Method.toText,
      Plain text ∧ text.length ≤ 14 := by
    intro text member
    obtain ⟨method, kept, rfl⟩ := List.mem_map.mp member
    have shape := Method.toText_shape (valid method (List.mem_of_mem_filter kept))
    exact ⟨shape.2.1, shape.2.2.2⟩
  have comma : Plain (ascii ", ") ∧ (ascii ", ").length = 2 := by decide +kernel
  have name : (ascii "Allow").length = 5 := by decide +kernel
  refine .of_header ⟨?_, ?_, ?_⟩ ?_
  · exact (by decide +kernel : Plain (ascii "Allow"))
  · exact (by decide +kernel : colon ∉ ascii "Allow")
  · exact plain_intercalate comma.1 _ fun text member => (texts text member).1
  · have value := @length_intercalate_le (ascii ", ") 14 _
      fun text member => (texts text member).2
    have count := List.length_filter_le methods.contains validMethods
    have nine : validMethods.length = 9 := rfl
    rw [List.length_map, comma.2] at value
    omega

/-- Every inherited handler replies, whatever methods are allowed. -/
theorem inherited_replies (methods : Methods) (handler : Handler) :
    ∃ reply, (inherited methods handler).result = .ok (some reply) ∧
      IsReply reply (inheritedStatus handler) := by
  have http : ReplyHeaders [(ascii "Content-Type", ascii "http")] :=
    .of_header ⟨by decide +kernel, by decide +kernel, by decide +kernel⟩ (by decide +kernel)
  have written (status : Status) (readsBack : status.ReadsBack)
      {headers : List (Bytes × Bytes)} (fit : ReplyHeaders headers) :
      ∃ reply, (writeReply status headers none).result = .ok (some reply) ∧
        IsReply reply status :=
    ⟨_, writeReply_result status fit none,
      (isReply_replyHead_iff status fit _).mpr readsBack⟩
  have allowed (status : Status) (readsBack : status.ReadsBack) :
      ∃ reply, (writeAllowed status methods).result = .ok (some reply) ∧
        IsReply reply status := by
    rw [writeAllowed_eq]
    exact written status readsBack (allowHeader_fits methods)
  cases handler with
  | trace => exact written .ok (by decide) http
  | options => exact allowed .ok (by decide)
  | _ => exact allowed .notImplemented (by decide)

end Inherited

/-! ## The reactor -/

/-- A `Reactor`, as a subclass makes it: the prefix, the allowed methods by URI, and the
handlers that it overrides.  Handlers may keep state, so a value is the reactor as it
stands in one call. -/
structure Reactor where
  uriPrefix : Bytes
  allowed : Bytes → Methods
  overrides : Handler → Option (MsgView → Reaction)
  implementsGet : (overrides .get).isSome

/-- What a call of `_handle` leaves: the handlers that were called, the message at the
destination of the prompt, and what was thrown. -/
structure Handled where
  ran : List Handler
  dest : Option Bytes
  thrown : Option WriterError
  deriving DecidableEq, Repr

/-- A reply with the status is at the destination. -/
def Handled.Tells (handled : Handled) (status : Status) : Prop :=
  ∃ reply, handled.dest = some reply ∧ IsReply reply status

namespace Reactor

/-- A call of a handler. -/
def react (reactor : Reactor) (handler : Handler) (request : MsgView) : Reaction :=
  match reactor.overrides handler with
  | some own => own request
  | none => .ofWritten (inherited (reactor.allowed request.uriString) handler)

/-- The catch clauses of `_handle`. -/
def caught (reactor : Reactor) (prompt : SendPrompt) (ran : List Handler)
    (exception : Exception) : Handled :=
  if prompt.hasDest then
    match exception.reply reactor.uriPrefix with
    | .ok msg => ⟨ran, (prompt.call none msg).1, none⟩
    | .error thrown => ⟨ran, none, some thrown⟩
  else ⟨ran, none, none⟩

/-- The end of the try block of `_handle`, for a request within the prefix. -/
def dispatch (reactor : Reactor) (prompt : SendPrompt) (request : MsgView) : Handled :=
  match handlerOf request.method with
  | none => ⟨[], none, none⟩
  | some handler =>
      match reactor.react handler request with
      | .replies msg => ⟨[handler], (prompt.call none msg).1, none⟩
      | .defers => ⟨[handler], none, none⟩
      | .throws exception => reactor.caught prompt [handler] exception
      | .terminates => ⟨[handler], none, some .terminate⟩

/-- `_handle`. -/
def handle (reactor : Reactor) (prompt : SendPrompt) (msg : Bytes) : Handled :=
  match MsgView.parse msg .request with
  | .error exception => reactor.caught prompt [] (.replyable (.msg exception))
  | .ok request =>
      if Uri.hasPrefix request.uriString reactor.uriPrefix then
        reactor.dispatch prompt request
      else
        reactor.caught prompt []
          (.replyable (.statusError .badGateway reactor.uriPrefix))

/-- `async_recv(Pulling)`: the prompt has no destination. -/
def recvPulling (reactor : Reactor) (msg : Bytes) : Handled := reactor.handle ⟨false⟩ msg

/-- `async_recv(Replying)`. -/
def recvReplying (reactor : Reactor) (msg : Bytes) : Handled := reactor.handle ⟨true⟩ msg

/-! ## Answers -/

/-- Every handler that the subclass overrides replies once with a message, or throws. -/
def Obliging (reactor : Reactor) : Prop :=
  ∀ handler own, reactor.overrides handler = some own → ∀ request,
    (∃ reply, own request = .replies (some reply)) ∨
      ∃ exception, own request = .throws exception

/-- A message that parses to a request within the prefix. -/
structure Reaches (reactor : Reactor) (msg : Bytes) (request : MsgView) : Prop where
  parsed : MsgView.parse msg .request = .ok request
  inside : Uri.hasPrefix request.uriString reactor.uriPrefix

/-- What a client expects of `async_recv(Replying)`. -/
structure Answers (reactor : Reactor) (msg : Bytes) : Prop where
  returns : (reactor.recvReplying msg).thrown = none
  replies : (reactor.recvReplying msg).dest.isSome
  unparseable : (∀ request, MsgView.parse msg .request ≠ .ok request) →
    (reactor.recvReplying msg).ran = [] ∧
      ((reactor.recvReplying msg).Tells .badRequest ∨
        (reactor.recvReplying msg).Tells .requestHeaderFieldsTooLarge)
  outside : ∀ request, MsgView.parse msg .request = .ok request →
    ¬Uri.hasPrefix request.uriString reactor.uriPrefix →
    (reactor.recvReplying msg).ran = [] ∧ (reactor.recvReplying msg).Tells .badGateway
  threw : ∀ request, reactor.Reaches msg request →
    ∀ handler exception, handlerOf request.method = some handler →
      reactor.react handler request = .throws exception →
      (reactor.recvReplying msg).Tells exception.replyStatus

/-- The messages that get an answer: within the prefix, the method has a handler, and
the reply to what the handler throws carries the status. -/
def Answerable (reactor : Reactor) (msg : Bytes) : Prop :=
  ∀ request, reactor.Reaches msg request →
    request.methodString ≠ [] ∧ request.methodString ≠ ascii "CONNECT" ∧
      ∀ handler exception, handlerOf request.method = some handler →
        reactor.react handler request = .throws exception →
        exception.Tells reactor.uriPrefix

section Outcomes

variable {reactor : Reactor} {msg : Bytes} {request : MsgView} {ran : List Handler}
variable {exception : Exception}

/-- The inherited handlers oblige as well. -/
theorem Obliging.react (obliging : reactor.Obliging) (handler : Handler)
    (request : MsgView) :
    (∃ reply, reactor.react handler request = .replies (some reply)) ∨
      ∃ exception, reactor.react handler request = .throws exception := by
  unfold Reactor.react
  cases overridden : reactor.overrides handler with
  | some own => exact obliging handler own overridden request
  | none =>
      obtain ⟨reply, written, -⟩ := inherited_replies
        (reactor.allowed request.uriString) handler
      exact .inl ⟨reply, by simp only [Reaction.ofWritten, written]⟩

/-- A caught exception is told of exactly when its reply carries its status. -/
theorem caught_tells_iff :
    (reactor.caught ⟨true⟩ ran exception).Tells exception.replyStatus ↔
      exception.Tells reactor.uriPrefix := by
  rw [← exception.reply_iff reactor.uriPrefix]
  unfold caught Handled.Tells
  cases exception.reply reactor.uriPrefix with
  | ok reply => simp [SendPrompt.call]
  | error thrown => simp

theorem caught_returns (tells : exception.Tells reactor.uriPrefix) :
    (reactor.caught ⟨true⟩ ran exception).thrown = none ∧
      (reactor.caught ⟨true⟩ ran exception).dest.isSome := by
  obtain ⟨reply, written, -⟩ := (exception.reply_iff reactor.uriPrefix).mpr tells
  simp [caught, written, SendPrompt.call]

theorem caught_ran {prompt : SendPrompt} :
    (reactor.caught prompt ran exception).ran = ran := by
  unfold caught
  cases exception.reply reactor.uriPrefix <;> simp only [ite_self, apply_ite Handled.ran]

theorem handle_unparseable {exception : MsgException} (prompt : SendPrompt)
    (failed : MsgView.parse msg .request = .error exception) :
    reactor.handle prompt msg =
      reactor.caught prompt [] (.replyable (.msg exception)) := by
  rw [handle, failed]

theorem handle_outside (prompt : SendPrompt)
    (parsed : MsgView.parse msg .request = .ok request)
    (outside : ¬Uri.hasPrefix request.uriString reactor.uriPrefix) :
    reactor.handle prompt msg = reactor.caught prompt []
      (.replyable (.statusError .badGateway reactor.uriPrefix)) := by
  rw [handle, parsed]
  exact if_neg outside

theorem Reaches.handle (reaches : reactor.Reaches msg request) (prompt : SendPrompt) :
    reactor.handle prompt msg = reactor.dispatch prompt request := by
  rw [Reactor.handle, reaches.parsed]
  exact if_pos reaches.inside

theorem dispatch_thrown {handler : Handler} (prompt : SendPrompt)
    (served : handlerOf request.method = some handler)
    (thrown : reactor.react handler request = .throws exception) :
    reactor.dispatch prompt request = reactor.caught prompt [handler] exception := by
  simp only [dispatch, served, thrown]

/-- A push gets no reply. -/
theorem recvPulling_dest (reactor : Reactor) (msg : Bytes) :
    (reactor.recvPulling msg).dest = none := by
  have caughtNone (ran : List Handler) (exception : Exception) :
      (reactor.caught ⟨false⟩ ran exception).dest = none := rfl
  unfold recvPulling handle
  cases MsgView.parse msg .request with
  | error exception => exact caughtNone _ _
  | ok request =>
      dsimp only
      split
      · unfold dispatch
        cases handlerOf request.method with
        | none => rfl
        | some handler =>
            dsimp only
            cases reactor.react handler request with
            | throws exception => exact caughtNone _ _
            | _ => rfl
      · exact caughtNone _ _

/-- Exceptions of `_handle` itself. -/
theorem answers_of_caught {exception : Exception}
    (handled : reactor.recvReplying msg = reactor.caught ⟨true⟩ [] exception)
    (tells : exception.Tells reactor.uriPrefix) :
    (reactor.recvReplying msg).thrown = none ∧ (reactor.recvReplying msg).dest.isSome ∧
      (reactor.recvReplying msg).ran = [] ∧
      (reactor.recvReplying msg).Tells exception.replyStatus := by
  obtain ⟨returns, replies⟩ := @caught_returns reactor [] exception tells
  rw [handled]
  exact ⟨returns, replies, caught_ran, caught_tells_iff.mpr tells⟩

theorem answers_unparseable {exception : MsgException}
    (failed : MsgView.parse msg .request = .error exception) : reactor.Answers msg := by
  obtain ⟨returns, replies, idle, told⟩ :=
    answers_of_caught (handle_unparseable ⟨true⟩ failed) trivial
  refine ⟨returns, replies, fun _ => ⟨idle, ?_⟩, ?_, ?_⟩
  · rcases MsgView.replyStatus_of_parse failed with status | status
    · exact .inl (status ▸ told)
    · exact .inr (status ▸ told)
  · intro request parsed
    rw [failed] at parsed
    contradiction
  · intro request reaches
    have parsed := reaches.parsed
    rw [failed] at parsed
    contradiction

theorem answers_outside (parsed : MsgView.parse msg .request = .ok request)
    (outside : ¬Uri.hasPrefix request.uriString reactor.uriPrefix) :
    reactor.Answers msg := by
  obtain ⟨returns, replies, idle, told⟩ := answers_of_caught
    (handle_outside ⟨true⟩ parsed outside)
    (show Status.badGateway.ReadsBack by decide)
  refine ⟨returns, replies, fun unparsed => absurd parsed (unparsed request),
    fun _ _ _ => ⟨idle, told⟩, ?_⟩
  intro other reaches
  obtain rfl := Except.ok.inj (parsed.symm.trans reaches.parsed)
  exact absurd reaches.inside outside

/-- Within the prefix it depends on the handler. -/
theorem answers_reaching_iff (obliging : reactor.Obliging)
    (reaches : reactor.Reaches msg request) :
    reactor.Answers msg ↔
      ∃ handler, handlerOf request.method = some handler ∧
        ∀ exception, reactor.react handler request = .throws exception →
          exception.Tells reactor.uriPrefix := by
  have handled : reactor.recvReplying msg = reactor.dispatch ⟨true⟩ request :=
    reaches.handle ⟨true⟩
  have same {other : MsgView} (reachesToo : reactor.Reaches msg other) : other = request :=
    Except.ok.inj (reachesToo.parsed.symm.trans reaches.parsed)
  constructor
  · intro answers
    have replies := answers.replies
    cases served : handlerOf request.method with
    | none =>
        rw [handled, dispatch, served] at replies
        contradiction
    | some handler =>
        refine ⟨handler, rfl, fun exception thrown => ?_⟩
        have told := answers.threw request reaches handler exception served thrown
        rw [handled, dispatch_thrown ⟨true⟩ served thrown] at told
        exact caught_tells_iff.mp told
  · rintro ⟨handler, served, tells⟩
    have returned : (reactor.dispatch ⟨true⟩ request).thrown = none ∧
        (reactor.dispatch ⟨true⟩ request).dest.isSome := by
      rcases obliging.react handler request with ⟨reply, replied⟩ | ⟨exception, thrown⟩
      · simp [dispatch, served, replied, SendPrompt.call]
      · rw [dispatch_thrown ⟨true⟩ served thrown]
        exact caught_returns (tells exception thrown)
    rw [← handled] at returned
    refine ⟨returned.1, returned.2, fun unparsed => absurd reaches.parsed (unparsed request),
      ?_, ?_⟩
    · intro other parsed outside
      obtain rfl := Except.ok.inj (parsed.symm.trans reaches.parsed)
      exact absurd reaches.inside outside
    · intro other reachesToo other exception servedToo thrown
      obtain rfl := same reachesToo
      obtain rfl := Option.some.inj (served.symm.trans servedToo)
      rw [handled, dispatch_thrown ⟨true⟩ served thrown]
      exact caught_tells_iff.mpr (tells exception thrown)

theorem answerable_reaching_iff (reaches : reactor.Reaches msg request) :
    reactor.Answerable msg ↔
      ∃ handler, handlerOf request.method = some handler ∧
        ∀ exception, reactor.react handler request = .throws exception →
          exception.Tells reactor.uriPrefix := by
  have unserved := handlerOf_parse_eq_none_iff request.methodString
  constructor
  · intro answerable
    obtain ⟨nonempty, supported, tells⟩ := answerable request reaches
    cases served : handlerOf request.method with
    | none => exact absurd (unserved.mp served) (not_or.mpr ⟨nonempty, supported⟩)
    | some handler => exact ⟨handler, rfl, fun exception => tells handler exception served⟩
  · rintro ⟨handler, served, tells⟩ other reachesToo
    obtain rfl := Except.ok.inj (reaches.parsed.symm.trans reachesToo.parsed)
    have has : ¬handlerOf request.method = none := by simp [served]
    obtain ⟨nonempty, supported⟩ := not_or.mp (mt unserved.mpr has)
    refine ⟨nonempty, supported, fun other exception servedToo => ?_⟩
    obtain rfl := Option.some.inj (served.symm.trans servedToo)
    exact tells exception

end Outcomes

/-- The condition under which a message that is delivered to a reactor is answered. -/
theorem answers_iff (reactor : Reactor) (obliging : reactor.Obliging) (msg : Bytes) :
    reactor.Answers msg ↔ reactor.Answerable msg := by
  cases parsed : MsgView.parse msg .request with
  | error exception =>
      refine iff_of_true (answers_unparseable parsed) fun request reaches => ?_
      have parsedToo := reaches.parsed
      rw [parsed] at parsedToo
      contradiction
  | ok request =>
      by_cases inside : Uri.hasPrefix request.uriString reactor.uriPrefix
      · have reaches : reactor.Reaches msg request := ⟨parsed, inside⟩
        rw [answers_reaching_iff obliging reaches, answerable_reaching_iff reaches]
      · refine iff_of_true (answers_outside parsed inside) fun other reaches => ?_
        obtain rfl := Except.ok.inj (parsed.symm.trans reaches.parsed)
        exact absurd reaches.inside inside

/-- A reactor at `/a` that answers GET with a greeting and refuses every PUT. -/
def greeter : Reactor where
  uriPrefix := ascii "/a"
  allowed := fun _ => ⟨2⟩
  overrides
    | .get => some fun _ => .replies (some (ascii "Tell/0 200 OK\n\nhello"))
    | .put => some fun _ => .throws (.replyable (.statusError .conflict (ascii "busy")))
    | _ => none
  implementsGet := rfl

theorem greeter_obliging : greeter.Obliging := by
  intro handler own overridden request
  cases handler <;> simp only [greeter, Option.some.injEq, reduceCtorEq] at overridden <;>
    rw [← overridden]
  · exact .inl ⟨_, rfl⟩
  · exact .inr ⟨_, rfl⟩

/-- The refused request is told of the conflict. -/
theorem answers_put :
    greeter.Answers (ascii "PUT /a/b Tell/0\n\n") ∧
      (greeter.recvReplying (ascii "PUT /a/b Tell/0\n\n")).ran = [.put] := by
  have method : (MsgView.parse (ascii "PUT /a/b Tell/0\n\n") .request).map
      MsgView.methodString = .ok (ascii "PUT") := by decide +kernel
  refine ⟨(greeter.answers_iff greeter_obliging _).mpr ?_, by decide +kernel⟩
  intro request reaches
  rw [reaches.parsed] at method
  have put := Except.ok.inj method
  refine ⟨?_, ?_, ?_⟩
  · rw [put]
    decide +kernel
  · rw [put]
    decide +kernel
  · intro handler exception served thrown
    have parsed : Method.parse (ascii "PUT") = .put := by decide +kernel
    rw [MsgView.method, put, parsed] at served
    obtain rfl := Option.some.inj served
    obtain rfl := Reaction.throws.inj thrown
    exact (by decide : Status.conflict.ReadsBack)

/-- A CONNECT request, and one whose method is empty, leave the client without a
reply. -/
theorem connect_unanswered :
    greeter.Obliging ∧
      greeter.recvReplying (ascii "CONNECT /a Tell/0\n\n") = ⟨[], none, none⟩ ∧
      ¬greeter.Answers (ascii "CONNECT /a Tell/0\n\n") ∧
      greeter.recvReplying (ascii " /a Tell/0\n\n") = ⟨[], none, none⟩ ∧
      ¬greeter.Answers (ascii " /a Tell/0\n\n") := by
  have connect : greeter.recvReplying (ascii "CONNECT /a Tell/0\n\n") =
      ⟨[], none, none⟩ := by decide +kernel
  have empty : greeter.recvReplying (ascii " /a Tell/0\n\n") = ⟨[], none, none⟩ := by
    decide +kernel
  refine ⟨greeter_obliging, connect, fun answers => ?_, empty, fun answers => ?_⟩
  · have replies := answers.replies
    rw [connect] at replies
    contradiction
  · have replies := answers.replies
    rw [empty] at replies
    contradiction

end Reactor

end Telling.Service
