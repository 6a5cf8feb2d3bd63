import Telling.Io.RequestProtocol
import Telling.Server.Registry

/-!
# Registration, from both sides

A `Registration` asks the registry of a server in the same process to enroll a service,
and keeps the outcome in its delegate.  The machine below couples any number of
registering services with the registry: their requests and the replies travel through
NNG in any order, and each operation may fail.  What a service believes is what the
registry has answered it.
-/

namespace Telling.Service

open Lib Msg Server
open Io (NngError NngException OutboxItem QueryID Reply Request)
open Io.Request (Completion Event)

/-! ## Statuses by class -/

/-- `HttpStatus::isInformational`. -/
def isInformational (status : Status) : Bool :=
  decide (100 ≤ status.code) && decide (status.code < 200)

/-- `HttpStatus::isRedirection`. -/
def isRedirection (status : Status) : Bool :=
  decide (300 ≤ status.code) && decide (status.code < 400)

/-- `HttpStatus::isClientError`. -/
def isClientError (status : Status) : Bool :=
  decide (400 ≤ status.code) && decide (status.code < 500)

/-- `HttpStatus::isServerError`. -/
def isServerError (status : Status) : Bool :=
  decide (500 ≤ status.code) && decide (status.code < 600)

/-! ## The delegate -/

/-- `nng::error::addrinuse`, `addrinval` and `perm`. -/
def addrinuse : NngError := .other 10

@[inherit_doc addrinuse] def addrinval : NngError := .other 15

@[inherit_doc addrinuse] def perm : NngError := .other 16

/-- `Registration::STATUS`. -/
inductive Standing where
  | initial
  | requested
  | enlisted
  | failed
  deriving DecidableEq, Repr

/-- `Registration::Delegate`. -/
structure Delegate where
  status : Standing := .initial
  except : NngException := ⟨.success, ""⟩
  deriving DecidableEq, Repr

namespace Delegate

/-- The `switch` over client errors. -/
def errType (status : Status) : NngError :=
  if status.code = 401 then perm
  else if status.code = 409 then addrinuse
  else if status.code = 404 then .exist
  else if status.code = 414 then addrinval
  else .internal

/-- The exception kept for a reply that is not successful. -/
def refusal (status : Status) : NngException :=
  if isClientError status then ⟨errType status, "Registration Request Error"⟩
  else if isServerError status then ⟨.internal, "Registration Server Error"⟩
  else if isInformational status then ⟨.internal, "Registration Informational Reply"⟩
  else if isRedirection status then ⟨.internal, "Registration Redirection"⟩
  else ⟨.internal, "Registration Reply Status"⟩

def asyncSent (delegate : Delegate) : Delegate :=
  { delegate with status := .requested }

def asyncRecv (delegate : Delegate) (response : Bytes) : Except MsgException Delegate :=
  match MsgView.parse response .reply with
  | .error thrown => .error thrown
  | .ok reply =>
      if reply.status.isSuccessful then .ok { delegate with status := .enlisted }
      else .ok { status := .failed, except := refusal reply.status }

def asyncError (error : NngError) : Delegate :=
  { status := .failed, except := ⟨error, "Registration Networking Error"⟩ }

/-- A call of the requester. -/
def call (delegate : Delegate) : Event Bytes → Except MsgException Delegate
  | .prep => .ok delegate
  | .sent => .ok delegate.asyncSent
  | .recv response => delegate.asyncRecv response
  | .error error => .ok (asyncError error)

def calls (delegate : Delegate) : List (Event Bytes) → Except MsgException Delegate
  | [] => .ok delegate
  | event :: events =>
      match delegate.call event with
      | .error thrown => .error thrown
      | .ok delegate => delegate.calls events

end Delegate

/-! ## The registration object -/

/-- `Registration`, with the message that its constructor gives to the requester.  The
delegate lives as long as the requester. -/
structure Registration where
  delegate : Delegate
  requester : Request Bytes
  request : Bytes

namespace Registration

/-- `Registration::Registration`, once the requester has dialed. -/
def construct (servicePath servicePathAlias : Bytes) (ctx : QueryID) :
    Option Registration :=
  match (registrationRequest servicePath servicePathAlias).result with
  | .ok (some msg) => some
      { delegate := {}
        requester := (Request.initial.request true true ctx (.accepted msg)).2
        request := msg }
  | _ => none

/-- An operation of the requester's one action completes and the delegate is called.
There is no result when the delegate throws. -/
def complete (registration : Registration) (completion : Completion Bytes) :
    Option Registration :=
  match registration.requester.step (.complete 0 completion) with
  | none => none
  | some requester =>
      match registration.delegate.calls
          ((registration.requester.actions 0).react completion).1 with
      | .error _ => none
      | .ok delegate => some
          { registration with delegate := delegate, requester := requester }

/-- The callback takes the lock. -/
def commit (registration : Registration) : Option Registration :=
  (registration.requester.step (.commit 0)).map fun requester =>
    { registration with requester := requester }

/-- The operation that is under way. -/
def operation (registration : Registration) : Option (Request.Operation Bytes) :=
  (registration.requester.actions 0).inFlight.head?

end Registration

/-! ## Services and registry together -/

/-- The registry and the services that register with it, by their pipes. -/
structure Handshake where
  registry : Registry
  members : PipeID → Registration

namespace Handshake

/-- The steps: those of the registry, the receipt of a request, and what happens to the
operations of a service. -/
inductive Label where
  | serve (label : Registry.Label)
  | submit (pipeID : PipeID)
  | sent (pipeID : PipeID)
  | replied (pipeID : PipeID) (index : Nat)
  | failed (pipeID : PipeID) (error : NngError)
  | commit (pipeID : PipeID)

/-- The registry takes a step.  When that ends the process, it ends the services, too. -/
def serve (handshake : Handshake) (label : Registry.Label) : Option Handshake :=
  match handshake.registry.step label with
  | none => none
  | some registry =>
      if registry.alive then some { handshake with registry := registry } else none

/-- A service takes a step. -/
def act (handshake : Handshake) (pipeID : PipeID)
    (change : Registration → Option Registration) : Option Handshake :=
  (change (handshake.members pipeID)).map fun registration =>
    { handshake with
      members := Function.update handshake.members pipeID registration }

/-- The answer goes back to the pipe that the request for it came from. -/
def returnsTo (registry : Registry) (pipeID : PipeID) (answer : Answer) : Bool :=
  registry.inquiries.any fun inquiry =>
    decide (inquiry.pipeID = pipeID) && decide (inquiry.verdict = answer.verdict)

/-- The machine.  What the registry receives from a pipe is the request of the service
there, and what a service receives is a reply that was sent to its pipe. -/
def step (handshake : Handshake) : Label → Option Handshake
  | .serve (.receive _ _) => none
  | .serve label => handshake.serve label
  | .submit pipeID => handshake.serve (.receive pipeID (handshake.members pipeID).request)
  | .sent pipeID =>
      match (handshake.members pipeID).operation with
      | some (.send _) => handshake.act pipeID (·.complete ⟨.success, [], true⟩)
      | _ => none
  | .replied pipeID index =>
      match (handshake.members pipeID).operation,
          handshake.registry.reply.aioSend.sent[index]? with
      | some .recv, some item =>
          if returnsTo handshake.registry pipeID item.msg then
            handshake.act pipeID (·.complete ⟨.success, item.msg.text, true⟩)
          else none
      | _, _ => none
  | .failed pipeID error =>
      if error = .success then none
      else handshake.act pipeID (·.complete ⟨error, [], true⟩)
  | .commit pipeID => handshake.act pipeID Registration.commit

/-- The registry has been constructed, and so have the services. -/
def initial (addressInternal : Bytes) (ctx : QueryID) (members : PipeID → Registration) :
    Handshake where
  registry := .initial addressInternal ctx
  members := members

end Handshake

/-! ## What the delegate makes of the answers -/

namespace Delegate

/-- The reply to a registration is understood, and its status decides. -/
theorem asyncRecv_text (delegate : Delegate) {answer : Answer}
    (readsBack : answer.status.ReadsBack) :
    delegate.asyncRecv answer.text =
      .ok (if answer.status.isSuccessful then { delegate with status := .enlisted }
        else { status := .failed, except := refusal answer.status }) := by
  obtain ⟨view, parsed, status⟩ :=
    parse_replyHead answer.status answer.headers_fit answer.body
  rw [(Status.parse_toText_iff _).mpr readsBack] at status
  have read : MsgView.parse answer.text .reply = .ok view := parsed
  simp only [asyncRecv, read, status]
  split <;> rfl

end Delegate

/-! ## What a service has been told -/

open Delegate (asyncError refusal)

/-- What the calls for the query of a service have made of its delegate.  A response is
an answer of the registry that was returned to the pipe. -/
def Told (registry : Registry) (pipeID : PipeID) :
    List (Event Bytes) → Delegate → Prop
  | [.prep], delegate => delegate = {}
  | [.prep, .sent], delegate => delegate = { status := .requested }
  | [.prep, .sent, .recv response], delegate =>
      ∃ answer ∈ registry.services.answers,
        Handshake.returnsTo registry pipeID answer = true ∧ response = answer.text ∧
        delegate = if answer.status.isSuccessful then { status := .enlisted }
          else { status := .failed, except := refusal answer.status }
  | [.prep, .error error], delegate | [.prep, .sent, .error error], delegate =>
      delegate = asyncError error
  | _, _ => False

/-- The action of a service is in step with what the service has been told. -/
def Follows (registry : Registry) (pipeID : PipeID) (registration : Registration) : Prop :=
  ∃ trace, ((registration.requester.actions 0).InStep trace ∨
    (registration.requester.actions 0).Resting) ∧
    Told registry pipeID trace registration.delegate

section Members

variable {registry : Registry} {pipeID : PipeID} {registration next : Registration}
variable {completion : Completion Bytes}

theorem complete_eq_some (completed : registration.complete completion = some next) :
    (registration.requester.actions 0).inFlight ≠ [] ∧
      (next.requester.actions 0) = (registration.requester.actions 0).completed
        ((registration.requester.actions 0).react completion).2 ∧
      registration.delegate.calls
        ((registration.requester.actions 0).react completion).1 = .ok next.delegate ∧
      next.request = registration.request := by
  unfold Registration.complete at completed
  split at completed
  · contradiction
  · next requester stepped =>
      simp only [Request.step] at stepped
      split at stepped
      · contradiction
      · next operation rest flying =>
          obtain rfl := Option.some.inj stepped
          split at completed
          · contradiction
          · next delegate called =>
              obtain rfl := Option.some.inj completed
              refine ⟨by simp [flying], ?_, called, rfl⟩
              simp [Request.complete]

/-- An operation completes: its action goes on, and the delegate is called. -/
theorem Follows.complete {trace : List (Event Bytes)}
    (inStep : (registration.requester.actions 0).InStep trace) (live : completion.live)
    (completed : registration.complete completion = some next)
    (told : Told registry pipeID
      (trace ++ ((registration.requester.actions 0).react completion).1) next.delegate) :
    Follows registry pipeID next := by
  obtain ⟨flying, action, _, _⟩ := complete_eq_some completed
  exact ⟨_, .inl (action ▸ inStep.complete flying live), told⟩

/-- A service with an operation under way is in step. -/
theorem Follows.inStep (follows : Follows registry pipeID registration)
    (flying : (registration.requester.actions 0).inFlight ≠ []) :
    ∃ trace, (registration.requester.actions 0).InStep trace ∧
      Told registry pipeID trace registration.delegate := by
  obtain ⟨trace, inStep | resting, told⟩ := follows
  · exact ⟨trace, inStep, told⟩
  · exact absurd resting.2.1 flying

theorem Follows.sent (follows : Follows registry pipeID registration) {msg : Bytes}
    (sends : registration.operation = some (.send msg))
    (completed : registration.complete ⟨.success, [], true⟩ = some next) :
    Follows registry pipeID next := by
  obtain ⟨flying, _, called, _⟩ := complete_eq_some completed
  obtain ⟨trace, inStep, told⟩ := follows.inStep flying
  unfold Registration.operation at sends
  refine Follows.complete inStep rfl completed ?_
  generalize registration.requester.actions 0 = action at inStep called sends flying ⊢
  cases inStep with
  | sending ctx msg =>
      rw [show registration.delegate = {} from told] at called
      exact (Except.ok.inj called).symm
  | receiving ctx => simp at sends
  | sent | sendFailed | received | recvFailed => exact absurd rfl flying

theorem Follows.failed (follows : Follows registry pipeID registration) {error : NngError}
    (fails : error ≠ .success)
    (completed : registration.complete ⟨error, [], true⟩ = some next) :
    Follows registry pipeID next := by
  obtain ⟨flying, _, called, _⟩ := complete_eq_some completed
  obtain ⟨trace, inStep, told⟩ := follows.inStep flying
  refine Follows.complete inStep rfl completed ?_
  generalize registration.requester.actions 0 = action at inStep called flying ⊢
  have reacts : (action.react ⟨error, [], true⟩).1 = [.error error] := by
    cases error with
    | success => exact absurd rfl fails
    | _ => rfl
  rw [reacts] at called ⊢
  have outcome : next.delegate = asyncError error := (Except.ok.inj called).symm
  cases inStep with
  | sending ctx msg => exact outcome
  | receiving ctx => exact outcome
  | sent | sendFailed | received | recvFailed => exact absurd rfl flying

theorem Follows.replied (follows : Follows registry pipeID registration) {answer : Answer}
    (receives : registration.operation = some .recv)
    (given : answer ∈ registry.services.answers) (readsBack : answer.status.ReadsBack)
    (returned : Handshake.returnsTo registry pipeID answer = true)
    (completed : registration.complete ⟨.success, answer.text, true⟩ = some next) :
    Follows registry pipeID next := by
  obtain ⟨flying, _, called, _⟩ := complete_eq_some completed
  obtain ⟨trace, inStep, told⟩ := follows.inStep flying
  unfold Registration.operation at receives
  refine Follows.complete inStep rfl completed ?_
  generalize registration.requester.actions 0 = action at inStep called receives flying ⊢
  cases inStep with
  | sending ctx msg => simp at receives
  | receiving ctx =>
      rw [show registration.delegate = { status := .requested } from told] at called
      refine ⟨answer, given, returned, rfl, ?_⟩
      simp only [Request.Action.react, Bool.not_true, Bool.false_eq_true, if_false,
        Delegate.calls, Delegate.call, Delegate.asyncRecv_text _ readsBack,
        Except.ok.injEq] at called
      exact called.symm
  | sent | sendFailed | received | recvFailed => exact absurd rfl flying

theorem Follows.commit (follows : Follows registry pipeID registration)
    (committed : registration.commit = some next) : Follows registry pipeID next := by
  unfold Registration.commit at committed
  obtain ⟨requester, stepped, rfl⟩ := Option.map_eq_some_iff.mp committed
  simp only [Request.step] at stepped
  split at stepped
  · contradiction
  · next verdict rest running =>
      obtain rfl := Option.some.inj stepped
      have action : (registration.requester.commit 0 verdict).actions 0 =
          (registration.requester.actions 0).committed verdict := by
        simp only [Request.commit]
        split <;> simp
      obtain ⟨trace, inStep | resting, told⟩ := follows
      · rcases inStep.commit running with ⟨_, continues⟩ | ⟨rests, _⟩
        · exact ⟨trace, .inl (action ▸ continues), told⟩
        · exact ⟨trace, .inr (action ▸ rests), told⟩
      · simp [resting.2.2] at running

/-- What a service has been told stays true as the registry goes on. -/
theorem Follows.mono {after : Registry} (follows : Follows registry pipeID registration)
    (answers : registry.services.answers ⊆ after.services.answers)
    (inquiries : registry.inquiries ⊆ after.inquiries) :
    Follows after pipeID registration := by
  obtain ⟨trace, phase, told⟩ := follows
  refine ⟨trace, phase, ?_⟩
  unfold Told at told ⊢
  split at told
  · exact told
  · exact told
  · obtain ⟨answer, given, returned, response, outcome⟩ := told
    refine ⟨answer, answers given, ?_, response, outcome⟩
    obtain ⟨inquiry, asked, matching⟩ := List.any_eq_true.mp returned
    exact List.any_eq_true.mpr ⟨inquiry, inquiries asked, matching⟩
  · exact told
  · exact told
  · exact told

end Members

namespace Handshake

/-! ## The invariant -/

/-- The registry is sound, what it received are the requests of the services, and every
service follows. -/
structure Sound (requests : PipeID → Bytes) (handshake : Handshake) : Prop where
  registry : handshake.registry.Sound
  orderly : handshake.registry.reply.view.Orderly
  requested : ∀ pipeID, (handshake.members pipeID).request = requests pipeID
  asked : ∀ inquiry ∈ handshake.registry.inquiries, inquiry.msg = requests inquiry.pipeID
  follows : ∀ pipeID, Follows handshake.registry pipeID (handshake.members pipeID)

variable {handshake next : Handshake} {requests : PipeID → Bytes}

theorem Sound.serve (sound : Sound requests handshake) {label : Registry.Label}
    (own : ∀ pipeID msg, label = .receive pipeID msg →
      msg = requests pipeID)
    (served : handshake.serve label = some next) : Sound requests next := by
  unfold Handshake.serve at served
  split at served
  · contradiction
  · next registry stepped =>
      split at served
      · next alive =>
          obtain rfl := Option.some.inj served
          have safe : handshake.registry.Safe label := by
            by_contra harmful
            simp [sound.registry.dead_of_not_safe harmful stepped] at alive
          obtain ⟨inquiries, orderly⟩ := Registry.step_kept stepped
          refine ⟨sound.registry.step safe stepped, orderly sound.orderly,
            sound.requested, ?_, fun pipeID =>
              (sound.follows pipeID).mono (Registry.step_answers stepped) ?_⟩
          · rcases inquiries with same | ⟨queryID, pipeID, msg, received, grown⟩
            · exact same ▸ sound.asked
            · rw [grown, List.forall_mem_append, List.forall_mem_singleton]
              exact ⟨sound.asked, own pipeID msg received⟩
          · rcases inquiries with same | ⟨queryID, pipeID, msg, _, grown⟩
            · exact same ▸ List.Subset.refl _
            · exact grown ▸ List.subset_append_left _ _
      · contradiction

theorem Sound.act (sound : Sound requests handshake) {pipeID : PipeID}
    {change : Registration → Option Registration}
    (keeps : ∀ registration, change (handshake.members pipeID) = some registration →
      Follows handshake.registry pipeID registration ∧
        registration.request = (handshake.members pipeID).request)
    (acted : handshake.act pipeID change = some next) : Sound requests next := by
  unfold Handshake.act at acted
  obtain ⟨registration, changed, rfl⟩ := Option.map_eq_some_iff.mp acted
  obtain ⟨follows, request⟩ := keeps registration changed
  refine ⟨sound.registry, sound.orderly, fun other => ?_, sound.asked, fun other => ?_⟩
  · by_cases same : other = pipeID
    · simp only [same, Function.update_self, request, sound.requested]
    · simp only [Function.update_of_ne same, sound.requested]
  · by_cases same : other = pipeID
    · simp only [same, Function.update_self]
      exact follows
    · simp only [Function.update_of_ne same]
      exact sound.follows other

theorem readsBack_of_proper {answer : Answer} (proper : answer.Proper) :
    answer.status.ReadsBack := by
  cases answer with
  | refused queryID status body =>
      simp only [Answer.status]
      rcases proper with rfl | rfl <;> decide
  | settled spec status body =>
      simp only [Answer.status]
      rcases proper with rfl | rfl | rfl <;> decide

theorem Sound.replied (sound : Sound requests handshake) {pipeID : PipeID}
    {item : OutboxItem Answer}
    (receives : (handshake.members pipeID).operation = some .recv)
    (sent : item ∈ handshake.registry.reply.aioSend.sent)
    (returned : returnsTo handshake.registry pipeID item.msg = true)
    (acted : handshake.act pipeID (·.complete ⟨.success, item.msg.text, true⟩) = some next) :
    Sound requests next := by
  have given := sound.registry.answered sound.orderly sent
  refine sound.act (fun registration completed => ⟨?_, ?_⟩) acted
  · exact (sound.follows pipeID).replied receives given
      (readsBack_of_proper (sound.registry.recorded.proper item.msg given)) returned completed
  · exact (complete_eq_some completed).2.2.2

theorem Sound.step (sound : Sound requests handshake) {label : Label}
    (stepped : handshake.step label = some next) : Sound requests next := by
  cases label with
  | serve label =>
      have others : ∀ pipeID msg, label ≠ .receive pipeID msg := by
        rintro pipeID msg rfl
        simp [Handshake.step] at stepped
      have served : handshake.serve label = some next := by
        cases label with
        | receive pipeID msg => exact absurd rfl (others pipeID msg)
        | _ => exact stepped
      exact sound.serve (fun pipeID msg received => absurd received (others pipeID msg)) served
  | submit pipeID =>
      refine sound.serve (fun other msg received => ?_) stepped
      obtain ⟨rfl, rfl⟩ := Registry.Label.receive.inj received
      exact sound.requested pipeID
  | sent pipeID =>
      simp only [Handshake.step] at stepped
      split at stepped
      · next msg sends =>
          refine sound.act (fun registration completed => ⟨?_, ?_⟩) stepped
          · exact (sound.follows pipeID).sent sends completed
          · exact (complete_eq_some completed).2.2.2
      · contradiction
  | replied pipeID index =>
      simp only [Handshake.step] at stepped
      split at stepped
      · next item receives found =>
          split at stepped
          · next returned =>
              exact sound.replied receives (List.mem_of_getElem? found) returned stepped
          · contradiction
      · contradiction
  | failed pipeID error =>
      simp only [Handshake.step] at stepped
      split at stepped
      · contradiction
      · next fails =>
          refine sound.act (fun registration completed => ⟨?_, ?_⟩) stepped
          · exact (sound.follows pipeID).failed fails completed
          · exact (complete_eq_some completed).2.2.2
  | commit pipeID =>
      refine sound.act (fun registration committed => ⟨?_, ?_⟩) stepped
      · exact (sound.follows pipeID).commit committed
      · obtain ⟨requester, _, rfl⟩ := Option.map_eq_some_iff.mp committed
        rfl

section Constructed

variable {servicePath servicePathAlias : Bytes} {ctx : QueryID} {registration : Registration}

/-- The constructor has given its request to the requester. -/
theorem request_of_construct
    (constructed : Registration.construct servicePath servicePathAlias ctx =
      some registration) :
    registration.request = registrationHead ++
        (registeredName servicePath servicePathAlias ++ (lf :: servicePath)) ∧
      registration.delegate = {} ∧
      registration.requester.actions 0 =
        ⟨ctx, .send, [.send registration.request], []⟩ := by
  simp only [Registration.construct, registrationRequest_result, Option.some.injEq]
    at constructed
  subst constructed
  refine ⟨rfl, rfl, ?_⟩
  simp [Request.request, Request.allocate, Request.initial, Request.launch, Lib.Pool.take,
    Request.Action.start]

theorem follows_of_construct (registry : Registry) (pipeID : PipeID)
    (constructed : Registration.construct servicePath servicePathAlias ctx =
      some registration) : Follows registry pipeID registration := by
  obtain ⟨_, delegate, action⟩ := request_of_construct constructed
  exact ⟨[.prep], .inl (action ▸ .sending ctx _), delegate⟩

end Constructed

theorem sound_initial (addressInternal : Bytes) (queryID : QueryID)
    {members : PipeID → Registration}
    (follows : ∀ pipeID, Follows (.initial addressInternal queryID) pipeID (members pipeID)) :
    Sound (fun pipeID => (members pipeID).request)
      (initial addressInternal queryID members) where
  registry := Registry.sound_initial addressInternal queryID
  orderly := Turnstile.Orderly.empty
  requested _ := rfl
  asked := by simp [initial, Registry.initial]
  follows := follows

/-! ## Agreement -/

/-- What a service believes, and what is on record for it: it is still waiting; it was
enrolled, refused or could not be dialed under the URI that it asked for, on its own
pipe; its request had too many lines; or the network has failed. -/
inductive Agreed (registry : Registry) (pipeID : PipeID)
    (servicePath servicePathAlias : Bytes) : Delegate → Prop where
  | waiting (except : NngException) :
      Agreed registry pipeID servicePath servicePathAlias ⟨.initial, except⟩
  | requested (except : NngException) :
      Agreed registry pipeID servicePath servicePathAlias ⟨.requested, except⟩
  | enlisted (except : NngException) (queryID : QueryID) (body : Bytes)
      (enrolled : .settled
        ⟨queryID, pipeID, Services.requestedUri servicePath servicePathAlias⟩ .ok body ∈
          registry.services.answers) :
      Agreed registry pipeID servicePath servicePathAlias ⟨.enlisted, except⟩
  | taken (queryID : QueryID) (body : Bytes)
      (refused : .settled
        ⟨queryID, pipeID, Services.requestedUri servicePath servicePathAlias⟩ .conflict
          body ∈ registry.services.answers) :
      Agreed registry pipeID servicePath servicePathAlias
        ⟨.failed, addrinuse, "Registration Request Error"⟩
  | undialable (queryID : QueryID) (body : Bytes)
      (refused : .settled
        ⟨queryID, pipeID, Services.requestedUri servicePath servicePathAlias⟩
          .serviceUnavailable body ∈ registry.services.answers) :
      Agreed registry pipeID servicePath servicePathAlias
        ⟨.failed, .internal, "Registration Server Error"⟩
  | malformed (queryID : QueryID) (msg body : Bytes)
      (broken : ¬(Plain servicePath ∧ Plain servicePathAlias))
      (received : ⟨queryID, pipeID, msg⟩ ∈ registry.inquiries)
      (refused : .refused queryID .badRequest body ∈ registry.services.answers) :
      Agreed registry pipeID servicePath servicePathAlias
        ⟨.failed, .internal, "Registration Request Error"⟩
  | unreachable (error : NngError) :
      Agreed registry pipeID servicePath servicePathAlias
        ⟨.failed, error, "Registration Networking Error"⟩

/-- What a service is told, it is told about a request of its own. -/
theorem Sound.inquired (sound : Sound requests handshake) {pipeID : PipeID}
    {answer : Answer} (returned : returnsTo handshake.registry pipeID answer = true) :
    ∃ queryID, ⟨queryID, pipeID, requests pipeID⟩ ∈ handshake.registry.inquiries ∧
      (⟨queryID, pipeID, requests pipeID⟩ : Inquiry).verdict = answer.verdict := by
  obtain ⟨⟨queryID, sender, msg⟩, received, matching⟩ := List.any_eq_true.mp returned
  simp only [Bool.and_eq_true, decide_eq_true_eq] at matching
  obtain ⟨rfl, verdict⟩ := matching
  obtain rfl : msg = requests sender := sound.asked _ received
  exact ⟨queryID, received, verdict⟩

/-- An answer to a well-formed request settles the registration it asks for. -/
theorem settled_of_verdict {inquiry : Inquiry} {uri : Bytes} {answer : Answer}
    (decoded : Services.decodeRegistration inquiry.msg = .ok uri)
    (verdict : inquiry.verdict = answer.verdict) :
    ∃ status body, answer = .settled ⟨inquiry.queryID, inquiry.pipeID, uri⟩ status body := by
  rw [Inquiry.verdict, decoded] at verdict
  cases answer with
  | refused queryID status body => simp [Answer.verdict] at verdict
  | settled spec status body =>
      simp only [Answer.verdict, Verdict.queued.injEq] at verdict
      exact ⟨status, body, by rw [verdict]⟩

/-- An answer to a request that is not well-formed refuses it. -/
theorem refused_of_verdict {inquiry : Inquiry} {status : Status} {body : Bytes}
    {answer : Answer}
    (decoded : Services.decodeRegistration inquiry.msg = .error (status, body))
    (verdict : inquiry.verdict = answer.verdict) :
    answer = .refused inquiry.queryID status body := by
  rw [Inquiry.verdict, decoded] at verdict
  cases answer with
  | refused queryID status body =>
      simp only [Answer.verdict, Verdict.refused.injEq] at verdict
      obtain ⟨rfl, rfl, rfl⟩ := verdict
      rfl
  | settled spec status body => simp [Answer.verdict] at verdict

theorem Sound.agreed (sound : Sound requests handshake) {pipeID : PipeID}
    {servicePath servicePathAlias : Bytes}
    (asks : requests pipeID = registrationHead ++
      (registeredName servicePath servicePathAlias ++ (lf :: servicePath))) :
    Agreed handshake.registry pipeID servicePath servicePathAlias
      (handshake.members pipeID).delegate := by
  obtain ⟨trace, _, told⟩ := sound.follows pipeID
  unfold Told at told
  split at told
  · rw [told]
    exact .waiting _
  · rw [told]
    exact .requested _
  · obtain ⟨answer, given, returned, _, outcome⟩ := told
    obtain ⟨queryID, received, verdict⟩ := sound.inquired returned
    rw [outcome]
    rcases Services.decodeRegistration_request servicePath servicePathAlias with
      decoded | ⟨broken, decoded⟩
    · obtain ⟨status, body, rfl⟩ := settled_of_verdict (asks ▸ decoded) verdict
      rcases sound.registry.recorded.proper _ given with rfl | rfl | rfl
      · exact .taken queryID body given
      · exact .undialable queryID body given
      · exact .enlisted _ queryID body given
    · obtain rfl := refused_of_verdict (asks ▸ decoded) verdict
      exact .malformed queryID _ _ broken received given
  · rw [told]
    exact .unreachable _
  · rw [told]
    exact .unreachable _
  · exact told.elim

/-- In every run of a registry and the services that register with it, what a service
believes agrees with what the registry has on record for its pipe and for the URI that it
asked for, which is its name when its path and alias have no line breaks.  Every reply
that the registry sends is understood by every service. -/
theorem beliefs_agree (addressInternal : Bytes) (queryID : QueryID)
    (servicePath servicePathAlias : PipeID → Bytes) (ctx : PipeID → QueryID)
    (members : PipeID → Registration)
    (constructed : ∀ pipeID, Registration.construct (servicePath pipeID)
      (servicePathAlias pipeID) (ctx pipeID) = some (members pipeID))
    (labels : List Label) (final : Handshake)
    (reached : run step (initial addressInternal queryID members) labels = some final)
    (pipeID : PipeID) :
    Agreed final.registry pipeID (servicePath pipeID) (servicePathAlias pipeID)
        (final.members pipeID).delegate ∧
      (Plain (servicePath pipeID) → Plain (servicePathAlias pipeID) →
        Services.requestedUri (servicePath pipeID) (servicePathAlias pipeID) =
          registeredName (servicePath pipeID) (servicePathAlias pipeID)) ∧
      ∀ item ∈ final.registry.reply.aioSend.sent, ∃ delegate,
        (final.members pipeID).delegate.asyncRecv item.msg.text = .ok delegate := by
  have sound : Sound (fun pipeID => (members pipeID).request) final :=
    invariant_of_run (Sound fun pipeID => (members pipeID).request)
      (sound_initial addressInternal queryID
        fun pipeID => follows_of_construct _ pipeID (constructed pipeID))
      (fun _ _ _ sound _ stepped => sound.step stepped) (meets_true _ _) reached
  refine ⟨?_, Services.requestedUri_of_plain, fun item sent => ?_⟩
  · apply sound.agreed
    exact (request_of_construct (constructed pipeID)).1
  · have given := sound.registry.answered sound.orderly sent
    exact ⟨_, Delegate.asyncRecv_text _
      (readsBack_of_proper (sound.registry.recorded.proper item.msg given))⟩

/-- The third service has a path of two lines. -/
def paths (pipeID : PipeID) : Bytes :=
  if pipeID = 3 then ascii "/a\nb" else ascii "/a"

/-- Two services ask for one name and a third one sends three lines.  The replies overtake
the completion of a request. -/
def rivalry : List Label :=
  [.submit 1, .serve .handle, .serve .finish, .serve (.rearm 8), .sent 1, .commit 1,
    .submit 2, .serve .handle, .serve .finish, .serve (.rearm 9), .submit 3,
    .serve .handle, .serve (.drain fun _ => .ok), .serve .respond, .serve .respond,
    .serve (.sending (.enqueue 0)), .serve (.sending (.enqueue 0)),
    .serve (.sending (.enqueue 0)), .serve (.sending (.handOver 0)), .sent 3, .commit 3,
    .replied 3 0, .serve (.sending (.complete .success)), .serve (.sending .sent),
    .serve (.sending (.handOver 2)), .replied 1 1,
    .serve (.sending (.complete .success)), .serve (.sending .sent),
    .serve (.sending (.handOver 2)), .sent 2, .commit 2, .replied 2 2, .commit 1]

theorem beliefs_agree_rivalry :
    ∃ (members : PipeID → Registration) (final : Handshake),
      run step (initial [] 7 members) rivalry = some final ∧
      (final.members 1).delegate.status = .enlisted ∧
      (final.members 2).delegate.except = ⟨addrinuse, "Registration Request Error"⟩ ∧
      (final.members 3).delegate.except = ⟨.internal, "Registration Request Error"⟩ ∧
      ∀ pipeID, Agreed final.registry pipeID (paths pipeID) []
        (final.members pipeID).delegate := by
  have reached : ((Registration.construct (ascii "/a") [] 3).bind fun rival =>
      (Registration.construct (ascii "/a\nb") [] 3).bind fun third =>
        (run step (initial [] 7 fun pipeID => if pipeID = 3 then third else rival)
          rivalry).map fun final =>
            ((final.members 1).delegate.status, (final.members 2).delegate.except,
              (final.members 3).delegate.except)) =
      some (.enlisted, ⟨addrinuse, "Registration Request Error"⟩,
        ⟨.internal, "Registration Request Error"⟩) := by decide +kernel
  obtain ⟨rival, constructedRival, thirds⟩ := Option.bind_eq_some_iff.mp reached
  obtain ⟨third, constructedThird, runs⟩ := Option.bind_eq_some_iff.mp thirds
  obtain ⟨final, reached, summary⟩ := Option.map_eq_some_iff.mp runs
  simp only [Prod.mk.injEq] at summary
  have constructed (pipeID : PipeID) : Registration.construct (paths pipeID) [] 3 =
      some (if pipeID = 3 then third else rival) := by
    unfold paths
    split
    · exact constructedThird
    · exact constructedRival
  exact ⟨_, final, reached, summary.1, summary.2.1, summary.2.2, fun pipeID =>
    (beliefs_agree [] 7 paths (fun _ => []) (fun _ => 3) _ constructed rivalry final
      reached pipeID).1⟩

end Handshake

end Telling.Service
