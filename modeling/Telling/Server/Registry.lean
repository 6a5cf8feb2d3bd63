import Mathlib.Data.List.Perm.Basic
import Telling.Io.Reply
import Telling.Msg.ErrorReply
import Telling.Server.Ledger

/-!
# The registry: requests, replies and the directory

Registration requests arrive at a `Reply` communicator.  Its callback answers those
that are not understood through the tag and queues the others; the management thread
answers them in its passes by `respondTo`.  The machine below couples the directory
with the communicator: every request gets one answer, and the answers and reports
agree with the routing table, as long as the process goes on.  It ends when a pass
does not return and when a pipe without a recorded registration is lost.
-/

namespace Telling.Server

open Lib Msg
open Io (QueryID NngError OutboxItem Reply)

/-- A registration request as it was received. -/
structure Inquiry where
  queryID : QueryID
  pipeID : PipeID
  msg : Bytes
  deriving DecidableEq, Repr

def Inquiry.verdict (inquiry : Inquiry) : Verdict :=
  match Services.decodeRegistration inquiry.msg with
  | .error (status, body) => .refused inquiry.queryID status body
  | .ok uri => .queued ⟨inquiry.queryID, inquiry.pipeID, uri⟩

/-! ## Replies -/

namespace Answer

def status : Answer → Status
  | .refused _ status _ | .settled _ status _ => status

def body : Answer → Bytes
  | .refused _ _ body | .settled _ _ body => body

/-- The reply to a malformed body has no content type; the others have. -/
def headers : Answer → List (Bytes × Bytes)
  | .refused _ _ body =>
      if body = ascii "Malformed Registration Request Body." then [] else plainText
  | .settled _ _ _ => plainText

/-- The message that is sent. -/
def text (answer : Answer) : Bytes :=
  replyHead answer.status answer.headers ++ answer.body

theorem headers_fit (answer : Answer) : ReplyHeaders answer.headers := by
  have none : ReplyHeaders [] := ⟨by simp, by decide⟩
  cases answer with
  | refused queryID status body =>
      simp only [headers]
      split
      · exact none
      · exact plainText_fits
  | settled spec status body => exact plainText_fits

/-- It is what the writer makes of the answer. -/
theorem text_written (answer : Answer) :
    (writeReply answer.status answer.headers (some answer.body)).result =
      .ok (some answer.text) :=
  writeReply_result answer.status answer.headers_fit (some answer.body)

end Answer

/-- `Server::Services` with `register_reply`. -/
structure Registry where
  services : Services
  reply : Reply Answer
  /-- The request that `async_recv` has not dealt with yet. -/
  current : Option Inquiry
  /-- The answers of the pass under way for which `respondTo` was not called yet. -/
  owed : List Answer
  /-- The requests that were received, and the URIs whose routes were removed from the
  map by the loss of a pipe. -/
  inquiries : List Inquiry
  removed : List Bytes
  alive : Bool

namespace Registry

/-- After construction: `register_reply` listens and receives. -/
def initial (addressInternal : Bytes) (ctx : QueryID) : Registry where
  services := .initial addressInternal
  reply := { ready := true, handler := true, receiver := .armed ctx }
  current := none
  owed := []
  inquiries := []
  removed := []
  alive := true

/-- `Services` does not override `async_prep`. -/
def prep : QueryID → Option Answer → Option Answer := fun _ msg => msg

/-- The process has ended. -/
def crash (registry : Registry) : Registry := { registry with alive := false }

/-! ## Steps -/

/-- A request arrives. -/
def receive (registry : Registry) (pipeID : PipeID) (msg : Bytes) : Option Registry :=
  match registry.reply.receiver with
  | .armed queryID =>
      (registry.reply.aioReceived .success).map fun reply =>
        { registry with
          reply := reply
          current := some ⟨queryID, pipeID, msg⟩
          inquiries := registry.inquiries ++ [⟨queryID, pipeID, msg⟩] }
  | _ => none

/-- `async_recv`: a refusal goes into the tag and is sent when the callback returns, a
registration is queued. -/
def handle (registry : Registry) : Option Registry :=
  match registry.current with
  | none => none
  | some inquiry =>
      let services :=
        registry.services.asyncRecv inquiry.queryID inquiry.pipeID inquiry.msg
      match Services.decodeRegistration inquiry.msg with
      | .error (status, body) =>
          (registry.reply.handled prep
            (some (.refused inquiry.queryID status body))).map fun reply =>
              { registry with services := services, reply := reply, current := none }
      | .ok _ => some { registry with services := services, current := none }

/-- `async_recv` returns with an empty tag. -/
def finish (registry : Registry) : Option Registry :=
  match registry.current with
  | some _ => none
  | none =>
      (registry.reply.handled prep none).map fun reply =>
        { registry with reply := reply }

/-- The callback receives again.  A new context differs from those in use. -/
def rearm (registry : Registry) (ctx : QueryID) : Option Registry :=
  if ctx ∈ registry.reply.unresponded then none
  else (registry.reply.rearm ctx).map fun reply => { registry with reply := reply }

/-- A pass of the management thread.  The calls of `respondTo` that it makes follow in
steps of their own: until the mutex is released nobody else sees the directory. -/
def drain (registry : Registry) (dials : Nat → Services.Dial) : Option Registry :=
  match registry.owed with
  | _ :: _ => none
  | [] =>
      match registry.services.manage dials with
      | none => some registry.crash
      | some services => some
          { registry with
            services := services
            owed := services.answers.drop registry.services.answers.length }

/-- A call of `respondTo` by the management thread; an exception would leave it. -/
def respond (registry : Registry) : Option Registry :=
  match registry.owed with
  | [] => none
  | answer :: owed =>
      match registry.reply.respondTo prep answer.queryID (some answer) with
      | .error _ => some registry.crash
      | .ok reply => some { registry with reply := reply, owed := owed }

/-- The URI whose route the loss of a pipe removes from the map, if any. -/
def removes (registry : Registry) (pipeID : PipeID) : Option Bytes :=
  (registry.services.registrationMap pipeID).filter fun path =>
    (registry.services.map path).isSome

/-- `pipeEvent`. -/
def disconnect (registry : Registry) (pipeID : PipeID) : Option Registry :=
  if pipeID ∈ registry.services.disconnected then none
  else
    match registry.services.pipeEvent pipeID with
    | none => some registry.crash
    | some services => some
        { registry with
          services := services
          removed := registry.removed ++ (registry.removes pipeID).toList }

inductive Label where
  | receive (pipeID : PipeID) (msg : Bytes)
  | handle
  | finish
  | rearm (ctx : QueryID)
  | drain (dials : Nat → Services.Dial)
  | respond
  | disconnect (pipeID : PipeID)
  | sending (sending : Reply.Sending)

def step (registry : Registry) (label : Label) : Option Registry :=
  if registry.alive then
    match label with
    | .receive pipeID msg => registry.receive pipeID msg
    | .handle => registry.handle
    | .finish => registry.finish
    | .rearm ctx => registry.rearm ctx
    | .drain dials => registry.drain dials
    | .respond => registry.respond
    | .disconnect pipeID => registry.disconnect pipeID
    | .sending sending =>
        (registry.reply.step prep sending.label).map fun reply =>
          { registry with reply := reply }
  else none

/-- What a step does: one case for each way that a function of the registry returns. -/
inductive Moved (registry : Registry) : Label → Registry → Prop where
  | received {queryID : QueryID} {pipeID : PipeID} {msg : Bytes} {reply : Reply Answer} :
      registry.reply.receiver = .armed queryID →
      registry.reply.aioReceived .success = some reply →
      Moved registry (.receive pipeID msg)
        { registry with
          reply := reply
          current := some ⟨queryID, pipeID, msg⟩
          inquiries := registry.inquiries ++ [⟨queryID, pipeID, msg⟩] }
  | refused {inquiry : Inquiry} {status : Status} {body : Bytes} {reply : Reply Answer} :
      registry.current = some inquiry →
      Services.decodeRegistration inquiry.msg = .error (status, body) →
      registry.reply.handled prep (some (.refused inquiry.queryID status body)) =
        some reply →
      Moved registry .handle
        { registry with
          services :=
            registry.services.asyncRecv inquiry.queryID inquiry.pipeID inquiry.msg
          reply := reply
          current := none }
  | admitted {inquiry : Inquiry} {uri : Bytes} : registry.current = some inquiry →
      Services.decodeRegistration inquiry.msg = .ok uri →
      Moved registry .handle
        { registry with
          services :=
            registry.services.asyncRecv inquiry.queryID inquiry.pipeID inquiry.msg
          current := none }
  | finished {reply : Reply Answer} : registry.current = none →
      registry.reply.handled prep none = some reply →
      Moved registry .finish { registry with reply := reply }
  | rearmed {ctx : QueryID} {reply : Reply Answer} : ctx ∉ registry.reply.unresponded →
      registry.reply.rearm ctx = some reply →
      Moved registry (.rearm ctx) { registry with reply := reply }
  | drainEnds {dials : Nat → Services.Dial} : registry.services.manage dials = none →
      Moved registry (.drain dials) registry.crash
  | drained {dials : Nat → Services.Dial} {services : Services} : registry.owed = [] →
      registry.services.manage dials = some services →
      Moved registry (.drain dials)
        { registry with
          services := services
          owed := services.answers.drop registry.services.answers.length }
  | respondEnds {answer : Answer} {owed : List Answer} {error : NngError} :
      registry.owed = answer :: owed →
      registry.reply.respondTo prep answer.queryID (some answer) = .error error →
      Moved registry .respond registry.crash
  | responded {answer : Answer} {owed : List Answer} {reply : Reply Answer} :
      registry.owed = answer :: owed →
      registry.reply.respondTo prep answer.queryID (some answer) = .ok reply →
      Moved registry .respond { registry with reply := reply, owed := owed }
  | lossEnds {pipeID : PipeID} : registry.services.pipeEvent pipeID = none →
      Moved registry (.disconnect pipeID) registry.crash
  | disconnected {pipeID : PipeID} {services : Services} :
      pipeID ∉ registry.services.disconnected →
      registry.services.pipeEvent pipeID = some services →
      Moved registry (.disconnect pipeID)
        { registry with
          services := services
          removed := registry.removed ++ (registry.removes pipeID).toList }
  | sent {sending : Reply.Sending} {reply : Reply Answer} :
      registry.reply.step prep sending.label = some reply →
      Moved registry (.sending sending) { registry with reply := reply }

section Moves

variable {registry next : Registry}

theorem moved_of_handle (stepped : registry.handle = some next) :
    Moved registry .handle next := by
  unfold handle at stepped
  split at stepped
  · contradiction
  · next inquiry busy =>
      cases decoded : Services.decodeRegistration inquiry.msg with
      | error refusal =>
          simp only [decoded] at stepped
          obtain ⟨reply, handled, rfl⟩ := Option.map_eq_some_iff.mp stepped
          exact .refused busy decoded handled
      | ok uri =>
          simp only [decoded] at stepped
          exact Option.some.inj stepped ▸ .admitted busy decoded

theorem moved_of_drain {dials : Nat → Services.Dial}
    (stepped : registry.drain dials = some next) : Moved registry (.drain dials) next := by
  unfold drain at stepped
  split at stepped
  · contradiction
  · next paid =>
      split at stepped
      · next ends => exact Option.some.inj stepped ▸ .drainEnds ends
      · next services passed => exact Option.some.inj stepped ▸ .drained paid passed

theorem moved_of_respond (stepped : registry.respond = some next) :
    Moved registry .respond next := by
  unfold respond at stepped
  split at stepped
  · contradiction
  · next answer owed owing =>
      split at stepped
      · next error thrown => exact Option.some.inj stepped ▸ .respondEnds owing thrown
      · next reply claims => exact Option.some.inj stepped ▸ .responded owing claims

theorem moved_of_disconnect {pipeID : PipeID}
    (stepped : registry.disconnect pipeID = some next) :
    Moved registry (.disconnect pipeID) next := by
  unfold disconnect at stepped
  split at stepped
  · contradiction
  · next connected =>
      split at stepped
      · next ends => exact Option.some.inj stepped ▸ .lossEnds ends
      · next services gone =>
          exact Option.some.inj stepped ▸ .disconnected connected gone

theorem moved_of_step {label : Label} (stepped : registry.step label = some next) :
    Moved registry label next := by
  unfold step at stepped
  split at stepped
  · cases label with
    | receive pipeID msg =>
        simp only [receive] at stepped
        split at stepped
        · next queryID arms =>
            obtain ⟨reply, received, rfl⟩ := Option.map_eq_some_iff.mp stepped
            exact .received arms received
        · contradiction
    | handle => exact moved_of_handle stepped
    | finish =>
        simp only [finish] at stepped
        split at stepped
        · contradiction
        · next idle =>
            obtain ⟨reply, handled, rfl⟩ := Option.map_eq_some_iff.mp stepped
            exact .finished idle handled
    | rearm ctx =>
        simp only [rearm] at stepped
        split at stepped
        · contradiction
        · next fresh =>
            obtain ⟨reply, rearmed, rfl⟩ := Option.map_eq_some_iff.mp stepped
            exact .rearmed fresh rearmed
    | drain dials => exact moved_of_drain stepped
    | respond => exact moved_of_respond stepped
    | disconnect pipeID => exact moved_of_disconnect stepped
    | sending sending =>
        obtain ⟨reply, sent, rfl⟩ := Option.map_eq_some_iff.mp stepped
        exact .sent sent
  · contradiction

end Moves

/-! ## What is claimed -/

/-- The process goes on.  Every request has one answer or is still queued or dealt with;
the answers are on their way to the queries they are for; and each URI was enrolled once
more than its route was removed if it is routed, and as often if not. -/
structure Balanced (registry : Registry) : Prop where
  alive : registry.alive = true
  once : (registry.inquiries.map Inquiry.verdict).Perm
    (registry.services.answers.map Answer.verdict ++
      registry.services.routeOpen.map Verdict.queued ++
      registry.current.toList.map Inquiry.verdict)
  given : registry.services.answers.Perm
    ((registry.reply.accepted ++ registry.reply.claimed).map OutboxItem.msg ++
      registry.owed)
  own : ∀ item ∈ registry.reply.accepted ++ registry.reply.claimed,
    item.ctx = item.msg.queryID
  enrolled : ∀ uri, registry.services.enrollments uri =
    registry.removed.count uri + registry.services.present uri

/-- In addition, the answers have statuses that fit, and the reports for each URI
alternate. -/
structure Truthful (registry : Registry) : Prop extends Balanced registry where
  proper : ∀ answer ∈ registry.services.answers, answer.Proper
  alternates : ∀ uri, Services.Alternates (registry.services.history uri)

/-- A step answers with 200 exactly for the URIs that it enters in the map. -/
def Inserts (registry : Registry) (label : Label) : Prop :=
  ∀ next, registry.step label = some next →
    Services.Inserted registry.services next.services

/-- The steps after which the process goes on. -/
def Safe (registry : Registry) : Label → Prop
  | .drain dials => Services.Storable registry.services.routeOpen dials
  | .disconnect pipeID => (registry.services.registrationMap pipeID).isSome
  | _ => True

instance (registry : Registry) : (label : Label) → Decidable (registry.Safe label)
  | .drain dials =>
      inferInstanceAs (Decidable (Services.Storable registry.services.routeOpen dials))
  | .disconnect pipeID =>
      inferInstanceAs (Decidable ((registry.services.registrationMap pipeID).isSome = true))
  | .receive _ _ | .handle | .finish | .rearm _ | .respond | .sending _ => isTrue trivial

/-! ## The communicator -/

section Communicator

variable {reply next : Reply Answer} {queryID : QueryID}

theorem handled_answer (ready : reply.ready = true) (handler : reply.handler = true)
    (handling : reply.receiver = .handling queryID)
    (outstanding : queryID ∈ reply.unresponded) (answer : Answer) :
    reply.handled prep (some answer) = some
      { reply with
        unresponded := reply.unresponded.erase queryID
        claimed := reply.claimed ++ [⟨queryID, answer⟩]
        receiver := .returning } := by
  have claims := Reply.respondTo_of_outstanding ready handler
    (show prep queryID (some answer) = some answer from rfl) outstanding
  simp [Reply.handled, handling, claims]

end Communicator

/-! ## The invariant -/

/-- The queries without a response are the one that is dealt with, those that are owed
an answer and those that are queued. -/
structure Attended (registry : Registry) : Prop where
  ready : registry.reply.ready = true
  handler : registry.reply.handler = true
  dealing : ∀ inquiry, registry.current = some inquiry →
    registry.reply.receiver = .handling inquiry.queryID
  armed : ∀ ctx, registry.reply.receiver = .armed ctx →
    ctx ∉ registry.reply.unresponded
  outstanding : ∀ query, (if query ∈ registry.reply.unresponded then 1 else 0) =
    (registry.current.toList.map Inquiry.queryID).count query +
      (registry.owed.map Answer.queryID).count query +
      (registry.services.routeOpen.map NewRoute.queryID).count query

structure Sound (registry : Registry) : Prop extends Balanced registry where
  recorded : registry.services.Recorded
  attended : registry.Attended

theorem Sound.truthful {registry : Registry} (sound : registry.Sound) :
    registry.Truthful where
  toBalanced := sound.toBalanced
  proper := sound.recorded.proper
  alternates uri := (sound.recorded.reported uri).1

theorem sound_initial (addressInternal : Bytes) (ctx : QueryID) :
    (initial addressInternal ctx).Sound where
  alive := rfl
  once := by simp [initial, Services.initial]
  given := by simp [initial, Services.initial]
  own := by simp [initial]
  enrolled := by simp [initial, Services.initial, Services.enrollments, Services.present]
  recorded := Services.recorded_initial addressInternal
  attended := ⟨rfl, rfl, by simp [initial], by simp [initial],
    by simp [initial, Services.initial]⟩

section Steps

variable {registry next : Registry}

/-- A query that is dealt with, owed an answer or queued is outstanding. -/
theorem Attended.mem_unresponded (attended : registry.Attended) {query : QueryID}
    (waiting : query ∈ registry.current.toList.map Inquiry.queryID ++
      registry.owed.map Answer.queryID ++
      registry.services.routeOpen.map NewRoute.queryID) :
    query ∈ registry.reply.unresponded := by
  by_contra absent
  have counted := attended.outstanding query
  rw [if_neg absent, ← List.count_append, ← List.count_append] at counted
  exact List.count_eq_zero.mp counted.symm waiting

theorem Sound.receive (sound : registry.Sound) {pipeID : PipeID} {msg : Bytes}
    (moved : Moved registry (.receive pipeID msg) next) : next.Sound := by
  obtain ⟨ready, handler, dealing, armed, outstanding⟩ := sound.attended
  cases moved with
  | @received queryID _ _ _ arms received =>
      have idle : registry.current = none := by
        cases busy : registry.current with
        | none => rfl
        | some inquiry => simp [dealing inquiry busy] at arms
      have fresh := armed queryID arms
      simp only [Reply.aioReceived, arms, handler, Bool.not_true, Bool.false_eq_true,
        if_false, Option.some.injEq] at received
      subst received
      refine ⟨⟨sound.alive, ?_, sound.given, sound.own, sound.enrolled⟩, sound.recorded,
        ⟨ready, rfl, ?_, ?_, ?_⟩⟩
      · have before := sound.once
        simp only [idle, Option.toList_none, List.map_nil, List.append_nil] at before
        rw [List.map_append]
        exact before.append_right _
      · intro inquiry same
        rw [← Option.some.inj same]
      · simp
      · intro query
        have counted := outstanding query
        simp only [idle, Option.toList_none, List.map_nil, List.count_nil,
          Nat.zero_add] at counted
        by_cases same : query = queryID
        · subst same
          rw [if_neg fresh] at counted
          rw [if_pos (Finset.mem_insert_self _ _)]
          simp
          omega
        · have other : queryID ≠ query := fun equal => same equal.symm
          simpa [same, other] using counted

/-- Answering a query takes it off those that are outstanding. -/
theorem count_erase {unresponded : Finset QueryID} {answered query : QueryID}
    {rest : Nat} (outstanding : answered ∈ unresponded)
    (counted : (if query ∈ unresponded then 1 else 0) =
      (if answered = query then 1 else 0) + rest) :
    (if query ∈ unresponded.erase answered then 1 else 0) = rest := by
  by_cases same : query = answered
  · subst same
    rw [if_pos outstanding, if_pos rfl] at counted
    rw [if_neg (Finset.notMem_erase _ _)]
    omega
  · have other : answered ≠ query := fun equal => same equal.symm
    rw [if_neg other, Nat.zero_add] at counted
    simpa [same] using counted

theorem append_swap {α : Type} (left middle right : List α) :
    (left ++ middle ++ right).Perm (left ++ right ++ middle) := by
  rw [List.append_assoc, List.append_assoc]
  exact List.perm_append_comm.append_left left

/-- The items of the outbox go to their own queries, also when one is added. -/
theorem own_claimed {accepted claimed : List (OutboxItem Answer)}
    (own : ∀ item ∈ accepted ++ claimed, item.ctx = item.msg.queryID) (answer : Answer) :
    ∀ item ∈ accepted ++ (claimed ++ [⟨answer.queryID, answer⟩]),
      item.ctx = item.msg.queryID := by
  rw [← List.append_assoc]
  exact List.forall_mem_append.mpr ⟨own, List.forall_mem_singleton.mpr rfl⟩

/-- A request that is not understood is answered at once. -/
theorem Sound.refuse (sound : registry.Sound) {inquiry : Inquiry} {status : Status}
    {body : Bytes} (busy : registry.current = some inquiry)
    (decoded : Services.decodeRegistration inquiry.msg = .error (status, body)) :
    ({ registry with
        services := { registry.services with
          answers := registry.services.answers ++
            [.refused inquiry.queryID status body] }
        reply := { registry.reply with
          unresponded := registry.reply.unresponded.erase inquiry.queryID
          claimed := registry.reply.claimed ++
            [⟨inquiry.queryID, .refused inquiry.queryID status body⟩]
          receiver := .returning }
        current := none } : Registry).Sound := by
  have recorded := sound.recorded.asyncRecv inquiry.queryID inquiry.pipeID inquiry.msg
  rw [Services.asyncRecv_error decoded] at recorded
  have mine : inquiry.queryID ∈ registry.reply.unresponded :=
    sound.attended.mem_unresponded (by simp [busy])
  refine ⟨⟨sound.alive, ?_, ?_,
    own_claimed sound.own (.refused inquiry.queryID status body), ?_⟩, recorded,
    ⟨sound.attended.ready, sound.attended.handler, by simp, by simp, ?_⟩⟩
  · have verdict : inquiry.verdict = .refused inquiry.queryID status body := by
      simp [Inquiry.verdict, decoded]
    have before := sound.once
    simp only [busy, Option.toList_some, List.map_cons, List.map_nil, verdict] at before
    simpa [Answer.verdict] using before.trans (append_swap _ _ _)
  · have given := (sound.given.append_right
      [.refused inquiry.queryID status body]).trans (append_swap _ _ _)
    simpa using given
  · intro uri
    simpa [Services.enrollments, Services.present, Answer.enrolls] using
      sound.enrolled uri
  · intro query
    have counted := sound.attended.outstanding query
    simp only [busy, Option.toList_some, List.map_cons, List.map_nil,
      List.count_singleton, beq_iff_eq] at counted
    simp only [Option.toList_none, List.map_nil, List.count_nil, Nat.zero_add]
    exact count_erase mine (by rw [counted, Nat.add_assoc])

/-- A request that is understood is queued. -/
theorem Sound.admit (sound : registry.Sound) {inquiry : Inquiry} {uri : Bytes}
    (busy : registry.current = some inquiry)
    (decoded : Services.decodeRegistration inquiry.msg = .ok uri) :
    ({ registry with
        services := registry.services.register inquiry.queryID inquiry.pipeID uri
        current := none } : Registry).Sound := by
  have recorded := sound.recorded.asyncRecv inquiry.queryID inquiry.pipeID inquiry.msg
  rw [Services.asyncRecv_ok decoded] at recorded
  refine ⟨⟨sound.alive, ?_, sound.given, sound.own, sound.enrolled⟩, recorded,
    ⟨sound.attended.ready, sound.attended.handler, by simp, sound.attended.armed, ?_⟩⟩
  · have verdict : inquiry.verdict =
        .queued ⟨inquiry.queryID, inquiry.pipeID, uri⟩ := by
      simp [Inquiry.verdict, decoded]
    have before := sound.once
    simp only [busy, Option.toList_some, List.map_cons, List.map_nil, verdict] at before
    simpa [Services.register] using before
  · intro query
    have counted := sound.attended.outstanding query
    simp only [busy, Option.toList_some, List.map_cons, List.map_nil] at counted
    simp only [Services.register, List.map_append, List.count_append,
      Option.toList_none, List.map_nil, List.count_nil, List.map_cons]
    omega

theorem Sound.handle (sound : registry.Sound) (moved : Moved registry .handle next) :
    next.Sound := by
  cases moved with
  | @refused inquiry status body _ busy decoded handled =>
      have answered := handled_answer sound.attended.ready sound.attended.handler
        (sound.attended.dealing inquiry busy)
        (sound.attended.mem_unresponded (by simp [busy]))
        (.refused inquiry.queryID status body)
      obtain rfl := Option.some.inj (handled.symm.trans answered)
      rw [Services.asyncRecv_error decoded]
      exact sound.refuse busy decoded
  | admitted busy decoded =>
      rw [Services.asyncRecv_ok decoded]
      exact sound.admit busy decoded

theorem Sound.finish (sound : registry.Sound) (moved : Moved registry .finish next) :
    next.Sound := by
  obtain ⟨ready, handler, dealing, armed, outstanding⟩ := sound.attended
  cases moved with
  | finished idle returned =>
      unfold Reply.handled at returned
      split at returned
      · obtain rfl := Option.some.inj returned
        exact ⟨⟨sound.alive, sound.once, sound.given, sound.own, sound.enrolled⟩,
          sound.recorded, ⟨ready, handler, by simp [idle], by simp, outstanding⟩⟩
      · contradiction

theorem Sound.rearm (sound : registry.Sound) {ctx : QueryID}
    (moved : Moved registry (.rearm ctx) next) : next.Sound := by
  obtain ⟨ready, handler, dealing, armed, outstanding⟩ := sound.attended
  cases moved with
  | rearmed fresh rearmed =>
      unfold Reply.rearm at rearmed
      split at rearmed
      · next returning =>
          obtain rfl := Option.some.inj rearmed
          refine ⟨⟨sound.alive, sound.once, sound.given, sound.own, sound.enrolled⟩,
            sound.recorded, ⟨ready, handler, ?_, ?_, outstanding⟩⟩
          · intro inquiry busy
            simp [dealing inquiry busy] at returning
          · intro other same
            obtain rfl : ctx = other := by simpa using same
            exact fresh
      · contradiction

/-- What the management thread owes an answer to is outstanding, so that its call of
`respondTo` returns. -/
theorem Sound.respond (sound : registry.Sound) (moved : Moved registry .respond next) :
    next.Sound := by
  obtain ⟨ready, handler, dealing, armed, outstanding⟩ := sound.attended
  have claims {answer : Answer} {owed : List Answer}
      (owing : registry.owed = answer :: owed) :=
    Reply.respondTo_of_outstanding ready handler
      (show prep answer.queryID (some answer) = some answer from rfl)
      (sound.attended.mem_unresponded (by simp [owing]))
  cases moved with
  | respondEnds owing thrown =>
      rw [claims owing] at thrown
      contradiction
  | @responded answer owed _ owing responded =>
      obtain rfl := Except.ok.inj (responded.symm.trans (claims owing))
      refine ⟨⟨sound.alive, sound.once, ?_, own_claimed sound.own answer, sound.enrolled⟩,
        sound.recorded, ⟨ready, handler, dealing, ?_, ?_⟩⟩
      · have given := sound.given
        rw [owing] at given
        simpa using given
      · intro ctx arms member
        exact armed ctx arms (Finset.mem_of_mem_erase member)
      · intro query
        have counted := outstanding query
        simp only [owing, List.map_cons, List.count_cons, beq_iff_eq] at counted
        refine count_erase (sound.attended.mem_unresponded (by simp [owing])) ?_
        dsimp only
        omega

theorem Sound.drain (sound : registry.Sound) {dials : Nat → Services.Dial}
    (storable : Services.Storable registry.services.routeOpen dials)
    (moved : Moved registry (.drain dials) next) : next.Sound := by
  obtain ⟨ready, handler, dealing, armed, outstanding⟩ := sound.attended
  cases moved with
  | drainEnds ends =>
      have returns := @Services.manage_isSome registry.services dials storable
      rw [ends] at returns
      contradiction
  | @drained _ services paid passed =>
      obtain ⟨answers, appended, verdicts, queries, _⟩ := Services.manage_answers passed
      have emptied := Services.manage_routeOpen passed
      have owed : services.answers.drop registry.services.answers.length = answers := by
        rw [appended, List.drop_left]
      refine ⟨⟨sound.alive, ?_, ?_, sound.own, ?_⟩, sound.recorded.manage passed,
        ⟨ready, handler, dealing, armed, ?_⟩⟩
      · simpa [appended, verdicts, emptied] using sound.once
      · have given := sound.given
        rw [paid, List.append_nil] at given
        rw [owed, appended]
        exact given.append_right answers
      · intro uri
        have counted := Services.manage_enrollments passed uri
        have before := sound.enrolled uri
        simp only
        omega
      · intro query
        have counted := outstanding query
        simp only [paid, List.map_nil, List.count_nil, Nat.add_zero] at counted
        simpa [owed, queries, emptied] using counted

theorem Sound.disconnect (sound : registry.Sound) {pipeID : PipeID}
    (recordedPipe : (registry.services.registrationMap pipeID).isSome)
    (moved : Moved registry (.disconnect pipeID) next) : next.Sound := by
  obtain ⟨ready, handler, dealing, armed, outstanding⟩ := sound.attended
  obtain ⟨path, found⟩ := Option.isSome_iff_exists.mp recordedPipe
  cases moved with
  | lossEnds ends =>
      have returns := Services.pipeEvent_isSome_iff.mpr recordedPipe
      rw [ends] at returns
      contradiction
  | @disconnected _ services _ gone =>
      have lost := Services.pipeEvent_lost gone
      refine ⟨⟨sound.alive, ?_, ?_, sound.own, ?_⟩, sound.recorded.pipeEvent gone,
        ⟨ready, handler, dealing, armed, ?_⟩⟩
      · simpa [lost.routeOpen, lost.answers] using sound.once
      · simpa [lost.answers] using sound.given
      · intro uri
        have enrolled := sound.enrolled uri
        have present := Services.present_pipeEvent found gone uri
        have unchanged : services.enrollments uri =
            registry.services.enrollments uri := by
          rw [Services.enrollments, lost.answers, Services.enrollments]
        dsimp only
        rw [unchanged, removes, found]
        by_cases routed : (registry.services.map path).isSome
        · simp only [routed, and_true, Option.filter_some, if_true, Option.toList_some,
            List.count_append, List.count_singleton, beq_iff_eq] at present ⊢
          omega
        · simp only [routed, Bool.false_eq_true, and_false, if_false, Option.filter_some,
            Option.toList_none, List.append_nil] at present ⊢
          omega
      · simpa [lost.routeOpen] using outstanding

theorem Sound.sending (sound : registry.Sound) {sending : Reply.Sending}
    {reply : Reply Answer}
    (stepped : registry.reply.step prep sending.label = some reply) :
    ({ registry with reply := reply } : Registry).Sound := by
  obtain ⟨ready, handler, dealing, armed, outstanding⟩ := sound.attended
  have frame := Reply.Sending.frame stepped
  refine ⟨⟨sound.alive, sound.once, ?_, ?_, sound.enrolled⟩, sound.recorded,
    ⟨?_, ?_, ?_, ?_, ?_⟩⟩
  · exact sound.given.trans ((frame.items.symm.map OutboxItem.msg).append_right _)
  · exact fun item member => sound.own item (frame.items.mem_iff.mp member)
  · exact frame.ready.trans ready
  · exact frame.handler.trans handler
  · exact fun inquiry busy => frame.receiver.trans (dealing inquiry busy)
  · simpa only [frame.receiver, frame.unresponded] using armed
  · simpa only [frame.unresponded] using outstanding

/-- Safe steps keep the invariant. -/
theorem Sound.step (sound : registry.Sound) {label : Label} (safe : registry.Safe label)
    (stepped : registry.step label = some next) : next.Sound := by
  have moved := moved_of_step stepped
  cases label with
  | receive pipeID msg => exact sound.receive moved
  | handle => exact sound.handle moved
  | finish => exact sound.finish moved
  | rearm ctx => exact sound.rearm moved
  | drain dials => exact sound.drain safe moved
  | respond => exact sound.respond moved
  | disconnect pipeID => exact sound.disconnect safe moved
  | sending sending =>
      cases moved with
      | sent sent => exact sound.sending sent

/-- The other steps end the process. -/
theorem Sound.dead_of_not_safe (sound : registry.Sound) {label : Label}
    (notSafe : ¬registry.Safe label) (stepped : registry.step label = some next) :
    next.alive = false := by
  cases moved_of_step stepped with
  | drainEnds | lossEnds => rfl
  | @drained dials services _ passed =>
      refine absurd ?_ notSafe
      rw [Safe, ← Services.manage_isSome_iff sound.recorded.bounded, passed]
      rfl
  | @disconnected pipeID services _ gone =>
      refine absurd ?_ notSafe
      rw [Safe, ← Services.pipeEvent_isSome_iff, gone]
      rfl
  | received | refused | admitted | finished | rearmed | respondEnds | responded | sent =>
      exact absurd trivial notSafe

/-! ## The directory -/

/-- The step of the directory that a step of the registry makes, if any. -/
def move (registry : Registry) : Label → Option Services.Label
  | .handle =>
      registry.current.map fun inquiry =>
        .receive inquiry.queryID inquiry.pipeID inquiry.msg
  | .drain dials =>
      if (registry.services.manage dials).isSome then some (.drain dials) else none
  | .disconnect pipeID =>
      if (registry.services.pipeEvent pipeID).isSome then some (.disconnect pipeID)
      else none
  | _ => none

/-- Each step of the registry is a step of its directory or leaves it as it is. -/
theorem refines : Refines step Services.step services move := by
  intro registry label next stepped
  cases moved_of_step stepped with
  | refused busy | admitted busy => simp [move, busy, run, Services.step]
  | drainEnds ends => simp [move, ends, crash]
  | drained _ passed => simp [move, passed, run, Services.step]
  | lossEnds ends => simp [move, ends, crash]
  | disconnected connected gone => simp [move, gone, run, Services.step, connected]
  | received | finished | rearmed | respondEnds | responded | sent => rfl

theorem inserts (registry : Registry) (label : Label) : registry.Inserts label := by
  intro next stepped
  cases moved : registry.move label with
  | none =>
      rw [refines.stutters moved stepped]
      exact Services.inserted_refl registry.services
  | some action => exact Services.inserted_step (refines.taken moved stepped)

/-! ## What the registry keeps -/

/-- No answer is taken back. -/
theorem step_answers {label : Label} (stepped : registry.step label = some next) :
    registry.services.answers ⊆ next.services.answers := by
  cases moved : registry.move label with
  | none =>
      rw [refines.stutters moved stepped]
      exact List.Subset.refl _
  | some action => exact Services.step_answers (refines.taken moved stepped)

/-- Only a request that is received adds to the inquiries; and the sending side of the
communicator keeps its order. -/
theorem step_kept {label : Label} (stepped : registry.step label = some next) :
    (next.inquiries = registry.inquiries ∨
      ∃ queryID pipeID msg, label = .receive pipeID msg ∧
        next.inquiries = registry.inquiries ++ [⟨queryID, pipeID, msg⟩]) ∧
      (registry.reply.view.Orderly → next.reply.view.Orderly) := by
  cases moved_of_step stepped with
  | @received queryID pipeID msg _ _ received =>
      exact ⟨.inr ⟨queryID, pipeID, msg, rfl, rfl⟩,
        fun orderly => Reply.aioReceived_view received ▸ orderly⟩
  | refused _ _ handled =>
      exact ⟨.inl rfl, fun orderly => Reply.handled_view handled ▸ orderly⟩
  | finished _ handled =>
      exact ⟨.inl rfl, fun orderly => Reply.handled_view handled ▸ orderly⟩
  | rearmed _ rearmed =>
      exact ⟨.inl rfl, fun orderly => Reply.rearm_view rearmed ▸ orderly⟩
  | responded _ responded =>
      exact ⟨.inl rfl, fun orderly => Reply.respondTo_view responded ▸ orderly⟩
  | @sent sending _ sent =>
      refine ⟨.inl rfl, fun orderly => ?_⟩
      cases moved : registry.reply.move sending.label with
      | none => exact Reply.refines.stutters moved sent ▸ orderly
      | some action => exact orderly.step (Reply.refines.taken moved sent)
  | admitted | drainEnds | drained | respondEnds | lossEnds | disconnected =>
      exact ⟨.inl rfl, id⟩

/-- What the communicator has sent was answered by the directory. -/
theorem Sound.answered (sound : registry.Sound) (orderly : registry.reply.view.Orderly)
    {item : OutboxItem Answer} (sent : item ∈ registry.reply.aioSend.sent) :
    item.msg ∈ registry.services.answers := by
  have accepted : item ∈ registry.reply.accepted := by
    have fifo : _ = registry.reply.accepted := orderly.fifo
    rw [← fifo, List.append_assoc]
    exact List.mem_append_left _ sent
  refine sound.given.mem_iff.mpr (List.mem_append_left _ ?_)
  exact List.mem_map_of_mem (List.mem_append_left _ accepted)

end Steps

/-! ## The registry -/

/-- Every registration is answered once and truthfully, and the reports alternate, in
exactly the runs whose passes have no overlong key to store and in which only pipes
with a recorded registration are lost. -/
theorem truthful_iff_safe {addressInternal : Bytes} {ctx : QueryID}
    {labels : List Label} {final : Registry}
    (reached : run step (initial addressInternal ctx) labels = some final) :
    (Along step Truthful (initial addressInternal ctx) labels ∧
        Meets step Inserts (initial addressInternal ctx) labels) ↔
      Meets step Safe (initial addressInternal ctx) labels := by
  have along : Along step Truthful (initial addressInternal ctx) labels ↔
      Meets step Safe (initial addressInternal ctx) labels :=
    along_iff_meets Sound (fun _ sound => sound.truthful)
      (fun _ _ _ sound safe stepped => sound.step safe stepped)
      (fun _ _ _ sound notSafe stepped truthful => by
        have dead := sound.dead_of_not_safe notSafe stepped
        simp [truthful.alive] at dead)
      (sound_initial addressInternal ctx) reached
  rw [along, and_iff_left (meets_of_always inserts _ labels)]

/-- Two services ask for one URI; the first is enrolled, the second is refused, and
the first is lost again. -/
def contest : List Label :=
  [.receive 1 (Services.enrollment "/a"), .handle, .finish, .rearm 8,
    .receive 2 (Services.enrollment "/a"), .handle, .drain fun _ => .ok, .respond,
    .sending (.enqueue 0), .finish, .respond, .sending (.enqueue 0), .disconnect 1,
    .drain fun _ => .ok]

theorem truthful_contest :
    ∃ final, run step (initial [] 7) contest = some final ∧
      final.services.enrollments (ascii "/a") = 1 ∧
      final.services.history (ascii "/a") = [.created, .gone] ∧
      final.reply.accepted.map OutboxItem.ctx = [7, 8] ∧
      Along step Truthful (initial [] 7) contest ∧
      Meets step Inserts (initial [] 7) contest := by
  have reached : (run step (initial [] 7) contest).map (fun final =>
      ((final.services.enrollments (ascii "/a"), final.services.history (ascii "/a")),
        final.reply.accepted.map OutboxItem.ctx)) =
      some ((1, [.created, .gone]), [7, 8]) := by
    decide +kernel
  have safe : Meets step Safe (initial [] 7) contest := by decide +kernel
  obtain ⟨final, run, summary⟩ := Option.map_eq_some_iff.mp reached
  simp only [Prod.mk.injEq] at summary
  exact ⟨final, run, summary.1.1, summary.1.2, summary.2,
    (truthful_iff_safe run).mpr safe⟩

/-- A name that is too long for the map passes the decoder and ends the process in the
next pass. -/
theorem overlong_name_ends {name : Bytes} (plain : Plain name)
    (long : maxKeySize < name.length) :
    ∃ final, run step (initial [] 7)
        [.receive 1 (registrationHead ++ (name ++ (lf :: name))), .handle,
          .drain fun _ => .ok] = some final ∧
      final.alive = false ∧ final.inquiries.length = 1 ∧
      final.services.answers = [] := by
  have decoded := Services.decodeRegistration_twoLines plain plain
  simp [run, step, initial, receive, Reply.aioReceived, handle, decoded,
    Services.asyncRecv_ok decoded, Services.register, drain, Services.manage,
    Services.closeRoutes, Services.openRoutes, Services.openRoute, Services.addRoute,
    Services.initial, long, crash]

/-- A pipe that never registered is lost while a registration of another pipe is queued;
and a service registers under a name of 65535 bytes.  The process ends, and the
registration that was received has no answer. -/
theorem registration_unanswered :
    (∃ final, run step (initial [] 7)
        [.receive 1 (Services.enrollment "/a"), .handle, .disconnect 2] = some final ∧
      final.alive = false ∧ final.inquiries.length = 1 ∧
      final.services.answers = []) ∧
    ∃ msg final, run step (initial [] 7)
        [.receive 1 msg, .handle, .drain fun _ => .ok] = some final ∧
      final.alive = false ∧ final.inquiries.length = 1 ∧
      final.services.answers = [] := by
  constructor
  · have reached : (run step (initial [] 7)
        [.receive 1 (Services.enrollment "/a"), .handle, .disconnect 2]).map
          (fun final => (final.alive, final.inquiries.length, final.services.answers)) =
        some (false, 1, []) := by
      decide +kernel
    obtain ⟨final, run, summary⟩ := Option.map_eq_some_iff.mp reached
    simp only [Prod.mk.injEq] at summary
    exact ⟨final, run, summary⟩
  · have plain : Plain (List.replicate 65535 97) := by
      intro byte member
      rw [List.eq_of_mem_replicate member]
      decide
    exact ⟨_, overlong_name_ends plain (by rw [List.length_replicate, maxKeySize]; omega)⟩

end Registry

end Telling.Server
