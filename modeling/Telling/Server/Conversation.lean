import Telling.Io.RequestProtocol
import Telling.Server.Circuit

/-!
# Queries and the answers they hear

Any number of clients ask the server, each through a `Request` communicator with many
queries at once.  NNG sends a query under a header of its own, which names the client's
pipe and the query, and repeats it when it thinks fit.  It completes a receive with a
reply that came back under the header of the query on that context.  With the server
and the services behind its routes this closes the circle: what the handler hears for a
query is the answer to the message of this query.
-/

namespace Telling.Server

open Lib
open Io (NngError QueryID Request)
open Io.Request (Action Completion Prep)
open Service (Responder)

/-! ## The machine -/

structure Conversation where
  circuit : Circuit
  clients : Nat → Request Bytes
  /-- The messages of the queries of each client, in the order of their acceptance. -/
  asked : Nat → List Bytes

namespace Conversation

def construct (name : Bytes) (openInproc : Bool) (ctx : Nat → QueryID) : Conversation where
  circuit := .construct name openInproc ctx
  clients _ := .initial
  asked _ := []

inductive Label where
  | network (label : Circuit.Label)
  | ask (client : Nat) (ready live : Bool) (ctx : QueryID) (prep : Prep Bytes)
  | arrive (client query : Nat)
  | complete (client index : Nat) (completion : Completion Bytes)
  | commit (client index : Nat)

/-- The label is the arrival of a client's request. -/
def isRequest : Circuit.Label → Bool
  | .server (.arrive .requested _) => true
  | _ => false

/-- The message that a call of `request` begins to send. -/
def accepted (comm : Request Bytes) (ready live : Bool) (ctx : QueryID)
    (prep : Prep Bytes) : List Bytes :=
  match (comm.request ready live ctx prep).1, prep with
  | .ok _, .accepted msg => [msg]
  | _, _ => []

section Step

variable (header : Nat → Nat → Bytes)

/-- What NNG does at the end of an operation: a receive that succeeds brings a reply of
the server with the header of the query that the action serves. -/
def Brings (conversation : Conversation) (client index : Nat) (completion : Completion Bytes) :
    Prop :=
  ((conversation.clients client).actions index).inFlight.head? = some .recv →
    completion.result = .success →
    ⟨header client ((conversation.clients client).serving index), completion.msg⟩ ∈
      conversation.circuit.traffic.server.repSend.aio.sent

instance (conversation : Conversation) (client index : Nat) (completion : Completion Bytes) :
    Decidable (conversation.Brings header client index completion) :=
  inferInstanceAs (Decidable (_ → _ → _))

/-- One step.  The server gets no other requests than the clients' queries. -/
def step (conversation : Conversation) : Label → Option Conversation
  | .network label =>
      if isRequest label then none
      else (conversation.circuit.step label).map fun circuit =>
        { conversation with circuit := circuit }
  | .ask client ready live ctx prep => some
      { conversation with
        clients := Function.update conversation.clients client
          ((conversation.clients client).request ready live ctx prep).2
        asked := Function.update conversation.asked client (conversation.asked client ++
          accepted (conversation.clients client) ready live ctx prep) }
  | .arrive client query => do
      let msg ← (conversation.asked client)[query]?
      let circuit ← conversation.circuit.step
        (.server (.arrive .requested ⟨header client query, msg⟩))
      some { conversation with circuit := circuit }
  | .complete client index completion =>
      if conversation.Brings header client index completion then
        ((conversation.clients client).step (.complete index completion)).map fun comm =>
          { conversation with clients := Function.update conversation.clients client comm }
      else none
  | .commit client index =>
      ((conversation.clients client).step (.commit index)).map fun comm =>
        { conversation with clients := Function.update conversation.clients client comm }

end Step

/-- Contexts have ids of their own, the handlers of the clients live and their
`async_prep` returns. -/
def Regular (conversation : Conversation) : Label → Prop
  | .network label => conversation.circuit.OpensNew label
  | .ask _ ready live ctx prep => (Request.Label.request ready live ctx prep).Regular
  | .complete _ _ completion => completion.live
  | .arrive _ _ | .commit _ _ => True

instance (conversation : Conversation) :
    (label : Label) → Decidable (conversation.Regular label)
  | .network label => inferInstanceAs (Decidable (conversation.circuit.OpensNew label))
  | .ask _ _ _ _ .thrown => isFalse id
  | .ask _ _ live _ .declined | .ask _ _ live _ (.accepted _) =>
      inferInstanceAs (Decidable (live = true))
  | .complete _ _ completion => inferInstanceAs (Decidable (completion.live = true))
  | .arrive _ _ | .commit _ _ => isTrue trivial

end Conversation

/-! ## What comes and what is heard -/

section Heard

variable {comm next : Request Bytes}

theorem request_log (comm : Request Bytes) (ready live : Bool) (ctx : QueryID)
    (prep : Prep Bytes) :
    ∃ more, (comm.request ready live ctx prep).2.log = comm.log ++ more ∧
      ∀ entry ∈ more, entry.2 = .prep := by
  have allocated : (comm.allocate ctx).2.log = comm.log :=
    (Request.allocate_frame comm ctx).2.2
  simp only [Request.request]
  split
  · exact ⟨[], by simp, by simp⟩
  · split
    · exact ⟨[], by simp, by simp⟩
    · cases prep with
      | thrown => exact ⟨[], by simp [allocated], by simp⟩
      | declined => exact ⟨[], by simp [allocated], by simp⟩
      | accepted msg => exact ⟨[((comm.allocate ctx).2.accepted, .prep)],
          by simp [Request.launch, allocated], by simp⟩

/-- A response is heard when a receive succeeds, and is what the receive brought. -/
theorem recv_of_react {action : Action Bytes} {trace : List (Request.Event Bytes)}
    (inStep : action.InStep trace) (flying : action.inFlight ≠ [])
    {completion : Completion Bytes} {answer : Bytes}
    (heard : .recv answer ∈ (action.react completion).1) :
    action.inFlight.head? = some .recv ∧ completion.result = .success ∧
      completion.msg = answer := by
  simp only [Action.react] at heard
  split at heard
  · contradiction
  · cases inStep with
    | sent | sendFailed | received | recvFailed => exact absurd rfl flying
    | sending ctx msg =>
        cases result : completion.result <;> simp [result] at heard
    | receiving ctx =>
        cases result : completion.result <;> simp [result] at heard
        exact ⟨rfl, rfl, heard.symm⟩

end Heard

namespace Conversation

/-! ## The invariant -/

/-- The message is that of a query, under the header of this query. -/
def Asks (header : Nat → Nat → Bytes) (asked : Nat → List Bytes) (msg : NngMsg) : Prop :=
  ∃ client query text, (asked client)[query]? = some text ∧
    msg = ⟨header client query, text⟩

/-- Every request that came was asked, and every response that was heard is one that
the server gave under the header of the query. -/
structure Sound (header : Nat → Nat → Bytes) (conversation : Conversation) : Prop where
  circuit : conversation.circuit.Sound
  clients : ∀ client, (conversation.clients client).Coherent
  came : ∀ arrival ∈ conversation.circuit.traffic.arrivals, arrival.kind = .requested →
    Asks header conversation.asked arrival.msg
  heard : ∀ client, ∀ entry ∈ (conversation.clients client).log, ∀ answer,
    entry.2 = .recv answer →
    ⟨header client entry.1, answer⟩ ∈ conversation.circuit.traffic.responses

variable {header : Nat → Nat → Bytes}
variable {conversation next : Conversation}

theorem sound_construct (name : Bytes) (openInproc : Bool) (ctx : Nat → QueryID) :
    Sound header (construct name openInproc ctx) where
  circuit := Circuit.sound_construct name openInproc ctx
  clients _ := Request.coherent_initial
  came := by simp [construct, Circuit.construct, Traffic.construct]
  heard := by simp [construct, Request.initial]

/-- A step of the network in which nothing comes but what was asked. -/
theorem Sound.proceed (sound : Sound header conversation) {label : Circuit.Label}
    {circuit : Circuit} (opensNew : conversation.circuit.OpensNew label)
    (stepped : conversation.circuit.step label = some circuit)
    (asks : ∀ msg, label = .server (.arrive .requested msg) →
      Asks header conversation.asked msg) :
    Sound header { conversation with circuit := circuit } := by
  obtain ⟨more, arrivals, requests⟩ := Circuit.arrivals_of_step stepped
  refine ⟨sound.circuit.step opensNew stepped, sound.clients, ?_, ?_⟩
  · intro arrival member requested
    rw [arrivals, List.mem_append] at member
    cases member with
    | inl earlier => exact sound.came arrival earlier requested
    | inr new => exact asks arrival.msg (requests arrival new requested)
  · intro client entry member answer responds
    have before := sound.heard client entry member answer responds
    simp only [Traffic.responses, arrivals, List.filterMap_append]
    exact List.mem_append_left _ before

/-- A step of one client, who asks more and hears what the server gave. -/
theorem Sound.proceed_client (sound : Sound header conversation) {client : Nat}
    {comm : Request Bytes} {more : List (Nat × Request.Event Bytes)}
    (texts : List Bytes) (coherent : comm.Coherent)
    (log : comm.log = (conversation.clients client).log ++ more)
    (heard : ∀ entry ∈ more, ∀ answer, entry.2 = .recv answer →
      ⟨header client entry.1, answer⟩ ∈ conversation.circuit.traffic.responses) :
    Sound header { conversation with
      clients := Function.update conversation.clients client comm
      asked := Function.update conversation.asked client
        (conversation.asked client ++ texts) } := by
  refine ⟨sound.circuit, ?_, ?_, ?_⟩
  · intro other
    by_cases same : other = client
    · subst same
      simpa using coherent
    · simpa [same] using sound.clients other
  · intro arrival member requested
    obtain ⟨other, query, text, asked, msg⟩ := sound.came arrival member requested
    refine ⟨other, query, text, ?_, msg⟩
    by_cases same : other = client
    · subst same
      have inside : query < (conversation.asked other).length :=
        (List.getElem?_eq_some_iff.mp asked).1
      simpa [List.getElem?_append_left inside] using asked
    · simpa [same] using asked
  · intro other entry member answer responds
    by_cases same : other = client
    · subst same
      simp only [Function.update_self, log, List.mem_append] at member
      cases member with
      | inl earlier => exact sound.heard other entry earlier answer responds
      | inr new => exact heard entry new answer responds
    · simp only [Function.update_of_ne same] at member
      exact sound.heard other entry member answer responds

theorem Sound.ask (sound : Sound header conversation) {client : Nat}
    {ready live : Bool} {ctx : QueryID} {prep : Prep Bytes}
    (regular : (Request.Label.request ready live ctx prep).Regular) :
    Sound header { conversation with
      clients := Function.update conversation.clients client
        ((conversation.clients client).request ready live ctx prep).2
      asked := Function.update conversation.asked client (conversation.asked client ++
        accepted (conversation.clients client) ready live ctx prep) } := by
  obtain ⟨more, log, preps⟩ := request_log (conversation.clients client) ready live ctx prep
  apply sound.proceed_client _ ((sound.clients client).request regular) log
  intro entry member answer responds
  rw [preps entry member] at responds
  contradiction

/-- A receive that succeeds brings a response of the server. -/
theorem Sound.complete (sound : Sound header conversation) {client index : Nat}
    {completion : Completion Bytes} {comm : Request Bytes} (live : completion.live)
    (brings : conversation.Brings header client index completion)
    (stepped : (conversation.clients client).step (.complete index completion) = some comm) :
    Sound header
      { conversation with clients := Function.update conversation.clients client comm } := by
  have coherent := sound.clients client
  obtain ⟨flying, rfl⟩ := Request.step_complete stepped
  have inStep := coherent.tracks.busy index (coherent.active_of_flying flying)
  have heard := sound.proceed_client [] (coherent.complete flying live) rfl
  simp only [List.append_nil, Function.update_eq_self] at heard
  apply heard
  intro entry member answer responds
  obtain ⟨event, called, rfl⟩ := List.mem_map.mp member
  obtain rfl : event = .recv answer := responds
  obtain ⟨receiving, success, rfl⟩ := recv_of_react inStep flying called
  exact sound.circuit.traffic.replying.sent_beginning.subset (brings receiving success)

theorem Sound.commit (sound : Sound header conversation) {client index : Nat}
    {comm : Request Bytes}
    (stepped : (conversation.clients client).step (.commit index) = some comm) :
    Sound header
      { conversation with clients := Function.update conversation.clients client comm } := by
  have regular : (Request.Label.commit index : Request.Label Bytes).Regular := trivial
  have coherent := (sound.clients client).step regular stepped
  obtain ⟨verdict, rest, runs, rfl⟩ := Request.step_commit stepped
  have log := (Request.commit_frame (conversation.clients client) index verdict).2.1
  rw [← List.append_nil (conversation.clients client).log] at log
  have kept := sound.proceed_client [] coherent log (by simp)
  simpa only [List.append_nil, Function.update_eq_self] using kept

theorem Sound.step (sound : Sound header conversation) {label : Label}
    (regular : conversation.Regular label)
    (stepped : conversation.step header label = some next) :
    Sound header next := by
  cases label with
  | network label =>
      simp only [Conversation.step] at stepped
      split at stepped
      · contradiction
      · next noRequest =>
          obtain ⟨circuit, moved, rfl⟩ := Option.map_eq_some_iff.mp stepped
          apply sound.proceed regular moved
          intro msg arrives
          rw [arrives] at noRequest
          contradiction
  | ask client ready live ctx prep =>
      obtain rfl := Option.some.inj stepped
      exact sound.ask regular
  | arrive client query =>
      obtain ⟨text, asked, stepped⟩ := Option.bind_eq_some_iff.mp stepped
      obtain ⟨circuit, moved, equal⟩ := Option.bind_eq_some_iff.mp stepped
      rw [← Option.some.inj equal]
      have opensNew : conversation.circuit.OpensNew
          (.server (.arrive .requested ⟨header client query, text⟩)) := trivial
      apply sound.proceed opensNew moved
      intro msg arrives
      obtain rfl : (⟨header client query, text⟩ : NngMsg) = msg := by simpa using arrives
      exact ⟨client, query, text, asked, rfl⟩
  | complete client index completion =>
      simp only [Conversation.step] at stepped
      split at stepped
      · next brings =>
          obtain ⟨comm, moved, rfl⟩ := Option.map_eq_some_iff.mp stepped
          exact sound.complete regular brings moved
      · contradiction
  | commit client index =>
      obtain ⟨comm, moved, rfl⟩ := Option.map_eq_some_iff.mp stepped
      exact sound.commit moved

/-! ## Whole runs -/

/-- A query has been answered: the message is the only response that the handler heard,
after `sent`, and it is what the server or the service behind the query's route gave as
its response to the query's own message. -/
structure Answered (header : Nat → Nat → Bytes) (conversation : Conversation)
    (client query : Nat) (answer : Bytes) : Prop where
  trace : (conversation.clients client).events query = [.prep, .sent, .recv answer]
  origin : ∃ text request, (conversation.asked client)[query]? = some text ∧
    request ∈ conversation.circuit.traffic.arrivals ∧ request.kind = .requested ∧
    request.msg = ⟨header client query, text⟩ ∧
    (request.response = some ⟨header client query, answer⟩ ∨
      ∃ route, request.Destined route ∧
        (conversation.circuit.responders route.serial).Replied
          ⟨header client query, text⟩ ⟨header client query, answer⟩)

theorem trace_of_lawful {trace : List (Request.Event Bytes)} {answer : Bytes}
    (lawful : Request.Lawful trace) (heard : .recv answer ∈ trace) :
    trace = [.prep, .sent, .recv answer] := by
  unfold Request.Lawful at lawful
  split at lawful <;> simp_all

theorem Sound.answered (sound : Sound header conversation)
    (apart : ∀ client query other another,
      header client query = header other another → client = other ∧ query = another)
    {client query : Nat} {answer : Bytes}
    (heard : .recv answer ∈ (conversation.clients client).events query) :
    Answered header conversation client query answer := by
  obtain ⟨entry, member, event⟩ := List.mem_filterMap.mp heard
  split at event
  · next logged =>
      have early := (sound.clients client).logged entry member
      have lawful := ((sound.clients client).orderly.trace query (logged ▸ early)).1
      refine ⟨trace_of_lawful lawful heard, ?_⟩
      have given := sound.heard client entry member answer (Option.some.inj event)
      rw [logged] at given
      obtain ⟨request, arrived, requested, sameHeader, origin⟩ :=
        sound.circuit.response_answers given
      obtain ⟨other, another, text, asked, msg⟩ := sound.came request arrived requested
      rw [msg] at sameHeader
      obtain ⟨rfl, rfl⟩ := apart client query other another sameHeader
      refine ⟨text, request, asked, arrived, requested, msg, ?_⟩
      rw [← msg]
      exact origin
  · contradiction

end Conversation

end Telling.Server
