import Telling.Io.ReplyOrder

/-!
# The reply box

`Reply_Box` puts queries into an inbox, hands them out one by one and takes a
response to the last one.  A query without a response is in the inbox or is the
current one, with one exception: `respond` with an empty message returns normally
without having claimed the query, and forgets it.
-/

namespace Telling.Io

universe u v

/-- `Reply_Box::Delegate::Pending`. -/
structure ReplyBox.Pending (Query : Type v) where
  id : QueryID
  msg : Query
  deriving DecidableEq, Repr

/-- `Reply_Box`, with the queries that arrived and that were handed out, and the
queries for which `respond` returned normally. -/
structure ReplyBox (Query : Type v) (Message : Type u) where
  reply : Reply Message
  inbox : List (ReplyBox.Pending Query) := []
  currentQuery : QueryID := 0
  arrived : List (ReplyBox.Pending Query) := []
  handedOut : List (ReplyBox.Pending Query) := []
  responded : List QueryID := []

namespace ReplyBox

variable {Query : Type v} {Message : Type u}

/-- The delegate does not override `async_prep`. -/
def prep (_ : QueryID) (msg : Option Message) : Option Message := msg

/-- Construction: the delegate is installed, and it lives as long as the box. -/
def initial (ctx : QueryID) : ReplyBox Query Message where
  reply := (Reply.initializeWith {} false ctx).toOption.getD {}

/-- `Reply_Box::receive`, with the query it hands out. -/
def receive (box : ReplyBox Query Message) :
    Except NngError (Option (Pending Query) × ReplyBox Query Message) :=
  if !box.reply.ready then .error .closed
  else if box.currentQuery ≠ 0 then .error .state
  else
    match box.inbox with
    | [] => .ok (none, box)
    | front :: rest =>
        .ok (some front, { box with inbox := rest, currentQuery := front.id })

/-- `Reply_Box::respond`. -/
def respond (box : ReplyBox Query Message) (msg : Option Message) :
    Except NngError (ReplyBox Query Message) :=
  if !box.reply.ready then .error .closed
  else if box.currentQuery = 0 then .error .state
  else
    match box.reply.respondTo prep box.currentQuery msg with
    | .ok reply => .ok { box with reply := reply, currentQuery := 0 }
    | .error error => .error error

/-- The steps of the communicator that need neither the delegate nor the user. -/
def internal : Reply.Label Message → Bool
  | .ready _ | .received _ | .enqueue _ | .handOver _ | .complete _ | .sent => true
  | .initializeWith _ _ | .handled _ | .rearm _ | .respondTo _ _ => false

inductive Label (Query : Type v) (Message : Type u) where
  | communicator (label : Reply.Label Message)
  | deliver (query : Query)
  | rearm (ctx : QueryID)
  | receive
  | respond (msg : Option Message)

/-- One step; a call that throws changes nothing.  The id of a context is positive
and not that of an open context. -/
def step (box : ReplyBox Query Message) :
    Label Query Message → Option (ReplyBox Query Message)
  | .communicator label =>
      if internal label then
        (box.reply.step prep label).map fun reply => { box with reply := reply }
      else none
  | .deliver query =>
      match box.reply.receiver with
      | .handling id =>
          (box.reply.handled prep none).map fun reply =>
            { box with
              reply := reply
              inbox := box.inbox ++ [⟨id, query⟩]
              arrived := box.arrived ++ [⟨id, query⟩] }
      | _ => none
  | .rearm ctx =>
      if ctx ≠ 0 ∧ ctx ∉ box.reply.unresponded then
        (box.reply.rearm ctx).map fun reply => { box with reply := reply }
      else none
  | .receive =>
      match box.receive with
      | .ok (front, next) =>
          some { next with handedOut := box.handedOut ++ front.toList }
      | .error _ => some box
  | .respond msg =>
      match box.respond msg with
      | .ok next => some { next with responded := box.responded ++ [box.currentQuery] }
      | .error _ => some box

/-- `current_query`, as a list of at most one query. -/
def current (box : ReplyBox Query Message) : List QueryID :=
  if box.currentQuery = 0 then [] else [box.currentQuery]

/-- No query is lost.  Between operations the queries without a response are those
in the inbox and the current one, queries are handed out in the order of their
arrival, and each `respond` that returned normally has answered the query that
was handed out last. -/
structure LosesNone (box : ReplyBox Query Message) : Prop where
  reachable : (∀ id, box.reply.receiver ≠ .handling id) →
    ∀ id, id ∈ box.reply.unresponded ↔
      id ∈ box.inbox.map Pending.id ∨ box.currentQuery ≠ 0 ∧ id = box.currentQuery
  order : box.handedOut ++ box.inbox = box.arrived
  last : box.handedOut.map Pending.id = box.responded ++ box.current
  answered : ∀ id, Exchange.answered box.reply.accepted id +
    Exchange.answered box.reply.claimed id = box.responded.count id

/-- The call is not a `respond` with an empty message that gets as far as
`respondTo`. -/
def AnswersWithMessage (box : ReplyBox Query Message) : Label Query Message → Prop
  | .respond none => ¬(box.reply.ready ∧ box.currentQuery ≠ 0)
  | _ => True

instance (box : ReplyBox Query Message) :
    (label : Label Query Message) → Decidable (box.AnswersWithMessage label)
  | .respond none => inferInstanceAs (Decidable (¬(_ ∧ _)))
  | .respond (some _) | .communicator _ | .deliver _ | .rearm _ | .receive =>
      isTrue trivial

/-! ## The invariant -/

/-- The query that the delegate is given. -/
def handling : Receiver → List QueryID
  | .handling id => [id]
  | _ => []

/-- The queries on their way to the user, oldest first. -/
def pending (box : ReplyBox Query Message) : List QueryID :=
  box.current ++ box.inbox.map Pending.id ++ handling box.reply.receiver

/-- The queries without a response are those on their way to the user and those that
were forgotten, for which `respond` returned with an empty message. -/
structure Sound (forgotten : List QueryID) (box : ReplyBox Query Message) : Prop where
  live : box.reply.handler = true
  unresponded : ∀ id, id ∈ box.reply.unresponded ↔ id ∈ box.pending ++ forgotten
  distinct : (box.pending ++ forgotten).Nodup
  positive : ∀ id ∈ box.pending, id ≠ 0
  armed : ∀ ctx, box.reply.receiver = .armed ctx →
    ctx ≠ 0 ∧ ctx ∉ box.reply.unresponded
  order : box.handedOut ++ box.inbox = box.arrived
  last : box.handedOut.map Pending.id = box.responded ++ box.current
  answered : ∀ id, Exchange.answered box.reply.accepted id +
    Exchange.answered box.reply.claimed id + forgotten.count id = box.responded.count id

theorem sound_initial {ctx : QueryID} (positive : ctx ≠ 0) :
    Sound [] (initial ctx : ReplyBox Query Message) where
  live := rfl
  unresponded := by simp [initial, Reply.initializeWith, Except.toOption, pending, current,
    handling]
  distinct := by simp [initial, Reply.initializeWith, Except.toOption, pending, current,
    handling]
  positive := by simp [initial, Reply.initializeWith, Except.toOption, pending, current,
    handling]
  armed := by
    intro other armed
    obtain rfl : ctx = other := Receiver.armed.inj armed
    exact ⟨positive, Finset.notMem_empty _⟩
  order := rfl
  last := rfl
  answered := fun _ => rfl

variable {box next : ReplyBox Query Message} {forgotten : List QueryID}

theorem Sound.losesNone (sound : Sound [] box) : box.LosesNone where
  reachable := by
    intro between id
    have noneHandled : handling box.reply.receiver = [] := by
      cases receiver : box.reply.receiver with
      | handling other => exact absurd receiver (between other)
      | _ => rfl
    rw [sound.unresponded, pending, noneHandled, List.append_nil, List.append_nil,
      List.mem_append, or_comm, current]
    split
    · next none => simp [none]
    · next some => simp [some]
  order := sound.order
  last := sound.last
  answered := sound.answered

/-! ## Steps -/

theorem handler_of_internal {reply after : Reply Message} {label : Reply.Label Message}
    (isInternal : internal label = true)
    (stepped : reply.step prep label = some after) : after.handler = reply.handler := by
  cases label with
  | ready value => exact Option.some.inj stepped ▸ rfl
  | received result =>
      simp only [Reply.step, Reply.aioReceived] at stepped
      repeat' split at stepped
      all_goals first | contradiction | exact Option.some.inj stepped ▸ rfl
  | enqueue index =>
      simp only [Reply.step, Reply.enqueue] at stepped
      repeat' split at stepped
      all_goals first | contradiction | exact Option.some.inj stepped ▸ rfl
  | handOver index =>
      simp only [Reply.step, Reply.handOver] at stepped
      split at stepped
      · contradiction
      · exact Option.some.inj stepped ▸ rfl
  | complete result =>
      obtain ⟨aio, _, rfl⟩ := Option.map_eq_some_iff.mp stepped
      rfl
  | sent =>
      simp only [Reply.step, Reply.aioSent] at stepped
      repeat' split at stepped
      all_goals first | contradiction | exact Option.some.inj stepped ▸ rfl
  | _ => simp [internal] at isInternal

theorem opened_of_internal {label : Reply.Label Message}
    (isInternal : internal label = true) : Exchange.opened label = none := by
  cases label <;> first | rfl | simp [internal] at isInternal

theorem call_of_internal {reply : Reply Message} {label : Reply.Label Message}
    (isInternal : internal label = true) : Exchange.call reply label = [] := by
  cases label <;> first | rfl | simp [internal] at isInternal

/-- Steps that move queries forward on their way to the user, or none at all. -/
theorem Sound.of_pending (sound : Sound forgotten box)
    (live : next.reply.handler = box.reply.handler)
    (unresponded : next.reply.unresponded = box.reply.unresponded)
    (pending : next.pending = box.pending)
    (armed : ∀ ctx, next.reply.receiver = .armed ctx →
      ctx ≠ 0 ∧ ctx ∉ box.reply.unresponded)
    (order : next.handedOut ++ next.inbox = next.arrived)
    (last : next.handedOut.map Pending.id = next.responded ++ next.current)
    (answered : ∀ id, Exchange.answered next.reply.accepted id +
      Exchange.answered next.reply.claimed id + forgotten.count id =
        next.responded.count id) :
    Sound forgotten next where
  live := live.trans sound.live
  unresponded := by
    rw [unresponded, pending]
    exact sound.unresponded
  distinct := pending ▸ sound.distinct
  positive := pending ▸ sound.positive
  armed := by
    rw [unresponded]
    exact armed
  order := order
  last := last
  answered := answered

/-- Steps that only move the sending side, or end the receiving side. -/
theorem Sound.of_same (sound : Sound forgotten box) {reply : Reply Message}
    (live : reply.handler = box.reply.handler)
    (unresponded : reply.unresponded = box.reply.unresponded)
    (answered : ∀ id, Exchange.answered reply.accepted id +
      Exchange.answered reply.claimed id = Exchange.answered box.reply.accepted id +
        Exchange.answered box.reply.claimed id)
    (receiver : reply.receiver = box.reply.receiver ∨
      (∃ ctx, box.reply.receiver = .armed ctx) ∧ reply.receiver = .stopped) :
    Sound forgotten { box with reply := reply } := by
  refine sound.of_pending live unresponded ?_ ?_ ?_ ?_ ?_
  · rcases receiver with same | ⟨⟨ctx, armed⟩, stopped⟩
    · simp [pending, current, same]
    · simp [pending, current, armed, stopped, handling]
  · intro ctx armed
    rcases receiver with same | ⟨_, stopped⟩
    · exact sound.armed ctx (same ▸ armed)
    · simp [stopped] at armed
  · exact sound.order
  · exact sound.last
  · exact fun id => by rw [answered id]; exact sound.answered id

/-- A query arrives. -/
theorem Sound.received (sound : Sound forgotten box) {queryID : QueryID}
    (armed : box.reply.receiver = .armed queryID) :
    Sound forgotten { box with reply := { box.reply with
      unresponded := insert queryID box.reply.unresponded
      receiver := .handling queryID } } := by
  obtain ⟨nonzero, fresh⟩ := sound.armed queryID armed
  have extended : ({ box with reply := { box.reply with
      unresponded := insert queryID box.reply.unresponded
      receiver := .handling queryID } } : ReplyBox Query Message).pending =
      box.pending ++ [queryID] := by
    simp [pending, current, armed, handling]
  refine ⟨sound.live, ?_, ?_, ?_, by simp, sound.order, sound.last, sound.answered⟩
  · intro id
    have before := sound.unresponded id
    rw [List.mem_append] at before
    rw [extended, Finset.mem_insert, before, List.mem_append, List.mem_append,
      List.mem_singleton]
    tauto
  · rw [extended, (List.perm_append_comm.append_right forgotten).nodup_iff,
      List.append_assoc, List.singleton_append, List.nodup_cons]
    exact ⟨fun member => fresh ((sound.unresponded queryID).mpr member), sound.distinct⟩
  · rw [extended, List.forall_mem_append]
    exact ⟨sound.positive, by simpa using nonzero⟩

theorem Sound.communicator (sound : Sound forgotten box) {label : Reply.Label Message}
    {reply : Reply Message} (isInternal : internal label = true)
    (stepped : box.reply.step prep label = some reply) :
    Sound forgotten { box with reply := reply } := by
  have live := handler_of_internal isInternal stepped
  cases Exchange.effect_of_step stepped with
  | quiet _ unresponded claimed accepted moves =>
      refine sound.of_same live unresponded (fun id => by rw [claimed, accepted]) ?_
      generalize receiverEq : box.reply.receiver = before at moves
      generalize reply.receiver = after at moves
      cases moves with
      | stays => exact .inl rfl
      | opens opens => simp [opened_of_internal isInternal] at opens
      | stops => exact .inr ⟨⟨_, rfl⟩, rfl⟩
      | returns isHandled _ => simp [isHandled, internal] at isInternal
  | received _ armed => exact sound.received armed
  | claimed _ called => simp [call_of_internal isInternal] at called
  | enqueued _ split claimed accepted unresponded receiver =>
      refine sound.of_same live unresponded (fun id => ?_) (.inl receiver)
      simp only [claimed, accepted, split, Exchange.answered_append,
        Exchange.answered_cons, Exchange.answered_nil]
      omega

theorem Sound.deliver (sound : Sound forgotten box) {query : Query}
    (stepped : box.step (.deliver query) = some next) : Sound forgotten next := by
  cases receiver : box.reply.receiver with
  | handling id =>
      simp only [ReplyBox.step, receiver, Reply.handled, Option.map_some,
        Option.some.injEq] at stepped
      subst stepped
      refine sound.of_pending rfl rfl ?_ ?_ ?_ ?_ ?_
      · simp [pending, current, receiver, handling]
      · simp
      · simp only [← List.append_assoc, sound.order]
      · exact sound.last
      · exact sound.answered
  | _ => simp [ReplyBox.step, receiver] at stepped

theorem Sound.rearm (sound : Sound forgotten box) {ctx : QueryID}
    (stepped : box.step (.rearm ctx) = some next) : Sound forgotten next := by
  simp only [ReplyBox.step] at stepped
  split at stepped
  · next fresh =>
      cases receiver : box.reply.receiver with
      | returning =>
          simp only [Reply.rearm, receiver, Option.map_some, Option.some.injEq] at stepped
          subst stepped
          refine sound.of_pending rfl rfl ?_ ?_ ?_ ?_ ?_
          · simp [pending, current, receiver, handling]
          · intro other armed
            exact Receiver.armed.inj armed ▸ fresh
          · exact sound.order
          · exact sound.last
          · exact sound.answered
      | _ => simp [Reply.rearm, receiver] at stepped
  · contradiction

/-- What `receive` does. -/
theorem receive_eq_ok {front : Option (Pending Query)}
    (received : box.receive = .ok (front, next)) :
    box.currentQuery = 0 ∧ (front = none ∧ next = box ∨
      ∃ query rest, front = some query ∧ box.inbox = query :: rest ∧
        next = { box with inbox := rest, currentQuery := query.id }) := by
  simp only [ReplyBox.receive] at received
  split at received
  · contradiction
  · split at received
    · contradiction
    · next none =>
        refine ⟨not_not.mp none, ?_⟩
        split at received
        · obtain ⟨rfl, rfl⟩ := Prod.mk.inj (Except.ok.inj received)
          exact .inl ⟨rfl, rfl⟩
        · next query rest inbox =>
            obtain ⟨rfl, rfl⟩ := Prod.mk.inj (Except.ok.inj received)
            exact .inr ⟨query, rest, rfl, inbox, rfl⟩

theorem Sound.receive (sound : Sound forgotten box)
    (stepped : box.step .receive = some next) : Sound forgotten next := by
  cases received : box.receive with
  | error error =>
      simp only [ReplyBox.step, received, Option.some.injEq] at stepped
      exact stepped ▸ sound
  | ok result =>
      obtain ⟨front, after⟩ := result
      simp only [ReplyBox.step, received, Option.some.injEq] at stepped
      subst stepped
      obtain ⟨none, ⟨rfl, rfl⟩ | ⟨query, rest, rfl, inbox, rfl⟩⟩ := receive_eq_ok received
      · simpa using sound
      · have nonzero : query.id ≠ 0 := sound.positive query.id (by simp [pending, inbox])
        have last := sound.last
        refine sound.of_pending rfl rfl ?_ ?_ ?_ ?_ ?_
        · simp [pending, current, inbox, none, nonzero]
        · exact sound.armed
        · simpa [inbox] using sound.order
        · simp only [current, none, if_true, List.append_nil] at last
          simp [current, nonzero, last]
        · exact sound.answered

/-- A call of `respond` that gets as far as `respondTo`. -/
theorem respond_of_ready {msg : Option Message} (ready : box.reply.ready = true)
    (waiting : box.currentQuery ≠ 0) :
    box.respond msg = (box.reply.respondTo prep box.currentQuery msg).map fun reply =>
      { box with reply := reply, currentQuery := 0 } := by
  simp only [ReplyBox.respond, ready, Bool.not_true, Bool.false_eq_true, if_false, waiting]
  cases box.reply.respondTo prep box.currentQuery msg <;> rfl

theorem respond_of_blocked {msg : Option Message}
    (blocked : ¬(box.reply.ready ∧ box.currentQuery ≠ 0)) :
    box.step (.respond msg) = some box := by
  have throws : ∃ error, box.respond msg = .error error := by
    unfold ReplyBox.respond
    split
    · exact ⟨.closed, rfl⟩
    · next ready =>
        rw [if_pos]
        · exact ⟨.state, rfl⟩
        · by_contra waiting
          exact blocked ⟨by simpa using ready, waiting⟩
  obtain ⟨error, equal⟩ := throws
  simp [ReplyBox.step, equal]

theorem respondTo_empty {reply : Reply Message} (id : QueryID)
    (ready : reply.ready = true) (live : reply.handler = true) :
    reply.respondTo prep id none = .ok reply := by
  simp [Reply.respondTo, ready, live, prep]

/-- The box after a response to the current query was claimed. -/
def claim (box : ReplyBox Query Message) (msg : Message) : ReplyBox Query Message :=
  { box with
    reply := { box.reply with
      unresponded := box.reply.unresponded.erase box.currentQuery
      claimed := box.reply.claimed ++ [⟨box.currentQuery, msg⟩] }
    currentQuery := 0
    responded := box.responded ++ [box.currentQuery] }

/-- The box after an empty response to the current query. -/
def forget (box : ReplyBox Query Message) : ReplyBox Query Message :=
  { box with currentQuery := 0, responded := box.responded ++ [box.currentQuery] }

/-- The box after `respond` has returned. -/
def settle (box : ReplyBox Query Message) : Option Message → ReplyBox Query Message
  | none => box.forget
  | some msg => box.claim msg

theorem Sound.outstanding (sound : Sound forgotten box) (waiting : box.currentQuery ≠ 0) :
    box.currentQuery ∈ box.reply.unresponded := by
  rw [sound.unresponded]
  simp [pending, current, waiting]

/-- A call of `respond` that gets as far as `respondTo` claims the current query, or
forgets it. -/
theorem Sound.step_respond (sound : Sound forgotten box) (ready : box.reply.ready = true)
    (waiting : box.currentQuery ≠ 0) (msg : Option Message) :
    (∃ after, box.respond msg = .ok after) ∧
      box.step (.respond msg) = some (box.settle msg) := by
  have responds := @respond_of_ready _ _ box msg ready waiting
  cases msg with
  | none =>
      rw [respondTo_empty _ ready sound.live] at responds
      exact ⟨⟨_, responds⟩, by simp [ReplyBox.step, responds, Except.map, settle, forget]⟩
  | some msg =>
      rw [Reply.respondTo_of_outstanding ready sound.live
        (show prep box.currentQuery (some msg) = some msg from rfl)
        (sound.outstanding waiting)] at responds
      exact ⟨⟨_, responds⟩, by simp [ReplyBox.step, responds, Except.map, settle, claim]⟩

/-- The current query is the first one on its way. -/
theorem pending_of_waiting (waiting : box.currentQuery ≠ 0) :
    box.pending = box.currentQuery ::
      (box.inbox.map Pending.id ++ handling box.reply.receiver) := by
  simp [pending, current, waiting]

/-- An answer with a message claims the current query. -/
theorem Sound.answer (sound : Sound forgotten box) (msg : Message)
    (waiting : box.currentQuery ≠ 0) : Sound forgotten (box.claim msg) := by
  have distinct := sound.distinct
  rw [pending_of_waiting waiting, List.cons_append, List.nodup_cons] at distinct
  have rest : (box.claim msg).pending =
      box.inbox.map Pending.id ++ handling box.reply.receiver := by
    simp [pending, current, claim]
  refine ⟨sound.live, ?_, ?_, ?_, ?_, sound.order, ?_, ?_⟩
  · intro id
    rw [rest, claim, Finset.mem_erase, sound.unresponded, pending_of_waiting waiting,
      List.cons_append, List.mem_cons]
    constructor
    · rintro ⟨other, equal | member⟩
      · exact absurd equal other
      · exact member
    · intro member
      exact ⟨fun equal => distinct.1 (equal ▸ member), .inr member⟩
  · rw [rest]
    exact distinct.2
  · rw [rest]
    intro id member
    apply sound.positive id
    rw [pending_of_waiting waiting]
    exact List.mem_cons_of_mem _ member
  · intro ctx armed
    obtain ⟨nonzero, fresh⟩ := sound.armed ctx armed
    exact ⟨nonzero, fun member => fresh (Finset.mem_of_mem_erase member)⟩
  · have last := sound.last
    simp only [current, waiting, if_false] at last
    simp [claim, current, last]
  · intro id
    have answered := sound.answered id
    simp only [claim, Exchange.answered_append, Exchange.answered_cons,
      Exchange.answered_nil, List.count_append, List.count_singleton, beq_iff_eq]
    omega

/-- An empty answer forgets the current query. -/
theorem Sound.forget (sound : Sound forgotten box) (waiting : box.currentQuery ≠ 0) :
    Sound (forgotten ++ [box.currentQuery]) box.forget := by
  have rest : box.forget.pending =
      box.inbox.map Pending.id ++ handling box.reply.receiver := by
    simp [pending, current, ReplyBox.forget]
  have same : (box.forget.pending ++ (forgotten ++ [box.currentQuery])).Perm
      (box.pending ++ forgotten) := by
    rw [rest, pending_of_waiting waiting, ← List.append_assoc, List.cons_append]
    exact List.perm_append_singleton _ _
  refine ⟨sound.live, ?_, ?_, ?_, sound.armed, sound.order, ?_, ?_⟩
  · intro id
    rw [same.mem_iff]
    exact sound.unresponded id
  · rw [same.nodup_iff]
    exact sound.distinct
  · rw [rest]
    intro id member
    apply sound.positive id
    rw [pending_of_waiting waiting]
    exact List.mem_cons_of_mem _ member
  · have last := sound.last
    simp only [current, waiting, if_false] at last
    simp [ReplyBox.forget, current, last]
  · intro id
    have answered := sound.answered id
    simp only [ReplyBox.forget, List.count_append]
    omega

theorem Sound.respond (sound : Sound forgotten box) {msg : Option Message}
    (answers : box.AnswersWithMessage (.respond msg))
    (stepped : box.step (.respond msg) = some next) : Sound forgotten next := by
  by_cases reaches : box.reply.ready ∧ box.currentQuery ≠ 0
  · obtain ⟨ready, waiting⟩ := reaches
    cases msg with
    | none => exact absurd ⟨ready, waiting⟩ answers
    | some msg =>
        rw [(sound.step_respond ready waiting _).2, Option.some.injEq] at stepped
        exact stepped ▸ sound.answer msg waiting
  · rw [respond_of_blocked reaches, Option.some.injEq] at stepped
    exact stepped ▸ sound

theorem Sound.step (sound : Sound forgotten box) {label : Label Query Message}
    (answers : box.AnswersWithMessage label) (stepped : box.step label = some next) :
    Sound forgotten next := by
  cases label with
  | communicator label =>
      simp only [ReplyBox.step] at stepped
      split at stepped
      · next isInternal =>
          obtain ⟨reply, steppedReply, rfl⟩ := Option.map_eq_some_iff.mp stepped
          exact sound.communicator isInternal steppedReply
      · contradiction
  | deliver query => exact sound.deliver stepped
  | rearm ctx => exact sound.rearm stepped
  | receive => exact sound.receive stepped
  | respond msg => exact sound.respond answers stepped

/-- An empty message is taken for an answer and answers nothing. -/
theorem Sound.forgets (sound : Sound [] box) {label : Label Query Message}
    (empty : ¬box.AnswersWithMessage label) (stepped : box.step label = some next) :
    ¬next.LosesNone := by
  cases label with
  | respond msg =>
      cases msg with
      | some msg => exact absurd trivial empty
      | none =>
          obtain ⟨ready, waiting⟩ := not_not.mp empty
          obtain rfl : box.forget = next :=
            Option.some.inj ((sound.step_respond ready waiting none).2.symm.trans stepped)
          intro losesNone
          have before := (sound.forget waiting).answered box.currentQuery
          have after := losesNone.answered box.currentQuery
          simp only [List.nil_append, List.count_singleton_self] at before
          omega
  | _ => exact absurd trivial empty

/-- A reply box loses no query exactly when it is given no empty response to the
query at hand. -/
theorem losesNone_iff_answersWithMessage (ctx : QueryID) (positive : ctx ≠ 0)
    (labels : List (Label Query Message)) (final : ReplyBox Query Message)
    (reached : Lib.run step (initial ctx) labels = some final) :
    Lib.Along step LosesNone (initial ctx) labels ↔
      Lib.Meets step AnswersWithMessage (initial ctx) labels :=
  Lib.along_iff_meets (Sound []) (fun _ sound => sound.losesNone)
    (fun _ _ _ sound answers stepped => sound.step answers stepped)
    (fun _ _ _ sound empty stepped => sound.forgets empty stepped)
    (sound_initial positive) reached

/-- Two queries, received and answered one after the other. -/
def twoQueries : List (Label String String) :=
  [.communicator (.ready true), .communicator (.received .success), .deliver "p",
    .rearm 2, .communicator (.received .success), .deliver "q", .rearm 3, .receive,
    .respond (some "a"), .communicator (.enqueue 0), .communicator (.handOver 0),
    .receive, .receive, .respond (some "b"), .communicator (.enqueue 0)]

theorem losesNone_twoQueries :
    (Lib.run step (initial 1) twoQueries).map (fun final =>
        (final.handedOut, final.reply.accepted)) =
      some ([⟨1, "p"⟩, ⟨2, "q"⟩], [⟨1, "a"⟩, ⟨2, "b"⟩]) ∧
      Lib.Along step LosesNone (initial 1) twoQueries := by
  have summary : (Lib.run step (initial 1) twoQueries).map (fun final =>
        (final.handedOut, final.reply.accepted)) =
      some ([⟨1, "p"⟩, ⟨2, "q"⟩], [⟨1, "a"⟩, ⟨2, "b"⟩]) := by
    decide
  obtain ⟨final, reached, _⟩ := Option.map_eq_some_iff.mp summary
  exact ⟨summary, (losesNone_iff_answersWithMessage 1 (by decide) twoQueries final
    reached).mpr (by decide)⟩

/-- After an empty response the query is without a response and out of reach. -/
theorem query_forgotten :
    ∃ final : ReplyBox String String,
      Lib.run step (initial 1) [.communicator (.ready true),
        .communicator (.received .success), .deliver "p", .rearm 2, .receive,
        .respond none] = some final ∧
      final.reply.unresponded = {1} ∧ final.inbox = [] ∧ final.currentQuery = 0 ∧
      final.responded = [1] ∧ ¬final.LosesNone := by
  refine ⟨_, rfl, rfl, rfl, rfl, rfl, fun losesNone => ?_⟩
  exact absurd (losesNone.answered 1) (by decide)

end ReplyBox

end Telling.Io
