import Telling.Io.Reply

/-!
# Responses and the queries they answer

A query is identified by its context.  Every query that was received is without a
response, claimed by a responder, in the outbox or handed to the send operation,
and it is in exactly one of these places.  From this balance and from the order of
the turnstile it follows that each message goes to the query it was given for, at
most once and in the order of the outbox.
-/

namespace Telling.Io

universe u

/-- A communicator together with the queries it received and the responses it was
given, in the order in which this happened. -/
structure Exchange (Message : Type u) where
  reply : Reply Message := {}
  received : List QueryID := []
  calls : List (QueryID × Option Message) := []

namespace Exchange

variable {Message : Type u}

/-- The query that a step receives. -/
def arrival (reply : Reply Message) : Reply.Label Message → List QueryID
  | .received result =>
      match reply.receiver with
      | .armed queryID =>
          if reply.handler && decide (result = .success) then [queryID] else []
      | _ => []
  | _ => []

/-- The response that a step is given, by a call of `respondTo` or through the
tag. -/
def call (reply : Reply Message) :
    Reply.Label Message → List (QueryID × Option Message)
  | .respondTo queryID msg => [(queryID, msg)]
  | .handled (some msg) =>
      match reply.receiver with
      | .handling queryID => [(queryID, some msg)]
      | _ => []
  | _ => []

inductive Label (Message : Type u) where
  | communicator (label : Reply.Label Message)
  | expire

/-- One step.  The handler expires only outside the callback, which keeps it
alive. -/
def step (prep : QueryID → Option Message → Option Message)
    (exchange : Exchange Message) : Label Message → Option (Exchange Message)
  | .communicator label =>
      (exchange.reply.step prep label).map fun reply =>
        { reply := reply
          received := exchange.received ++ arrival exchange.reply label
          calls := exchange.calls ++ call exchange.reply label }
  | .expire =>
      match exchange.reply.receiver with
      | .stopped | .armed _ =>
          some { exchange with reply := { exchange.reply with handler := false } }
      | _ => none

/-- The context that a step opens. -/
def opened : Reply.Label Message → Option QueryID
  | .initializeWith _ ctx | .rearm ctx => some ctx
  | _ => none

/-- The contexts of queries without a response are open, so that no new context
has the id of one of them. -/
def OpensNew (exchange : Exchange Message) : Label Message → Prop
  | .communicator label => ∀ ctx ∈ opened label, ctx ∉ exchange.reply.unresponded
  | .expire => True

instance (exchange : Exchange Message) :
    (label : Label Message) → Decidable (exchange.OpensNew label)
  | .communicator label => inferInstanceAs (Decidable (∀ ctx ∈ opened label, _))
  | .expire => isTrue trivial

/-- How often a query has a response among the items. -/
def answered (items : List (OutboxItem Message)) (query : QueryID) : Nat :=
  (items.map OutboxItem.ctx).count query

@[simp] theorem answered_nil (query : QueryID) :
    answered ([] : List (OutboxItem Message)) query = 0 := rfl

@[simp] theorem answered_append (left right : List (OutboxItem Message))
    (query : QueryID) :
    answered (left ++ right) query = answered left query + answered right query := by
  simp [answered]

@[simp] theorem answered_cons (item : OutboxItem Message)
    (items : List (OutboxItem Message)) (query : QueryID) :
    answered (item :: items) query =
      answered items query + if item.ctx = query then 1 else 0 := by
  simp [answered, List.count_cons]

/-! ## What a step does to the queries -/

section Effects

variable {prep : QueryID → Option Message → Option Message}

/-- How a step other than the receipt of a query moves the receiving side. -/
inductive Moves (label : Reply.Label Message) : Receiver → Receiver → Prop where
  | stays {receiver : Receiver} : Moves label receiver receiver
  | opens {receiver : Receiver} {ctx : QueryID} :
      opened label = some ctx → Moves label receiver (.armed ctx)
  | stops {ctx : QueryID} : Moves label (.armed ctx) .stopped
  | returns {queryID : QueryID} {responseMsg : Option Message} {receiver : Receiver} :
      label = .handled responseMsg → receiver = .returning ∨ receiver = .stopped →
      Moves label (.handling queryID) receiver

theorem Moves.of_armed {label : Reply.Label Message} {before after : Receiver}
    {ctx : QueryID} (moves : Moves label before after) (armed : after = .armed ctx) :
    before = .armed ctx ∨ opened label = some ctx := by
  cases moves with
  | stays => exact .inl armed
  | opens opens => exact .inr (Receiver.armed.inj armed ▸ opens)
  | stops => contradiction
  | returns _ ends => rcases ends with rfl | rfl <;> contradiction

/-- The place of a query changes when it is received, claimed or put into the
outbox. -/
inductive Effect (prep : QueryID → Option Message → Option Message)
    (reply : Reply Message) (label : Reply.Label Message) :
    Reply Message → Prop where
  | quiet {next : Reply Message} :
      arrival reply label = [] → next.unresponded = reply.unresponded →
      next.claimed = reply.claimed → next.accepted = reply.accepted →
      Moves label reply.receiver next.receiver → Effect prep reply label next
  | received {queryID : QueryID} :
      arrival reply label = [queryID] → reply.receiver = .armed queryID →
      Effect prep reply label { reply with
        unresponded := insert queryID reply.unresponded
        receiver := .handling queryID }
  | claimed {queryID : QueryID} {msg : Option Message} {prepared : Message}
      {receiver : Receiver} :
      arrival reply label = [] → (queryID, msg) ∈ call reply label →
      prep queryID msg = some prepared → queryID ∈ reply.unresponded →
      Moves label reply.receiver receiver →
      Effect prep reply label { reply with
        unresponded := reply.unresponded.erase queryID
        claimed := reply.claimed ++ [⟨queryID, prepared⟩]
        receiver := receiver }
  | enqueued {next : Reply Message} {before after : List (OutboxItem Message)}
      {item : OutboxItem Message} :
      arrival reply label = [] → reply.claimed = before ++ item :: after →
      next.claimed = before ++ after → next.accepted = reply.accepted ++ [item] →
      next.unresponded = reply.unresponded → next.receiver = reply.receiver →
      Effect prep reply label next

variable {reply next : Reply Message}

theorem effect_respondTo (queryID : QueryID) (msg : Option Message) :
    Effect prep reply (.respondTo queryID msg)
      ((reply.respondTo prep queryID msg).toOption.getD reply) := by
  cases returned : reply.respondTo prep queryID msg with
  | error error => exact .quiet rfl rfl rfl rfl .stays
  | ok responded =>
      rcases Reply.respondTo_eq_ok returned with
        rfl | ⟨prepared, prepEq, outstanding, rfl⟩
      · exact .quiet rfl rfl rfl rfl .stays
      · exact .claimed rfl List.mem_cons_self prepEq outstanding .stays

theorem effect_initializeWith (expired : Bool) (ctx : QueryID) :
    Effect prep reply (.initializeWith expired ctx)
      ((reply.initializeWith expired ctx).toOption.getD reply) := by
  simp only [Reply.initializeWith]
  split
  · exact .quiet rfl rfl rfl rfl .stays
  · split
    · exact .quiet rfl rfl rfl rfl .stays
    · exact .quiet rfl rfl rfl rfl (.opens rfl)

theorem effect_received {result : NngError}
    (stepped : reply.aioReceived result = some next) :
    Effect prep reply (.received result) next := by
  cases armed : reply.receiver with
  | armed queryID =>
      simp only [Reply.aioReceived, armed] at stepped
      cases live : reply.handler with
      | false =>
          simp only [live, Bool.not_false, if_true, Option.some.injEq] at stepped
          subst stepped
          exact .quiet (by simp [arrival, armed, live]) rfl rfl rfl (armed ▸ .stops)
      | true =>
          rw [if_neg (by simp [live])] at stepped
          cases result with
          | success =>
              obtain rfl := Option.some.inj stepped
              exact .received (by simp [arrival, armed, live]) armed
          | _ =>
              obtain rfl := Option.some.inj stepped
              exact .quiet (by simp [arrival, armed]) rfl rfl rfl (armed ▸ .stops)
  | _ => simp [Reply.aioReceived, armed] at stepped

theorem effect_handled {responseMsg : Option Message}
    (stepped : reply.handled prep responseMsg = some next) :
    Effect prep reply (.handled responseMsg) next := by
  cases handling : reply.receiver with
  | handling queryID =>
      simp only [Reply.handled, handling] at stepped
      cases responseMsg with
      | none =>
          obtain rfl := Option.some.inj stepped
          exact .quiet rfl rfl rfl rfl (handling ▸ .returns rfl (.inl rfl))
      | some msg =>
          cases returned : reply.respondTo prep queryID (some msg) with
          | error error =>
              simp only [returned, Option.some.injEq] at stepped
              subst stepped
              exact .quiet rfl rfl rfl rfl (handling ▸ .returns rfl (.inr rfl))
          | ok responded =>
              simp only [returned, Option.some.injEq] at stepped
              subst stepped
              rcases Reply.respondTo_eq_ok returned with
                rfl | ⟨prepared, prepEq, outstanding, rfl⟩
              · exact .quiet rfl rfl rfl rfl (handling ▸ .returns rfl (.inl rfl))
              · exact .claimed rfl (by simp [call, handling]) prepEq outstanding
                  (handling ▸ .returns rfl (.inl rfl))
  | _ => simp [Reply.handled, handling] at stepped

theorem effect_enqueue {index : Nat} (stepped : reply.enqueue index = some next) :
    Effect prep reply (.enqueue index) next := by
  cases found : reply.claimed[index]? with
  | none => simp [Reply.enqueue, found] at stepped
  | some toSend =>
      obtain ⟨inside, equal⟩ := List.getElem?_eq_some_iff.mp found
      have split : reply.claimed =
          reply.claimed.take index ++ toSend :: reply.claimed.drop (index + 1) := by
        rw [← equal, List.cons_getElem_drop_succ, List.take_append_drop]
      have rest : reply.claimed.eraseIdx index =
          reply.claimed.take index ++ reply.claimed.drop (index + 1) :=
        List.eraseIdx_eq_take_drop_succ _ _
      simp only [Reply.enqueue, found] at stepped
      split at stepped <;>
        obtain rfl := Option.some.inj stepped <;>
        exact .enqueued rfl split rest rfl rfl rfl

/-- Every step has one of these effects. -/
theorem effect_of_step {label : Reply.Label Message}
    (stepped : reply.step prep label = some next) : Effect prep reply label next := by
  cases label with
  | ready value =>
      obtain rfl := Option.some.inj stepped
      exact .quiet rfl rfl rfl rfl .stays
  | initializeWith expired ctx =>
      obtain rfl := Option.some.inj stepped
      exact effect_initializeWith expired ctx
  | received result => exact effect_received stepped
  | handled responseMsg => exact effect_handled stepped
  | rearm ctx =>
      cases returning : reply.receiver with
      | returning =>
          simp only [Reply.step, Reply.rearm, returning, Option.some.injEq] at stepped
          subst stepped
          exact .quiet rfl rfl rfl rfl (.opens rfl)
      | _ => simp [Reply.step, Reply.rearm, returning] at stepped
  | respondTo queryID msg =>
      obtain rfl := Option.some.inj stepped
      exact effect_respondTo queryID msg
  | enqueue index => exact effect_enqueue stepped
  | handOver index =>
      simp only [Reply.step, Reply.handOver] at stepped
      split at stepped
      · contradiction
      · obtain rfl := Option.some.inj stepped
        exact .quiet rfl rfl rfl rfl .stays
  | complete result =>
      obtain ⟨aio, _, rfl⟩ := Option.map_eq_some_iff.mp stepped
      exact .quiet rfl rfl rfl rfl .stays
  | sent =>
      simp only [Reply.step, Reply.aioSent] at stepped
      split at stepped
      · contradiction
      · split at stepped
        · split at stepped
          · obtain rfl := Option.some.inj stepped
            exact .quiet rfl rfl rfl rfl .stays
          · contradiction
        · obtain rfl := Option.some.inj stepped
          exact .quiet rfl rfl rfl rfl .stays

/-- Without a call the claimed responses only move on into the outbox.  Those of one kind
stay in order as long as no more than one of them is claimed. -/
theorem filter_of_effect {label : Reply.Label Message} (kind : OutboxItem Message → Bool)
    (effect : Effect prep reply label next) (noCall : call reply label = [])
    (single : (reply.claimed.filter kind).length ≤ 1) :
    (next.accepted ++ next.claimed).filter kind =
        (reply.accepted ++ reply.claimed).filter kind ∧
      (next.claimed.filter kind).length ≤ (reply.claimed.filter kind).length := by
  cases effect with
  | quiet _ _ claimed accepted _ => exact ⟨by rw [claimed, accepted], by rw [claimed]⟩
  | received _ _ => exact ⟨rfl, Nat.le_refl _⟩
  | claimed _ called =>
      rw [noCall] at called
      contradiction
  | @enqueued _ before after item _ split claimed accepted _ _ =>
      rw [split] at single
      rw [split, claimed, accepted]
      by_cases kept : kind item
      · rw [List.filter_append, List.filter_cons_of_pos kept, List.length_append,
          List.length_cons] at single
        have noneBefore : before.filter kind = [] := List.length_eq_zero_iff.mp (by omega)
        have noneAfter : after.filter kind = [] := List.length_eq_zero_iff.mp (by omega)
        simp [kept, noneBefore, noneAfter]
      · simp [kept]

theorem items_of_effect {label : Reply.Label Message}
    (effect : Effect prep reply label next) (noCall : call reply label = [])
    (single : reply.claimed.length ≤ 1) :
    next.accepted ++ next.claimed = reply.accepted ++ reply.claimed ∧
      next.claimed.length ≤ reply.claimed.length := by
  simpa using filter_of_effect (fun _ => true) effect noCall (by simpa using single)

/-- What has entered the outbox stays there. -/
theorem accepted_of_effect {label : Reply.Label Message}
    (effect : Effect prep reply label next) : reply.accepted <+: next.accepted := by
  cases effect with
  | quiet _ _ _ accepted _ => exact accepted ▸ List.prefix_rfl
  | received _ _ => exact List.prefix_rfl
  | claimed _ _ _ _ _ => exact List.prefix_rfl
  | enqueued _ _ _ accepted _ _ => exact accepted ▸ List.prefix_append _ _

end Effects

/-! ## The balance of queries -/

section Balance

variable {prep : QueryID → Option Message → Option Message}

/-- Where the queries are, and where the responses come from. -/
structure Accounted (prep : QueryID → Option Message → Option Message)
    (exchange : Exchange Message) : Prop where
  balanced : ∀ query, exchange.received.count query =
    answered exchange.reply.accepted query + answered exchange.reply.claimed query +
      if query ∈ exchange.reply.unresponded then 1 else 0
  armed : ∀ ctx, exchange.reply.receiver = .armed ctx →
    ctx ∉ exchange.reply.unresponded
  given : ∀ item ∈ exchange.reply.accepted ++ exchange.reply.claimed,
    ∃ msg, (item.ctx, msg) ∈ exchange.calls ∧ prep item.ctx msg = some item.msg
  orderly : exchange.reply.view.Orderly

theorem accounted_empty : Accounted prep ({} : Exchange Message) where
  balanced := by simp
  armed := by simp
  given := by simp
  orderly := Lib.Turnstile.Orderly.empty

variable {exchange next : Exchange Message}

section AccountedEffect

variable {label : Reply.Label Message} {reply : Reply Message}

theorem Accounted.balanced_effect (accounted : Accounted prep exchange)
    (effect : Effect prep exchange.reply label reply) (query : QueryID) :
    (exchange.received ++ arrival exchange.reply label).count query =
      answered reply.accepted query + answered reply.claimed query +
        if query ∈ reply.unresponded then 1 else 0 := by
  have before := accounted.balanced query
  cases effect with
  | quiet noArrival sameUnresponded sameClaimed sameAccepted moves =>
      rw [noArrival, List.append_nil, sameUnresponded, sameClaimed, sameAccepted]
      exact before
  | @received queryID arrives armed =>
      have fresh := accounted.armed queryID armed
      simp only [arrives, List.count_append, List.count_singleton, before,
        Finset.mem_insert, beq_iff_eq, eq_comm (a := queryID)]
      by_cases same : query = queryID
      · subst same
        simp [fresh]
      · simp [same]
  | @claimed queryID msg prepared receiver noArrival called prepEq outstanding moves =>
      simp only [noArrival, List.append_nil, before, answered_append, answered_cons,
        answered_nil, Finset.mem_erase]
      by_cases same : query = queryID
      · subst same
        simp [outstanding]
        omega
      · simp [same, eq_comm (a := queryID)]
  | enqueued noArrival split rest accepted sameUnresponded sameReceiver =>
      simp only [split, answered_append, answered_cons] at before
      simp only [noArrival, List.append_nil, accepted, rest, sameUnresponded,
        answered_append, answered_cons, answered_nil]
      omega

/-- The context that is armed is the one that was, or a new one. -/
theorem Accounted.armed_moves (accounted : Accounted prep exchange)
    (opensNew : exchange.OpensNew (.communicator label)) {receiver : Receiver}
    (moves : Moves label exchange.reply.receiver receiver) {ctx : QueryID}
    (armed : receiver = .armed ctx) : ctx ∉ exchange.reply.unresponded := by
  rcases moves.of_armed armed with before | opens
  · exact accounted.armed ctx before
  · exact opensNew ctx opens

theorem Accounted.armed_effect (accounted : Accounted prep exchange)
    (opensNew : exchange.OpensNew (.communicator label))
    (effect : Effect prep exchange.reply label reply) (ctx : QueryID)
    (armed : reply.receiver = .armed ctx) : ctx ∉ reply.unresponded := by
  cases effect with
  | quiet noArrival sameUnresponded sameClaimed sameAccepted moves =>
      rw [sameUnresponded]
      exact accounted.armed_moves opensNew moves armed
  | received arrives wasArmed => contradiction
  | claimed noArrival called prepEq outstanding moves =>
      intro member
      exact accounted.armed_moves opensNew moves armed (Finset.mem_of_mem_erase member)
  | enqueued noArrival split rest accepted sameUnresponded sameReceiver =>
      rw [sameUnresponded]
      exact accounted.armed ctx (sameReceiver ▸ armed)

/-- An item was on its way already, or it is claimed for the call that is made. -/
theorem mem_of_effect (effect : Effect prep exchange.reply label reply)
    {item : OutboxItem Message} (member : item ∈ reply.accepted ++ reply.claimed) :
    item ∈ exchange.reply.accepted ++ exchange.reply.claimed ∨
      ∃ msg, (item.ctx, msg) ∈ call exchange.reply label ∧
        prep item.ctx msg = some item.msg := by
  cases effect with
  | quiet noArrival sameUnresponded sameClaimed sameAccepted moves =>
      rw [sameAccepted, sameClaimed] at member
      exact .inl member
  | received arrives wasArmed => exact .inl member
  | @claimed queryID msg prepared receiver noArrival called prepEq outstanding moves =>
      rw [← List.append_assoc, List.mem_append, List.mem_singleton] at member
      rcases member with earlier | rfl
      · exact .inl earlier
      · exact .inr ⟨msg, called, prepEq⟩
  | enqueued noArrival split rest accepted sameUnresponded sameReceiver =>
      rw [accepted, rest] at member
      rw [split]
      simp only [List.mem_append, List.mem_cons] at member ⊢
      tauto

theorem Accounted.effect (accounted : Accounted prep exchange)
    (opensNew : exchange.OpensNew (.communicator label))
    (effect : Effect prep exchange.reply label reply)
    (orderly : reply.view.Orderly) :
    Accounted prep
      { reply := reply
        received := exchange.received ++ arrival exchange.reply label
        calls := exchange.calls ++ call exchange.reply label } where
  balanced := accounted.balanced_effect effect
  armed := accounted.armed_effect opensNew effect
  given item member := by
    rcases mem_of_effect effect member with earlier | ⟨msg, called, prepared⟩
    · obtain ⟨msg, called, prepared⟩ := accounted.given item earlier
      exact ⟨msg, List.mem_append_left _ called, prepared⟩
    · exact ⟨msg, List.mem_append_right _ called, prepared⟩
  orderly := orderly

end AccountedEffect

theorem orderly_step {reply next : Reply Message} {label : Reply.Label Message}
    (orderly : reply.view.Orderly) (stepped : reply.step prep label = some next) :
    next.view.Orderly :=
  Reply.refines.preserve (fun _ _ _ orderly (_ : True) moved => orderly.step moved)
    orderly (fun _ _ => trivial) stepped

theorem Accounted.step (accounted : Accounted prep exchange) {label : Label Message}
    (opensNew : exchange.OpensNew label)
    (stepped : exchange.step prep label = some next) : Accounted prep next := by
  cases label with
  | communicator label =>
      obtain ⟨reply, steppedReply, rfl⟩ := Option.map_eq_some_iff.mp stepped
      exact accounted.effect opensNew (effect_of_step steppedReply)
        (orderly_step accounted.orderly steppedReply)
  | expire =>
      simp only [Exchange.step] at stepped
      split at stepped
      · obtain rfl := Option.some.inj stepped
        exact ⟨accounted.balanced, accounted.armed, accounted.given, accounted.orderly⟩
      · obtain rfl := Option.some.inj stepped
        exact ⟨accounted.balanced, accounted.armed, accounted.given, accounted.orderly⟩
      · contradiction

/-- An unwanted response: the communicator is ready, its handler lives and leaves
the message, but no query with this id is waiting. -/
def Unwanted (prep : QueryID → Option Message → Option Message)
    (reply : Reply Message) (queryID : QueryID) (msg : Option Message) : Prop :=
  reply.ready ∧ reply.handler ∧ (prep queryID msg).isSome ∧
    queryID ∉ reply.unresponded

/-- What holds of the responses in every state. -/
structure InOrder (prep : QueryID → Option Message → Option Message)
    (exchange : Exchange Message) : Prop where
  /-- No query is answered more often than it was received. -/
  once : ∀ query,
    answered exchange.reply.aioSend.sent query ≤ exchange.received.count query
  /-- A message is handed to the send operation only on the context of a query that
  was received and not answered. -/
  outstanding : ∀ label next item, exchange.step prep label = some next →
    next.reply.aioSend.sent = exchange.reply.aioSend.sent ++ [item] →
    answered exchange.reply.aioSend.sent item.ctx < exchange.received.count item.ctx
  /-- What is sent on a context is a response that was given for its query. -/
  given : ∀ item ∈ exchange.reply.aioSend.sent,
    ∃ msg, (item.ctx, msg) ∈ exchange.calls ∧ prep item.ctx msg = some item.msg
  /-- Responses are sent in the order of the outbox. -/
  order : exchange.reply.aioSend.sent <+: exchange.reply.accepted
  /-- An unwanted response is refused and changes nothing. -/
  refused : ∀ queryID msg, Unwanted prep exchange.reply queryID msg →
    exchange.reply.respondTo prep queryID msg = .error .inval ∧
      exchange.reply.step prep (.respondTo queryID msg) = some exchange.reply

theorem Accounted.sent_beginning (accounted : Accounted prep exchange) :
    exchange.reply.aioSend.sent <+: exchange.reply.accepted := by
  have fifo := accounted.orderly.fifo
  rw [List.append_assoc] at fifo
  exact ⟨_, fifo⟩

theorem Accounted.once (accounted : Accounted prep exchange) (query : QueryID) :
    answered exchange.reply.aioSend.sent query ≤ exchange.received.count query := by
  obtain ⟨waiting, accepted⟩ := accounted.sent_beginning
  have balance := accounted.balanced query
  rw [← accepted, answered_append] at balance
  omega

theorem respondTo_unwanted {reply : Reply Message} {queryID : QueryID}
    {msg : Option Message} (unwanted : Unwanted prep reply queryID msg) :
    reply.respondTo prep queryID msg = .error .inval := by
  obtain ⟨ready, live, kept, missing⟩ := unwanted
  obtain ⟨prepared, prepEq⟩ := Option.isSome_iff_exists.mp kept
  simp [Reply.respondTo, ready, live, prepEq, missing]

/-- Messages are handed to the send operation by one step only. -/
theorem sent_of_step {reply next : Reply Message} {label : Reply.Label Message}
    (stepped : reply.step prep label = some next)
    (other : ∀ index, label ≠ .handOver index) :
    next.aioSend.sent = reply.aioSend.sent := by
  cases moved : reply.move label with
  | none => exact congrArg Lib.Turnstile.sent (Reply.refines.stutters moved stepped)
  | some action =>
      apply Lib.Turnstile.sent_of_step (Reply.refines.taken moved stepped)
      rintro index rfl
      cases label with
      | handOver other' => exact other other' rfl
      | enqueue other' => simp [Reply.move] at moved
      | sent =>
          simp only [Reply.move] at moved
          split at moved <;> simp at moved
      | _ => simp [Reply.move] at moved

theorem Accounted.outstanding (accounted : Accounted prep exchange)
    {label : Label Message} {item : OutboxItem Message}
    (stepped : exchange.step prep label = some next)
    (sent : next.reply.aioSend.sent = exchange.reply.aioSend.sent ++ [item]) :
    answered exchange.reply.aioSend.sent item.ctx <
      exchange.received.count item.ctx := by
  have changes : next.reply.aioSend.sent ≠ exchange.reply.aioSend.sent := by
    rw [sent]
    simp
  cases label with
  | communicator label =>
      obtain ⟨reply, steppedReply, rfl⟩ := Option.map_eq_some_iff.mp stepped
      obtain ⟨index, rfl⟩ : ∃ index, label = .handOver index := by
        by_contra other
        exact changes (sent_of_step steppedReply fun index equal => other ⟨index, equal⟩)
      have opensNew : exchange.OpensNew (.communicator (.handOver index)) :=
        fun ctx opens => by simp [opened] at opens
      have after := (accounted.step opensNew stepped).once item.ctx
      rw [sent, answered_append] at after
      simp only [answered_cons, answered_nil, if_true, arrival, List.append_nil] at after
      omega
  | expire =>
      simp only [Exchange.step] at stepped
      split at stepped
      · exact absurd (Option.some.inj stepped ▸ rfl) changes
      · exact absurd (Option.some.inj stepped ▸ rfl) changes
      · contradiction

/-- In every run, replies go to the right query, at most once and in order. -/
theorem responses_in_order (labels : List (Label Message)) (final : Exchange Message)
    (opensNew : Lib.Meets (step prep) OpensNew {} labels)
    (reached : Lib.run (step prep) {} labels = some final) : InOrder prep final := by
  have accounted : Accounted prep final :=
    Lib.invariant_of_run (Accounted prep) accounted_empty
      (fun _ _ _ accounted opens stepped => accounted.step opens stepped)
      opensNew reached
  refine ⟨accounted.once, ?_, ?_, accounted.sent_beginning, ?_⟩
  · intro label next item stepped sent
    exact accounted.outstanding stepped sent
  · intro item member
    exact accounted.given item
      (List.mem_append_left _ (accounted.sent_beginning.subset member))
  · intro queryID msg unwanted
    have refused := respondTo_unwanted unwanted
    exact ⟨refused, by simp [Reply.step, refused, Except.toOption]⟩

end Balance

/-- Two queries; the first is answered through the tag, the second by another thread,
which then tries again. -/
def dialogue : List (Label String) :=
  [.communicator (.ready true), .communicator (.initializeWith false 1),
    .communicator (.received .success), .communicator (.handled (some "a")),
    .communicator (.enqueue 0), .communicator (.handOver 0), .communicator (.rearm 2),
    .communicator (.received .success), .communicator (.handled none),
    .communicator (.respondTo 2 (some "b")), .communicator (.respondTo 2 (some "c")),
    .communicator (.enqueue 0)]

theorem responses_in_order_dialogue :
    ∃ final, Lib.run (step fun _ msg => msg) {} dialogue = some final ∧
      (final.received, final.reply.aioSend.sent, final.reply.accepted) =
        ([1, 2], [⟨1, "a"⟩], [⟨1, "a"⟩, ⟨2, "b"⟩]) ∧
      InOrder (fun _ msg => msg) final := by
  have summary : (Lib.run (step fun _ msg => msg) {} dialogue).map (fun final =>
      (final.received, final.reply.aioSend.sent, final.reply.accepted)) =
        some ([1, 2], [⟨1, "a"⟩], [⟨1, "a"⟩, ⟨2, "b"⟩]) := by
    decide
  obtain ⟨final, reached, equal⟩ := Option.map_eq_some_iff.mp summary
  exact ⟨final, reached, equal, responses_in_order dialogue final (by decide) reached⟩

/-- The handler may reject a response: then an unwanted one is dropped without an
exception. -/
theorem unwanted_response_dropped :
    ∃ final : Exchange String,
      Lib.run (step fun _ _ => none) {} [.communicator (.ready true),
        .communicator (.initializeWith false 1)] = some final ∧
      final.reply.ready ∧ final.reply.handler ∧ 7 ∉ final.reply.unresponded ∧
      (final.reply.respondTo (fun _ _ => none) 7 (some "a")).isOk := by
  exact ⟨_, rfl, rfl, rfl, by decide, rfl⟩

end Exchange

end Telling.Io
