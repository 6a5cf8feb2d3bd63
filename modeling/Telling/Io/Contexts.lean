import Mathlib.Data.Finset.Dedup
import Telling.Io.ReplyOrder

/-!
# The contexts of a Reply communicator

Every query lives on an NNG context of its own.  `Reply` opens a context to receive
on, releases it into the set of queries without a response, takes it back when a
response is claimed, passes it through the outbox to the send operation, and closes
it when the next response takes its place.  Between these points the context is an
`nng::ctx`, which closes what it holds when it is assigned or destroyed, or it is a
bare number that nothing closes by itself.

`~Reply` closes the contexts of the numbers, waits for both operations and leaves
the rest to the destructors of its members.  The ledger below records what is opened
and what is closed, in every interleaving of responders and callbacks.
-/

namespace Telling.Io

universe u

/-- The life of the communicator.  `~Reply` goes over `unresponded` in the order that
the set has, and ends once both operations have stopped. -/
inductive Lifetime where
  | alive
  | stopping (order : List QueryID)
  | gone (order : List QueryID)
  deriving DecidableEq, Repr

/-- The contexts that the destructor closed by their numbers. -/
def Lifetime.swept : Lifetime → List QueryID
  | .alive => []
  | .stopping order | .gone order => order

/-- A communicator with its two `nng::ctx` members, and the contexts that were opened
and closed so far. -/
structure Contexts (Message : Type u) where
  exchange : Exchange Message := {}
  /-- `ctx_aio_recv`. -/
  recv : Option QueryID := none
  /-- `ctx_aio_send`. -/
  send : Option QueryID := none
  lifetime : Lifetime := .alive
  opened : List QueryID := []
  closed : List QueryID := []

namespace Contexts

variable {Message : Type u}

/-- `ctx_aio_recv = make_ctx()`. -/
def assignRecv (contexts : Contexts Message) (ctx : QueryID) : Contexts Message :=
  { contexts with
    recv := some ctx
    opened := contexts.opened ++ [ctx]
    closed := contexts.closed ++ contexts.recv.toList }

/-- `ctx_aio_send = std::move(item.ctx)`. -/
def assignSend (contexts : Contexts Message) (item : OutboxItem Message) :
    Contexts Message :=
  { contexts with
    send := some item.ctx
    closed := contexts.closed ++ contexts.send.toList }

/-- What a step of the communicator does to its contexts. -/
def move (contexts : Contexts Message) : Exchange.Label Message → Contexts Message
  | .communicator (.initializeWith expired ctx) =>
      if contexts.exchange.reply.handler || expired then contexts
      else contexts.assignRecv ctx
  | .communicator (.rearm ctx) => contexts.assignRecv ctx
  | .communicator (.received result) =>
      -- `ctx.release()` once the id is among the unresponded ones.
      if contexts.exchange.reply.handler && decide (result = .success) then
        { contexts with recv := none }
      else contexts
  | .communicator (.handOver index) =>
      match contexts.exchange.reply.active[index]? with
      | some (some item) => contexts.assignSend item
      | _ => contexts
  | _ => contexts

@[simp] theorem move_lifetime {contexts : Contexts Message}
    (label : Exchange.Label Message) :
    (contexts.move label).lifetime = contexts.lifetime := by
  simp only [move]
  repeat' split
  all_goals rfl

/-- `initialize` succeeds once here: a second handler, after the first has expired,
would replace the operations as well. -/
def permits (contexts : Contexts Message) : Exchange.Label Message → Bool
  | .communicator (.initializeWith _ _) =>
      contexts.lifetime = .alive &&
        (contexts.exchange.reply.handler || contexts.opened.isEmpty)
  | _ => true

/-- A step of the communicator with what it does to the contexts. -/
def proceed (prep : QueryID → Option Message → Option Message)
    (contexts : Contexts Message) (label : Exchange.Label Message) :
    Option (Contexts Message) :=
  if contexts.permits label then
    (contexts.exchange.step prep label).map fun exchange =>
      { contexts.move label with exchange := exchange }
  else none

/-- The loop of `~Reply`, which takes no mutex. -/
def destroy (contexts : Contexts Message) (order : List QueryID) :
    Option (Contexts Message) :=
  if order.Nodup ∧ order.toFinset = contexts.exchange.reply.unresponded then
    some { contexts with
      lifetime := .stopping order
      closed := contexts.closed ++ order }
  else none

/-- Both operations have stopped: no callback and no responder is mid-way. -/
def stopped (contexts : Contexts Message) : Bool :=
  contexts.exchange.reply.claimed.isEmpty && contexts.exchange.reply.active.isEmpty &&
    contexts.exchange.reply.aioSend.completed.isEmpty &&
    contexts.exchange.reply.aioSend.inFlight.isEmpty &&
    match contexts.exchange.reply.receiver with
    | .stopped | .armed _ => true
    | .handling _ | .returning => false

/-- The members are destroyed: the two contexts, and those of the items that are left
in the outbox. -/
def finish (contexts : Contexts Message) (order : List QueryID) :
    Option (Contexts Message) :=
  if contexts.stopped then
    some { contexts with
      lifetime := .gone order
      closed := contexts.closed ++ contexts.send.toList ++ contexts.recv.toList ++
        contexts.exchange.reply.outbox.deq.map OutboxItem.ctx }
  else none

inductive Label (Message : Type u) where
  | proceed (label : Exchange.Label Message)
  | destroy (order : List QueryID)
  | finish

/-- One step.  Until the operations have stopped, callbacks and the responders they
call go on during the destructor. -/
def step (prep : QueryID → Option Message → Option Message)
    (contexts : Contexts Message) (label : Label Message) : Option (Contexts Message) :=
  match contexts.lifetime, label with
  | .alive, .proceed label | .stopping _, .proceed label => contexts.proceed prep label
  | .alive, .destroy order => contexts.destroy order
  | .stopping order, .finish => contexts.finish order
  | _, _ => none

/-- How many of the communicator's places hold a context: the member it receives on,
the numbers without a response, the responders, the outbox, and the member it sends
on. -/
def owners (contexts : Contexts Message) (ctx : QueryID) : Nat :=
  contexts.recv.toList.count ctx +
    (if ctx ∈ contexts.exchange.reply.unresponded then 1 else 0) +
    Exchange.answered contexts.exchange.reply.claimed ctx +
    Exchange.answered contexts.exchange.reply.active.reduceOption ctx +
    Exchange.answered contexts.exchange.reply.outbox.deq ctx +
    contexts.send.toList.count ctx

/-- `make_ctx` gives no id that is in use. -/
def OpensNew (contexts : Contexts Message) : Label Message → Prop
  | .proceed (.communicator label) =>
      ∀ ctx ∈ Exchange.opened label, contexts.owners ctx = 0
  | _ => True

instance (contexts : Contexts Message) :
    (label : Label Message) → Decidable (contexts.OpensNew label)
  | .proceed (.communicator label) =>
      inferInstanceAs (Decidable (∀ ctx ∈ Exchange.opened label, _))
  | .proceed .expire | .destroy _ | .finish => isTrue trivial

/-! ## The receiving and the sending context -/

/-- The context that is received on is held, and while a query is being handled
nothing is: its context has been released. -/
def Receives (recv : Option QueryID) : Receiver → Prop
  | .stopped => True
  | .armed ctx => recv = some ctx
  | .handling _ | .returning => recv = none

theorem Receives.moves {recv : Option QueryID} {label : Reply.Label Message}
    {before after : Receiver} (receives : Receives recv before)
    (moves : Exchange.Moves label before after)
    (opensNone : Exchange.opened label = none) : Receives recv after := by
  cases moves with
  | stays => exact receives
  | opens opens =>
      rw [opensNone] at opens
      contradiction
  | stops => trivial
  | returns handled ends =>
      cases ends with
      | inl returning =>
          rw [returning]
          exact receives
      | inr stopped =>
          rw [stopped]
          trivial

variable {prep : QueryID → Option Message → Option Message}

/-- How the contexts follow the queries and the responses. -/
structure Booked (prep : QueryID → Option Message → Option Message)
    (contexts : Contexts Message) : Prop where
  accounted : Exchange.Accounted prep contexts.exchange
  receives : Receives contexts.recv contexts.exchange.reply.receiver
  /-- A context is opened to receive on, and released with the query it received. -/
  received : ∀ ctx, contexts.opened.count ctx =
    contexts.recv.toList.count ctx + contexts.exchange.received.count ctx
  /-- The contexts of the responses handed over are closed but for the last one. -/
  sent : ∀ ctx, contexts.closed.count ctx + contexts.send.toList.count ctx =
    Exchange.answered contexts.exchange.reply.aioSend.sent ctx +
      contexts.lifetime.swept.count ctx
  /-- What is being sent is sent on the context that is held for it. -/
  sends : ∀ item ∈ contexts.exchange.reply.aioSend.inFlight,
    contexts.send = some item.ctx

/-- What holds until the members are destroyed. -/
structure Sound (prep : QueryID → Option Message → Option Message)
    (contexts : Contexts Message) : Prop extends Booked prep contexts where
  once : ∀ ctx, contexts.owners ctx ≤ 1

theorem sound_empty : Sound prep ({} : Contexts Message) where
  accounted := Exchange.accounted_empty
  receives := trivial
  received := by simp
  sent := by simp [Lifetime.swept]
  sends := by simp
  once := by simp [owners]

variable {contexts next : Contexts Message}

/-- What the communicator accepted was sent, or a responder or the outbox has it. -/
theorem answered_accepted {exchange : Exchange Message}
    (accounted : Exchange.Accounted prep exchange) (ctx : QueryID) :
    Exchange.answered exchange.reply.accepted ctx =
      Exchange.answered exchange.reply.aioSend.sent ctx +
        Exchange.answered exchange.reply.active.reduceOption ctx +
        Exchange.answered exchange.reply.outbox.deq ctx := by
  have fifo : exchange.reply.aioSend.sent ++ exchange.reply.active.reduceOption ++
      (exchange.reply.outbox.deq.map some).reduceOption = exchange.reply.accepted :=
    accounted.orderly.fifo
  have queued : (exchange.reply.outbox.deq.map some).reduceOption =
      exchange.reply.outbox.deq := by
    simp [List.reduceOption]
  rw [← fifo, queued, Exchange.answered_append, Exchange.answered_append]

/-- Every context that was opened is closed or has an owner, and those that the
destructor closed by their numbers count twice. -/
theorem Booked.ledger (booked : Booked prep contexts) (ctx : QueryID) :
    contexts.opened.count ctx + contexts.lifetime.swept.count ctx =
      contexts.closed.count ctx + contexts.owners ctx := by
  have accepted := answered_accepted booked.accounted ctx
  have balanced := booked.accounted.balanced ctx
  have opens := booked.received ctx
  have closes := booked.sent ctx
  rw [owners]
  omega

/-- A step that opens no more than it closes, or one context without an owner, leaves
no context with two owners. -/
theorem Booked.owners_le_one {ctx : QueryID} (booked : Booked prep next)
    (before : Booked prep contexts) (sameLifetime : next.lifetime = contexts.lifetime)
    (opens : next.opened.count ctx + contexts.closed.count ctx + contexts.owners ctx ≤
      contexts.opened.count ctx + next.closed.count ctx + 1) :
    next.owners ctx ≤ 1 := by
  have earlier := before.ledger ctx
  have later := booked.ledger ctx
  rw [sameLifetime] at later
  omega

/-! ## What a step does to the contexts -/

section Turns

variable {label : Reply.Label Message} {reply : Reply Message}

theorem move_ne_transmit {before : Reply Message}
    {action : Lib.Turnstile.Move (OutboxItem Message)}
    (moved : before.move label = some action)
    (other : ∀ index, label ≠ .handOver index) (index : Nat) :
    action ≠ .transmit index := by
  intro transmits
  subst transmits
  cases label with
  | handOver index => exact other index rfl
  | sent =>
      simp only [Reply.move] at moved
      split at moved <;> simp at moved
  | _ => simp [Reply.move] at moved

/-- No send is started but by a hand-over. -/
theorem inFlight_subset_of_step {before : Reply Message}
    (stepped : before.step prep label = some reply)
    (other : ∀ index, label ≠ .handOver index) :
    reply.aioSend.inFlight ⊆ before.aioSend.inFlight := by
  cases moved : before.move label with
  | none =>
      have same : reply.aioSend.inFlight = before.aioSend.inFlight :=
        congrArg Lib.Turnstile.flying (Reply.refines.stutters moved stepped)
      rw [same]
      exact List.Subset.refl _
  | some action =>
      exact Lib.Turnstile.flying_subset_of_step (Reply.refines.taken moved stepped)
        (move_ne_transmit moved other)

/-- The four things a step can do: leave the contexts, receive on a new one, release
the one a query came on, or send on another one.  A context is replaced only when
nothing uses it. -/
inductive Turn (contexts : Contexts Message) (label : Reply.Label Message)
    (reply : Reply Message) : Contexts Message → Prop where
  | stays :
      Exchange.arrival contexts.exchange.reply label = [] →
      Receives contexts.recv reply.receiver →
      reply.aioSend.sent = contexts.exchange.reply.aioSend.sent →
      reply.aioSend.inFlight ⊆ contexts.exchange.reply.aioSend.inFlight →
      Turn contexts label reply contexts
  | opens {ctx : QueryID} :
      Exchange.arrival contexts.exchange.reply label = [] →
      Exchange.opened label = some ctx → contexts.recv = none →
      reply.receiver = .armed ctx →
      reply.aioSend.sent = contexts.exchange.reply.aioSend.sent →
      reply.aioSend.inFlight ⊆ contexts.exchange.reply.aioSend.inFlight →
      Turn contexts label reply (contexts.assignRecv ctx)
  | releases {queryID : QueryID} :
      Exchange.arrival contexts.exchange.reply label = [queryID] →
      contexts.recv = some queryID → reply.receiver = .handling queryID →
      reply.aioSend = contexts.exchange.reply.aioSend →
      Turn contexts label reply { contexts with recv := none }
  | sends {item : OutboxItem Message} :
      Exchange.arrival contexts.exchange.reply label = [] →
      reply.receiver = contexts.exchange.reply.receiver →
      reply.aioSend.sent = contexts.exchange.reply.aioSend.sent ++ [item] →
      reply.aioSend.inFlight = [item] →
      Turn contexts label reply (contexts.assignSend item)

/-- Steps that neither open a context nor receive nor hand over. -/
theorem Sound.turn_stays (sound : Sound prep contexts)
    (stepped : contexts.exchange.reply.step prep label = some reply)
    (noArrival : Exchange.arrival contexts.exchange.reply label = [])
    (opensNone : Exchange.opened label = none)
    (other : ∀ index, label ≠ .handOver index) :
    Turn contexts label reply contexts := by
  apply Turn.stays noArrival _ (Exchange.sent_of_step stepped other)
    (inFlight_subset_of_step stepped other)
  cases Exchange.effect_of_step stepped with
  | quiet _ _ _ _ moves => exact sound.receives.moves moves opensNone
  | received arrives _ =>
      rw [noArrival] at arrives
      contradiction
  | claimed _ _ _ _ moves => exact sound.receives.moves moves opensNone
  | enqueued _ _ _ _ _ sameReceiver =>
      rw [sameReceiver]
      exact sound.receives

/-- A handler is installed once, when no context has been opened. -/
theorem Sound.turn_initializeWith (sound : Sound prep contexts) {expired : Bool}
    {ctx : QueryID}
    (permitted : contexts.permits (.communicator (.initializeWith expired ctx)) = true)
    (stepped : contexts.exchange.reply.step prep (.initializeWith expired ctx) =
      some reply) :
    Turn contexts (.initializeWith expired ctx) reply
      (contexts.move (.communicator (.initializeWith expired ctx))) := by
  have sent := Exchange.sent_of_step stepped (by simp)
  have flying := inFlight_subset_of_step stepped (by simp)
  obtain rfl := Option.some.inj stepped
  by_cases refused : contexts.exchange.reply.handler || expired
  · have same : (contexts.exchange.reply.initializeWith expired ctx).toOption.getD
        contexts.exchange.reply = contexts.exchange.reply := by
      cases handler : contexts.exchange.reply.handler with
      | true => simp [Reply.initializeWith, handler, Except.toOption]
      | false =>
          rw [handler, Bool.false_or] at refused
          simp [Reply.initializeWith, handler, refused, Except.toOption]
    rw [move, if_pos refused]
    apply Turn.stays rfl _ sent flying
    rw [same]
    exact sound.receives
  · simp only [Bool.or_eq_true, not_or, Bool.not_eq_true] at refused
    have unopened : contexts.opened = [] := by
      simp only [permits, refused.1, Bool.false_or, Bool.and_eq_true,
        List.isEmpty_iff] at permitted
      exact permitted.2
    have unused : contexts.recv = none := by
      cases held : contexts.recv with
      | none => rfl
      | some ctx =>
          have opens := sound.received ctx
          simp only [unopened, held, List.count_nil, Option.toList_some,
            List.count_singleton_self] at opens
          omega
    have armed : ((contexts.exchange.reply.initializeWith expired ctx).toOption.getD
        contexts.exchange.reply).receiver = .armed ctx := by
      simp [Reply.initializeWith, refused, Except.toOption]
    rw [move, if_neg (by simp [refused])]
    exact .opens rfl rfl unused armed sent flying

theorem Sound.turn_rearm (sound : Sound prep contexts) {ctx : QueryID}
    (stepped : contexts.exchange.reply.step prep (.rearm ctx) = some reply) :
    Turn contexts (.rearm ctx) reply (contexts.assignRecv ctx) := by
  have sent := Exchange.sent_of_step stepped (by simp)
  have flying := inFlight_subset_of_step stepped (by simp)
  have receives := sound.receives
  cases returning : contexts.exchange.reply.receiver with
  | returning =>
      simp only [Reply.step, Reply.rearm, returning, Option.some.injEq] at stepped
      subst stepped
      rw [returning] at receives
      exact .opens rfl rfl receives rfl sent flying
  | _ => simp [Reply.step, Reply.rearm, returning] at stepped

theorem Sound.turn_received (sound : Sound prep contexts) {result : NngError}
    (stepped : contexts.exchange.reply.step prep (.received result) = some reply) :
    Turn contexts (.received result) reply
      (contexts.move (.communicator (.received result))) := by
  by_cases taken : contexts.exchange.reply.handler && decide (result = .success)
  · have receives := sound.receives
    rw [move, if_pos taken]
    simp only [Bool.and_eq_true, decide_eq_true_eq] at taken
    cases armed : contexts.exchange.reply.receiver with
    | armed queryID =>
        simp only [Reply.step, Reply.aioReceived, armed, taken, Bool.not_true,
          Bool.false_eq_true, if_false, Option.some.injEq] at stepped
        subst stepped
        rw [armed] at receives
        exact .releases (by simp [Exchange.arrival, armed, taken]) receives rfl rfl
    | _ => simp [Reply.step, Reply.aioReceived, armed] at stepped
  · rw [move, if_neg taken]
    apply sound.turn_stays stepped _ rfl (by simp)
    simp only [Exchange.arrival, if_neg taken]
    split <;> rfl

/-- Whoever hands over an item has the only turn: nothing is being sent. -/
theorem Sound.turn_handOver (sound : Sound prep contexts) {index : Nat}
    (stepped : contexts.exchange.reply.step prep (.handOver index) = some reply) :
    Turn contexts (.handOver index) reply
      (contexts.move (.communicator (.handOver index))) := by
  simp only [Reply.step, Reply.handOver] at stepped
  cases found : contexts.exchange.reply.active[index]? with
  | none => simp [found] at stepped
  | some handle =>
      simp only [found, Option.some.injEq] at stepped
      subst stepped
      cases handle with
      | none =>
          simp only [move, found]
          exact .stays rfl sound.receives rfl (List.Subset.refl _)
      | some item =>
          have held : item ∈ contexts.exchange.reply.active.reduceOption :=
            List.reduceOption_mem_iff.mpr (List.mem_of_getElem? found)
          have single : contexts.exchange.reply.active.reduceOption.length +
              contexts.exchange.reply.aioSend.inFlight.length +
              contexts.exchange.reply.aioSend.completed.length ≤ 1 :=
            sound.accounted.orderly.single
          have nothingSent : contexts.exchange.reply.aioSend.inFlight = [] := by
            apply List.length_eq_zero_iff.mp
            have positive := List.length_pos_of_mem held
            omega
          simp only [move, found]
          exact .sends rfl rfl (Aio.sendIf_sent _ _)
            (by rw [Aio.sendIf_inFlight, nothingSent]; rfl)

theorem Sound.turn_of_step (sound : Sound prep contexts)
    (permitted : contexts.permits (.communicator label) = true)
    (stepped : contexts.exchange.reply.step prep label = some reply) :
    Turn contexts label reply (contexts.move (.communicator label)) := by
  cases label with
  | initializeWith expired ctx => exact sound.turn_initializeWith permitted stepped
  | received result => exact sound.turn_received stepped
  | rearm ctx => exact sound.turn_rearm stepped
  | handOver index => exact sound.turn_handOver stepped
  | _ => exact sound.turn_stays stepped rfl rfl (by simp)

end Turns

/-! ## Each step keeps the ledger -/

section Steps

variable {label : Reply.Label Message} {reply : Reply Message}
variable {moved : Contexts Message}

theorem Turn.receives (turn : Turn contexts label reply moved)
    (sound : Sound prep contexts) : Receives moved.recv reply.receiver := by
  cases turn with
  | stays _ receives => exact receives
  | opens _ _ _ armed =>
      rw [armed]
      rfl
  | releases _ _ handling =>
      rw [handling]
      rfl
  | sends _ sameReceiver =>
      rw [sameReceiver]
      exact sound.receives

theorem Turn.received (turn : Turn contexts label reply moved)
    (sound : Sound prep contexts) (ctx : QueryID) :
    moved.opened.count ctx = moved.recv.toList.count ctx +
      (contexts.exchange.received ++
        Exchange.arrival contexts.exchange.reply label).count ctx := by
  have before := sound.received ctx
  cases turn with
  | stays noArrival =>
      rw [noArrival, List.append_nil]
      exact before
  | opens noArrival _ unused =>
      rw [unused, Option.toList_none, List.count_nil] at before
      simp only [assignRecv, noArrival, List.append_nil, List.count_append, before,
        Option.toList_some]
      omega
  | releases arrives held =>
      rw [held, Option.toList_some] at before
      simp only [arrives, List.count_append, before, Option.toList_none, List.count_nil]
      omega
  | sends noArrival =>
      rw [noArrival, List.append_nil]
      exact before

theorem Turn.sent (turn : Turn contexts label reply moved)
    (sound : Sound prep contexts) (ctx : QueryID) :
    moved.closed.count ctx + moved.send.toList.count ctx =
      Exchange.answered reply.aioSend.sent ctx + moved.lifetime.swept.count ctx := by
  have before := sound.sent ctx
  cases turn with
  | stays _ _ sameSent =>
      rw [sameSent]
      exact before
  | opens _ _ unused _ sameSent =>
      simp only [assignRecv, unused, Option.toList_none, List.append_nil, sameSent]
      exact before
  | releases _ _ _ sameAio =>
      rw [sameAio]
      exact before
  | sends _ _ sends =>
      simp only [assignSend, sends, Exchange.answered_append, Exchange.answered_cons,
        Exchange.answered_nil, List.count_append, Option.toList_some,
        List.count_singleton, beq_iff_eq]
      omega

theorem Turn.sends_inFlight (turn : Turn contexts label reply moved)
    (sound : Sound prep contexts) {item : OutboxItem Message}
    (flying : item ∈ reply.aioSend.inFlight) : moved.send = some item.ctx := by
  cases turn with
  | stays _ _ _ subset => exact sound.sends item (subset flying)
  | opens _ _ _ _ _ subset => exact sound.sends item (subset flying)
  | releases _ _ _ sameAio =>
      rw [sameAio] at flying
      exact sound.sends item flying
  | sends _ _ _ inFlight =>
      rw [inFlight, List.mem_singleton] at flying
      rw [flying]
      rfl

/-- Contexts are opened one at a time, with an id that has no owner. -/
theorem Turn.opened_le (turn : Turn contexts label reply moved)
    (sound : Sound prep contexts)
    (opensNew : contexts.OpensNew (.proceed (.communicator label))) (ctx : QueryID) :
    moved.opened.count ctx + contexts.closed.count ctx + contexts.owners ctx ≤
      contexts.opened.count ctx + moved.closed.count ctx + 1 := by
  have once := sound.once ctx
  cases turn with
  | stays => omega
  | @opens new _ opens =>
      have unowned : contexts.owners new = 0 := opensNew new opens
      simp only [assignRecv, List.count_append, List.count_singleton, beq_iff_eq]
      split
      · next same =>
          rw [← same]
          omega
      · omega
  | releases =>
      simp only
      omega
  | sends =>
      simp only [assignSend, List.count_append]
      omega

theorem not_mem_unresponded_of_owners {ctx : QueryID}
    (unowned : contexts.owners ctx = 0) :
    ctx ∉ contexts.exchange.reply.unresponded := by
  intro outstanding
  rw [owners, if_pos outstanding] at unowned
  omega

theorem Sound.communicator (sound : Sound prep contexts)
    (opensNew : contexts.OpensNew (.proceed (.communicator label)))
    (permitted : contexts.permits (.communicator label) = true)
    {exchange : Exchange Message}
    (stepped : contexts.exchange.step prep (.communicator label) = some exchange) :
    Sound prep { contexts.move (.communicator label) with exchange := exchange } := by
  have fresh : contexts.exchange.OpensNew (.communicator label) :=
    fun ctx opens => not_mem_unresponded_of_owners (opensNew ctx opens)
  have accounted := sound.accounted.step fresh stepped
  obtain ⟨reply, steppedReply, rfl⟩ := Option.map_eq_some_iff.mp stepped
  have turn := sound.turn_of_step permitted steppedReply
  have booked : Booked prep { contexts.move (.communicator label) with
      exchange := ⟨reply, _, _⟩ } :=
    ⟨accounted, turn.receives sound, turn.received sound, turn.sent sound,
      fun item flying => turn.sends_inFlight sound flying⟩
  exact ⟨booked, fun ctx => booked.owners_le_one sound.toBooked (move_lifetime _)
    (turn.opened_le sound opensNew ctx)⟩

theorem Sound.expire (sound : Sound prep contexts) {exchange : Exchange Message}
    (stepped : contexts.exchange.step prep .expire = some exchange) :
    Sound prep { contexts with exchange := exchange } := by
  have opensNew : contexts.exchange.OpensNew .expire := trivial
  have accounted := sound.accounted.step opensNew stepped
  obtain ⟨⟨_, receives, received, sent, sends⟩, once⟩ := sound
  simp only [Exchange.step] at stepped
  split at stepped
  · obtain rfl := Option.some.inj stepped
    exact ⟨⟨accounted, receives, received, sent, sends⟩, once⟩
  · obtain rfl := Option.some.inj stepped
    exact ⟨⟨accounted, receives, received, sent, sends⟩, once⟩
  · contradiction

theorem Sound.proceed (sound : Sound prep contexts) {label : Exchange.Label Message}
    (opensNew : contexts.OpensNew (.proceed label))
    (stepped : contexts.proceed prep label = some next) :
    Sound prep next ∧ next.lifetime = contexts.lifetime := by
  simp only [Contexts.proceed] at stepped
  split at stepped
  · next permitted =>
      obtain ⟨exchange, steppedExchange, rfl⟩ := Option.map_eq_some_iff.mp stepped
      cases label with
      | communicator label =>
          exact ⟨sound.communicator opensNew permitted steppedExchange, move_lifetime _⟩
      | expire => exact ⟨sound.expire steppedExchange, rfl⟩
  · contradiction

theorem Sound.destroy (sound : Sound prep contexts) {order : List QueryID}
    (alive : contexts.lifetime = .alive)
    (stepped : contexts.destroy order = some next) :
    Sound prep next ∧ next.lifetime = .stopping order ∧ order.Nodup := by
  simp only [Contexts.destroy] at stepped
  split at stepped
  · next listed =>
      obtain rfl := Option.some.inj stepped
      refine ⟨⟨⟨sound.accounted, sound.receives, sound.received, ?_, sound.sends⟩,
        sound.once⟩, rfl, listed.1⟩
      intro ctx
      have before := sound.sent ctx
      simp only [alive, Lifetime.swept, List.count_nil] at before
      simp only [Lifetime.swept, List.count_append]
      omega
  · contradiction

/-- At the end only the numbers without a response are left without an owner that
closes them. -/
theorem Sound.finish (sound : Sound prep contexts) {order : List QueryID}
    (stopping : contexts.lifetime = .stopping order)
    (stepped : contexts.finish order = some next) :
    next.lifetime = .gone order ∧ ∀ ctx, next.closed.count ctx +
        (if ctx ∈ next.exchange.reply.unresponded then 1 else 0) =
      next.opened.count ctx + order.count ctx := by
  simp only [Contexts.finish] at stepped
  split at stepped
  · next atRest =>
      obtain rfl := Option.some.inj stepped
      refine ⟨rfl, fun ctx => ?_⟩
      have before := sound.ledger ctx
      simp only [stopped, Bool.and_eq_true, List.isEmpty_iff] at atRest
      obtain ⟨⟨⟨⟨claimed, active⟩, _⟩, _⟩, _⟩ := atRest
      simp only [stopping, Lifetime.swept, owners, claimed, active,
        List.reduceOption_nil, Exchange.answered_nil] at before
      simp only [Exchange.answered] at before
      simp only [List.count_append]
      omega
  · contradiction

end Steps

/-! ## The ledger over whole runs -/

/-- Until the members are destroyed the ledger is kept; then it has been settled up
to the queries that came and went during the destructor. -/
def Settles (prep : QueryID → Option Message → Option Message)
    (contexts : Contexts Message) : Prop :=
  match contexts.lifetime with
  | .alive => Sound prep contexts
  | .stopping order => Sound prep contexts ∧ order.Nodup
  | .gone order => order.Nodup ∧ ∀ ctx, contexts.closed.count ctx +
        (if ctx ∈ contexts.exchange.reply.unresponded then 1 else 0) =
      contexts.opened.count ctx + order.count ctx

theorem Settles.step {label : Label Message} (settles : Settles prep contexts)
    (opensNew : contexts.OpensNew label)
    (stepped : contexts.step prep label = some next) : Settles prep next := by
  cases lifetime : contexts.lifetime with
  | alive =>
      simp only [Settles, lifetime] at settles
      cases label with
      | proceed label =>
          simp only [Contexts.step, lifetime] at stepped
          obtain ⟨sound, same⟩ := settles.proceed opensNew stepped
          simpa only [Settles, same, lifetime] using sound
      | destroy order =>
          simp only [Contexts.step, lifetime] at stepped
          obtain ⟨sound, stopping, distinct⟩ := settles.destroy lifetime stepped
          simp only [Settles, stopping]
          exact ⟨sound, distinct⟩
      | finish => simp [Contexts.step, lifetime] at stepped
  | stopping order =>
      simp only [Settles, lifetime] at settles
      cases label with
      | proceed label =>
          simp only [Contexts.step, lifetime] at stepped
          obtain ⟨sound, same⟩ := settles.1.proceed opensNew stepped
          simp only [Settles, same, lifetime]
          exact ⟨sound, settles.2⟩
      | destroy order => simp [Contexts.step, lifetime] at stepped
      | finish =>
          simp only [Contexts.step, lifetime] at stepped
          obtain ⟨gone, settled⟩ := settles.1.finish lifetime stepped
          simp only [Settles, gone]
          exact ⟨settles.2, settled⟩
  | gone order => simp [Contexts.step, lifetime] at stepped

theorem settles_of_run {labels : List (Label Message)} {final : Contexts Message}
    (opensNew : Lib.Meets (step prep) OpensNew {} labels)
    (reached : Lib.run (step prep) {} labels = some final) : Settles prep final := by
  have start : Settles prep ({} : Contexts Message) := sound_empty
  exact Lib.invariant_of_run (Settles prep) start
    (fun _ _ _ settles opens stepped => settles.step opens stepped) opensNew reached

/-- What the contexts of a communicator come to. -/
structure Conserved (contexts : Contexts Message) : Prop where
  /-- Until the destructor every opened context is closed or has one owner. -/
  owned : contexts.lifetime = .alive → ∀ ctx,
    contexts.opened.count ctx = contexts.closed.count ctx + contexts.owners ctx ∧
      contexts.owners ctx ≤ 1
  /-- What is received on and what is sent on is not closed meanwhile. -/
  held : contexts.lifetime = .alive →
    (∀ ctx, contexts.exchange.reply.receiver = .armed ctx → contexts.recv = some ctx) ∧
      ∀ item ∈ contexts.exchange.reply.aioSend.inFlight,
        contexts.send = some item.ctx
  /-- After the destructor every context is closed once if and only if the numbers that
  have no response at the end are those that its loop closed. -/
  settled : ∀ order, contexts.lifetime = .gone order →
    ((∀ ctx, contexts.closed.count ctx = contexts.opened.count ctx) ↔
      contexts.exchange.reply.unresponded = order.toFinset)

/-- The books of a destroyed communicator are even if and only if the numbers that
are left are those that its loop went over. -/
theorem closed_eq_opened_iff {order : List QueryID} (distinct : order.Nodup)
    (settled : ∀ ctx, contexts.closed.count ctx +
        (if ctx ∈ contexts.exchange.reply.unresponded then 1 else 0) =
      contexts.opened.count ctx + order.count ctx) :
    (∀ ctx, contexts.closed.count ctx = contexts.opened.count ctx) ↔
      contexts.exchange.reply.unresponded = order.toFinset := by
  have left : ∀ ctx, contexts.closed.count ctx = contexts.opened.count ctx ↔
      (ctx ∈ contexts.exchange.reply.unresponded ↔ ctx ∈ order.toFinset) := by
    intro ctx
    have even := settled ctx
    rw [distinct.count] at even
    rw [List.mem_toFinset]
    split at even <;> split at even <;> simp_all
    all_goals omega
  rw [Finset.ext_iff]
  exact forall_congr' left

/-- In every run, whatever responders and callbacks do: before the destructor no context is
leaked, closed twice or closed under a running operation, and after it every context was
closed once exactly when those without a response are the ones that its loop closed. -/
theorem contexts_conserved (labels : List (Label Message)) (final : Contexts Message)
    (opensNew : Lib.Meets (step prep) OpensNew {} labels)
    (reached : Lib.run (step prep) {} labels = some final) : Conserved final := by
  have settles := settles_of_run opensNew reached
  constructor
  · intro alive ctx
    simp only [Settles, alive] at settles
    have ledger := settles.ledger ctx
    simp only [alive, Lifetime.swept, List.count_nil] at ledger
    exact ⟨ledger, settles.once ctx⟩
  · intro alive
    simp only [Settles, alive] at settles
    refine ⟨fun ctx armed => ?_, settles.sends⟩
    have receives := settles.receives
    rw [armed] at receives
    exact receives
  · intro order gone
    simp only [Settles, gone] at settles
    exact closed_eq_opened_iff settles.1 settles.2

/-- Two queries, of which the first is answered.  The destructor closes the context
of the other one. -/
def dismissal : List (Label String) :=
  [.ready true, .initializeWith false 1, .received .success, .handled (some "a"),
    .enqueue 0, .handOver 0, .rearm 2, .received .success, .handled none, .rearm 3,
    .complete .success, .sent, .handOver 0].map (fun label =>
      .proceed (.communicator label)) ++
    [.destroy [2], .proceed (.communicator (.received .canceled)), .finish]

/-- A query that arrives between the destructor's loop and the end of the
operations. -/
def intrusion : List (Label String) :=
  [.proceed (.communicator (.initializeWith false 1)), .destroy [],
    .proceed (.communicator (.received .success)),
    .proceed (.communicator (.handled none)), .proceed (.communicator (.rearm 2)),
    .proceed (.communicator (.received .canceled)), .finish]

/-- What a run leaves: the contexts opened and closed, the numbers without a response
and the end of the communicator. -/
def summary (contexts : Contexts Message) :
    List QueryID × List QueryID × Finset QueryID × Lifetime :=
  (contexts.opened, contexts.closed, contexts.exchange.reply.unresponded,
    contexts.lifetime)

theorem contexts_conserved_dismissal_intrusion :
    (∃ final, Lib.run (step fun _ msg => msg) {} dismissal = some final ∧
        final.summary = ([1, 2, 3], [2, 1, 3], {2}, .gone [2]) ∧
        ∀ ctx, final.closed.count ctx = final.opened.count ctx) ∧
      ∃ final, Lib.run (step fun _ msg => msg) {} intrusion = some final ∧
        final.summary = ([1, 2], [2], {1}, .gone []) ∧
        ¬∀ ctx, final.closed.count ctx = final.opened.count ctx := by
  constructor
  · have ends : (Lib.run (step fun _ msg => msg) {} dismissal).map summary =
        some ([1, 2, 3], [2, 1, 3], {2}, .gone [2]) := by
      decide
    obtain ⟨final, reached, equal⟩ := Option.map_eq_some_iff.mp ends
    have conserved := contexts_conserved dismissal final (by decide) reached
    refine ⟨final, reached, equal, ?_⟩
    simp only [summary, Prod.mk.injEq] at equal
    rw [conserved.settled [2] equal.2.2.2, equal.2.2.1]
    rfl
  · have ends : (Lib.run (step fun _ msg => msg) {} intrusion).map summary =
        some ([1, 2], [2], {1}, .gone []) := by
      decide
    obtain ⟨final, reached, equal⟩ := Option.map_eq_some_iff.mp ends
    have conserved := contexts_conserved intrusion final (by decide) reached
    refine ⟨final, reached, equal, ?_⟩
    simp only [summary, Prod.mk.injEq] at equal
    rw [conserved.settled [] equal.2.2.2, equal.2.2.1]
    decide

end Contexts

end Telling.Io
