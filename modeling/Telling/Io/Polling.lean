import Telling.Io.ReplyBox

/-!
# Polling a reply box

A service that polls calls `respond_all` with a functor from queries to responses:
`while (receive(req)) respond(fn(req))`.  The thread that polls makes one call of
`receive` or `respond` after the other, while queries arrive and responses are sent
between them.  A call of `respond` returns after its response has reached the outbox.

The functor is the user's.  It may keep state, its message may be empty, and it may throw,
so that each call of it comes to a result of its own.
-/

namespace Telling.Io

universe u v

/-- What a call of the functor comes to. -/
inductive Polling.Result (Message : Type u) where
  | returned (msg : Option Message)
  | threw

/-- What leaves `respond_all`: an exception of the box, or that of the functor. -/
inductive Polling.Thrown where
  | nng (error : NngError)
  | functor
  deriving DecidableEq, Repr

/-- Where the thread stands: outside `respond_all`, perhaps because of an exception, or
before one of the two calls in the loop. -/
inductive Polling.Point (Query : Type v) where
  | outside (thrown : Option Polling.Thrown)
  | asking
  | holding (query : ReplyBox.Pending Query)

structure Polling (Query : Type v) (Message : Type u) where
  box : ReplyBox Query Message
  point : Polling.Point Query := .outside none
  /-- The queries to which `respond` has returned normally, each with what the functor
  returned for it. -/
  given : List (ReplyBox.Pending Query × Option Message) := []

namespace Polling

variable {Query : Type v} {Message : Type u}

/-- The condition of the loop. -/
def receive (polling : Polling Query Message) : Option (Polling Query Message) :=
  match polling.point with
  | .asking =>
      match polling.box.receive with
      | .error error => some { polling with point := .outside (some (.nng error)) }
      | .ok (none, _) => (polling.box.step .receive).map fun box =>
          { polling with box := box, point := .outside none }
      | .ok (some query, _) => (polling.box.step .receive).map fun box =>
          { polling with box := box, point := .holding query }
  | _ => none

/-- The body of the loop: the functor is called for the query at hand. -/
def respond (polling : Polling Query Message) (result : Result Message) :
    Option (Polling Query Message) :=
  match polling.point, result with
  | .holding _, .threw => some { polling with point := .outside (some .functor) }
  | .holding query, .returned msg =>
      match polling.box.respond msg with
      | .error error => some { polling with point := .outside (some (.nng error)) }
      | .ok _ => (polling.box.step (.respond msg)).map fun box =>
          { box := box, point := .asking, given := polling.given ++ [(query, msg)] }
  | _, _ => none

inductive Label (Query : Type v) (Message : Type u) where
  | respondAll
  | receive
  | respond (result : Result Message)
  | other (label : ReplyBox.Label Query Message)

/-- The steps of the box that are not calls of its user. -/
def background : ReplyBox.Label Query Message → Bool
  | .communicator _ | .deliver _ | .rearm _ => true
  | .receive | .respond _ => false

/-- One step. -/
def step (polling : Polling Query Message) :
    Label Query Message → Option (Polling Query Message)
  | .respondAll =>
      match polling.point with
      | .outside _ => some { polling with point := .asking }
      | .asking | .holding _ => none
  | .receive => if polling.box.reply.claimed.isEmpty then polling.receive else none
  | .respond result =>
      if polling.box.reply.claimed.isEmpty then polling.respond result else none
  | .other label =>
      if background label then
        (polling.box.step label).map fun box => { polling with box := box }
      else none

/-- The responses that the functor's messages make. -/
def responses (given : List (ReplyBox.Pending Query × Option Message)) :
    List (OutboxItem Message) :=
  given.filterMap fun entry => entry.2.map fun msg => ⟨entry.1.id, msg⟩

/-- The queries for which the functor returned an empty message. -/
def forgotten (given : List (ReplyBox.Pending Query × Option Message)) : List QueryID :=
  (given.filter fun entry => entry.2.isNone).map fun entry => entry.1.id

/-! ## The invariant -/

structure Sound (polling : Polling Query Message) : Prop where
  box : ReplyBox.Sound (forgotten polling.given) polling.box
  single : polling.box.reply.claimed.length ≤ 1
  items : polling.box.reply.accepted ++ polling.box.reply.claimed = responses polling.given
  held : ∃ rest, polling.box.handedOut = polling.given.map Prod.fst ++ rest ∧
    rest.map ReplyBox.Pending.id = polling.box.current
  holds : ∀ query, polling.point = .holding query →
    polling.box.currentQuery = query.id ∧
      polling.box.handedOut = polling.given.map Prod.fst ++ [query]

variable {polling next : Polling Query Message} {box : ReplyBox Query Message}

theorem sound_initial {ctx : QueryID} (positive : ctx ≠ 0) :
    (⟨.initial ctx, .outside none, []⟩ : Polling Query Message).Sound where
  box := ReplyBox.sound_initial positive
  single := by simp [ReplyBox.initial, Reply.initializeWith, Except.toOption]
  items := by simp [ReplyBox.initial, Reply.initializeWith, Except.toOption, responses]
  held := ⟨[], rfl, rfl⟩
  holds := by simp

/-- Between two queries the functor has returned for every one that was handed out. -/
theorem Sound.handedOut_eq (sound : polling.Sound) (none : polling.box.currentQuery = 0) :
    polling.box.handedOut = polling.given.map Prod.fst := by
  obtain ⟨rest, handedOut, ids⟩ := sound.held
  rw [ReplyBox.current, if_pos none, List.map_eq_nil_iff] at ids
  rw [handedOut, ids, List.append_nil]

/-- A query at hand is the current one of the box. -/
theorem Sound.currentQuery_ne_zero (sound : polling.Sound)
    {query : ReplyBox.Pending Query} (holding : polling.point = .holding query) :
    polling.box.currentQuery ≠ 0 := by
  intro none
  have handedOut := (sound.holds query holding).2
  rw [sound.handedOut_eq none] at handedOut
  simp at handedOut

/-- A step in the background leaves what was handed out and answered. -/
theorem background_frame {label : ReplyBox.Label Query Message}
    {after : ReplyBox Query Message} (single : box.reply.claimed.length ≤ 1)
    (isBackground : background label = true) (stepped : box.step label = some after) :
    (after.reply.accepted ++ after.reply.claimed =
        box.reply.accepted ++ box.reply.claimed ∧
      after.reply.claimed.length ≤ box.reply.claimed.length) ∧
    after.handedOut = box.handedOut ∧ after.currentQuery = box.currentQuery := by
  cases label with
  | communicator label =>
      simp only [ReplyBox.step] at stepped
      split at stepped
      · next isInternal =>
          obtain ⟨reply, moved, rfl⟩ := Option.map_eq_some_iff.mp stepped
          exact ⟨Exchange.items_of_effect (Exchange.effect_of_step moved)
            (ReplyBox.call_of_internal isInternal) single, rfl, rfl⟩
      · contradiction
  | deliver query =>
      cases receiver : box.reply.receiver with
      | handling id =>
          simp only [ReplyBox.step, receiver, Reply.handled, Option.map_some,
            Option.some.injEq] at stepped
          rw [← stepped]
          exact ⟨⟨rfl, Nat.le_refl _⟩, rfl, rfl⟩
      | _ => simp [ReplyBox.step, receiver] at stepped
  | rearm ctx =>
      simp only [ReplyBox.step] at stepped
      split at stepped
      · obtain ⟨reply, rearmed, rfl⟩ := Option.map_eq_some_iff.mp stepped
        cases receiver : box.reply.receiver with
        | returning =>
            simp only [Reply.rearm, receiver, Option.some.injEq] at rearmed
            rw [← rearmed]
            exact ⟨⟨rfl, Nat.le_refl _⟩, rfl, rfl⟩
        | _ => simp [Reply.rearm, receiver] at rearmed
      · contradiction
  | receive | respond msg => contradiction

theorem Sound.other (sound : polling.Sound) {label : ReplyBox.Label Query Message}
    {after : ReplyBox Query Message} (isBackground : background label = true)
    (stepped : polling.box.step label = some after) :
    Sound { polling with box := after } := by
  obtain ⟨⟨items, fewer⟩, handedOut, current⟩ :=
    background_frame sound.single isBackground stepped
  have answers : polling.box.AnswersWithMessage label := by
    cases label with
    | respond msg => contradiction
    | _ => trivial
  have sameCurrent : after.current = polling.box.current := by
    rw [ReplyBox.current, ReplyBox.current, current]
  refine ⟨sound.box.step answers stepped, fewer.trans sound.single,
    items.trans sound.items, ?_, ?_⟩
  · rw [handedOut, sameCurrent]
    exact sound.held
  · intro query holding
    rw [handedOut, current]
    exact sound.holds query holding

/-! ## What the calls in the loop do -/

/-- The box after a query was handed out. -/
def handOut (box : ReplyBox Query Message) (query : ReplyBox.Pending Query)
    (rest : List (ReplyBox.Pending Query)) : ReplyBox Query Message :=
  { box with
    inbox := rest
    currentQuery := query.id
    handedOut := box.handedOut ++ [query] }

/-- `receive` hands out the query at the front of the inbox, or finds it empty. -/
theorem receive_step {front : Option (ReplyBox.Pending Query)}
    {after : ReplyBox Query Message} (received : box.receive = .ok (front, after)) :
    box.currentQuery = 0 ∧
      (front = none → box.inbox = [] ∧ box.step .receive = some box) ∧
      ∀ query, front = some query → ∃ rest, box.inbox = query :: rest ∧
        box.step .receive = some (handOut box query rest) := by
  have stepped : box.step .receive =
      some { after with handedOut := box.handedOut ++ front.toList } := by
    simp [ReplyBox.step, received]
  obtain ⟨none, cases⟩ := ReplyBox.receive_eq_ok received
  refine ⟨none, ?_, ?_⟩
  · intro empty
    have inbox : box.inbox = [] := by
      cases inbox : box.inbox with
      | nil => rfl
      | cons query rest =>
          rw [empty] at received
          simp only [ReplyBox.receive, inbox] at received
          repeat' split at received
          all_goals simp at received
    refine ⟨inbox, ?_⟩
    cases cases with
    | inl same =>
        rw [stepped, same.1, same.2]
        simp
    | inr taken =>
        obtain ⟨query, rest, some, _⟩ := taken
        rw [empty] at some
        contradiction
  · intro query some
    cases cases with
    | inl same =>
        rw [same.1] at some
        contradiction
    | inr taken =>
        obtain ⟨other, rest, someOther, inbox, equal⟩ := taken
        obtain rfl : query = other := Option.some.inj (some.symm.trans someOther)
        refine ⟨rest, inbox, ?_⟩
        rw [stepped, some, equal]
        rfl

theorem receive_eq_error {error : NngError} (thrown : box.receive = .error error) :
    (error = .closed ∧ box.reply.ready = false) ∨
      (error = .state ∧ box.currentQuery ≠ 0) := by
  simp only [ReplyBox.receive] at thrown
  split at thrown
  · next unready =>
      exact .inl ⟨(Except.error.inj thrown).symm, by simpa using unready⟩
  · split at thrown
    · next waiting => exact .inr ⟨(Except.error.inj thrown).symm, waiting⟩
    · split at thrown <;> contradiction

/-- Why an exception leaves `respond_all`: the communicator is not ready, a query is left
from an earlier call, or the functor has thrown. -/
inductive Causes (polling : Polling Query Message) : Label Query Message → Thrown → Prop where
  | closed {label : Label Query Message} : polling.box.reply.ready = false →
      Causes polling label (.nng .closed)
  | state : polling.box.currentQuery ≠ 0 → Causes polling .receive (.nng .state)
  | functor : Causes polling (.respond .threw) .functor

/-- What a call in the loop can do. -/
inductive Turned (polling : Polling Query Message) :
    Label Query Message → Polling Query Message → Prop where
  | returns : polling.box.currentQuery = 0 → polling.box.inbox = [] →
      Turned polling .receive { polling with point := .outside none }
  | receives {query : ReplyBox.Pending Query} {rest : List (ReplyBox.Pending Query)} :
      polling.box.currentQuery = 0 → polling.box.inbox = query :: rest →
      polling.box.step .receive = some (handOut polling.box query rest) →
      Turned polling .receive
        { polling with box := handOut polling.box query rest, point := .holding query }
  | responds {query : ReplyBox.Pending Query} (msg : Option Message) :
      polling.point = .holding query →
      Turned polling (.respond (.returned msg))
        { box := polling.box.settle msg
          point := .asking
          given := polling.given ++ [(query, msg)] }
  | throws {label : Label Query Message} {thrown : Thrown} : Causes polling label thrown →
      Turned polling label { polling with point := .outside (some thrown) }

theorem turned_of_receive (stepped : polling.receive = some next) :
    Turned polling .receive next := by
  unfold receive at stepped
  split at stepped
  · cases received : polling.box.receive with
    | error error =>
        simp only [received, Option.some.injEq] at stepped
        rw [← stepped]
        apply Turned.throws
        rcases receive_eq_error received with ⟨rfl, unready⟩ | ⟨rfl, waiting⟩
        · exact .closed unready
        · exact .state waiting
    | ok result =>
        obtain ⟨front, after⟩ := result
        obtain ⟨none, empty, taken⟩ := receive_step received
        cases front with
        | none =>
            obtain ⟨inbox, moved⟩ := empty rfl
            simp only [received, moved, Option.map_some, Option.some.injEq] at stepped
            rw [← stepped]
            exact .returns none inbox
        | some query =>
            obtain ⟨rest, inbox, moved⟩ := taken query rfl
            simp only [received, moved, Option.map_some, Option.some.injEq] at stepped
            rw [← stepped]
            exact .receives none inbox moved
  · contradiction

theorem Sound.turned_of_respond (sound : polling.Sound) {result : Result Message}
    (stepped : polling.respond result = some next) :
    Turned polling (.respond result) next := by
  cases holding : polling.point with
  | holding query =>
      cases result with
      | threw =>
          simp only [respond, holding, Option.some.injEq] at stepped
          rw [← stepped]
          exact .throws .functor
      | returned msg =>
          simp only [respond, holding] at stepped
          cases ready : polling.box.reply.ready with
          | false =>
              have closed : polling.box.respond msg = .error .closed := by
                simp [ReplyBox.respond, ready]
              simp only [closed, Option.some.injEq] at stepped
              rw [← stepped]
              exact .throws (.closed ready)
          | true =>
              obtain ⟨⟨after, returned⟩, moved⟩ := sound.box.step_respond ready
                (sound.currentQuery_ne_zero holding) msg
              simp only [returned, moved, Option.map_some, Option.some.injEq] at stepped
              rw [← stepped]
              exact .responds msg holding
  | _ => simp [respond, holding] at stepped

theorem Sound.receives (sound : polling.Sound) {query : ReplyBox.Pending Query}
    {rest : List (ReplyBox.Pending Query)} (none : polling.box.currentQuery = 0)
    (inbox : polling.box.inbox = query :: rest)
    (stepped : polling.box.step .receive = some (handOut polling.box query rest)) :
    Sound { polling with
      box := handOut polling.box query rest
      point := .holding query } := by
  have all := sound.handedOut_eq none
  have nonzero : query.id ≠ 0 :=
    sound.box.positive query.id (by simp [ReplyBox.pending, inbox])
  have answers : polling.box.AnswersWithMessage .receive := trivial
  refine ⟨sound.box.step answers stepped, sound.single, sound.items, ?_, ?_⟩
  · exact ⟨[query], congrArg (· ++ [query]) all, by simp [handOut, ReplyBox.current, nonzero]⟩
  · intro other holding
    obtain rfl : query = other := Point.holding.inj holding
    exact ⟨rfl, congrArg (· ++ [query]) all⟩

theorem Sound.responds (sound : polling.Sound) {query : ReplyBox.Pending Query}
    (free : polling.box.reply.claimed = []) (holding : polling.point = .holding query)
    (msg : Option Message) :
    Sound { box := polling.box.settle msg
            point := .asking
            given := polling.given ++ [(query, msg)] } := by
  obtain ⟨current, handedOut⟩ := sound.holds query holding
  have waiting := sound.currentQuery_ne_zero holding
  cases msg with
  | none =>
      have forgets : forgotten (polling.given ++ [(query, none)]) =
          forgotten polling.given ++ [polling.box.currentQuery] := by
        simp [forgotten, current]
      refine ⟨forgets ▸ sound.box.forget waiting, sound.single, ?_, ⟨[], ?_, ?_⟩, by simp⟩
      · simpa [responses, ReplyBox.settle, ReplyBox.forget] using sound.items
      · simpa [ReplyBox.settle, ReplyBox.forget] using handedOut
      · simp [ReplyBox.settle, ReplyBox.forget, ReplyBox.current]
  | some msg =>
      have remembers : forgotten (polling.given ++ [(query, some msg)]) =
          forgotten polling.given := by simp [forgotten]
      refine ⟨remembers ▸ sound.box.answer msg waiting, ?_, ?_, ⟨[], ?_, ?_⟩, by simp⟩
      · simp [ReplyBox.settle, ReplyBox.claim, free]
      · have items := sound.items
        rw [free, List.append_nil] at items
        simp [responses, ReplyBox.settle, ReplyBox.claim, free, items, current]
      · simpa [ReplyBox.settle, ReplyBox.claim] using handedOut
      · simp [ReplyBox.settle, ReplyBox.claim, ReplyBox.current]

theorem Sound.turned (sound : polling.Sound) (free : polling.box.reply.claimed = [])
    {label : Label Query Message} (turned : Turned polling label next) : next.Sound := by
  cases turned with
  | returns _ _ => exact ⟨sound.box, sound.single, sound.items, sound.held, by simp⟩
  | receives none inbox moved => exact sound.receives none inbox moved
  | responds msg holding => exact sound.responds free holding msg
  | throws _ => exact ⟨sound.box, sound.single, sound.items, sound.held, by simp⟩

/-- What a step can do: a call of `respond_all` begins, a call in its loop is made, or
something happens in the background. -/
theorem Sound.step_cases (sound : polling.Sound) {label : Label Query Message}
    (stepped : polling.step label = some next) :
    (∃ thrown, polling.point = .outside thrown ∧ next = { polling with point := .asking }) ∨
      polling.box.reply.claimed = [] ∧ Turned polling label next ∨
      ∃ background after, Polling.background background = true ∧
        polling.box.step background = some after ∧
        next = { polling with box := after } := by
  cases label with
  | respondAll =>
      simp only [step] at stepped
      split at stepped
      · next thrown outside =>
          exact .inl ⟨thrown, outside, (Option.some.inj stepped).symm⟩
      · contradiction
      · contradiction
  | receive =>
      simp only [step] at stepped
      split at stepped
      · next free =>
          exact .inr (.inl ⟨List.isEmpty_iff.mp free, turned_of_receive stepped⟩)
      · contradiction
  | respond result =>
      simp only [step] at stepped
      split at stepped
      · next free =>
          exact .inr (.inl ⟨List.isEmpty_iff.mp free, sound.turned_of_respond stepped⟩)
      · contradiction
  | other label =>
      simp only [step] at stepped
      split at stepped
      · next isBackground =>
          obtain ⟨after, moved, rfl⟩ := Option.map_eq_some_iff.mp stepped
          exact .inr (.inr ⟨label, after, isBackground, moved, rfl⟩)
      · contradiction

theorem Sound.step (sound : polling.Sound) {label : Label Query Message}
    (stepped : polling.step label = some next) : next.Sound := by
  rcases sound.step_cases stepped with
    ⟨_, _, rfl⟩ | ⟨free, turned⟩ | ⟨background, after, isBackground, moved, rfl⟩
  · exact ⟨sound.box, sound.single, sound.items, sound.held, by simp⟩
  · exact sound.turned free turned
  · exact sound.other isBackground moved

/-! ## A query left behind -/

/-- A query is left without a response, and the thread does not hold it any more. -/
structure Stuck (left polling : Polling Query Message) : Prop where
  sound : polling.Sound
  current : polling.box.currentQuery ≠ 0
  dropped : ∀ query, polling.point ≠ .holding query
  given : polling.given = left.given
  handedOut : polling.box.handedOut = left.box.handedOut

theorem Stuck.step {left : Polling Query Message} (stuck : Stuck left polling)
    {label : Label Query Message} (stepped : polling.step label = some next) :
    Stuck left next := by
  have sound := stuck.sound.step stepped
  rcases stuck.sound.step_cases stepped with
    ⟨_, _, rfl⟩ | ⟨_, turned⟩ | ⟨background, after, isBackground, moved, rfl⟩
  · exact ⟨sound, stuck.current, by simp, stuck.given, stuck.handedOut⟩
  · cases turned with
    | returns none _ => exact absurd none stuck.current
    | receives none _ _ => exact absurd none stuck.current
    | responds _ holding => exact absurd holding (stuck.dropped _)
    | throws _ => exact ⟨sound, stuck.current, by simp, stuck.given, stuck.handedOut⟩
  · obtain ⟨_, handedOut, current⟩ :=
      background_frame stuck.sound.single isBackground moved
    exact ⟨sound, current.trans_ne stuck.current, stuck.dropped, stuck.given,
      handedOut.trans stuck.handedOut⟩

/-! ## What polling does -/

/-- The queries are handed out in the order of their arrival, and the functor has returned
for each before the next one is handed out.  The outbox gets the messages that it returned,
on the contexts of their queries; a query for which it returned an empty message stays
without a response.  When `respond_all` returns, the functor has returned for every query
that has arrived.  When it throws, the functor has thrown, the communicator was not ready,
or an earlier exception has left a query behind; no query is handed out or answered after
that. -/
structure Serves (polling : Polling Query Message) : Prop where
  order : polling.box.handedOut ++ polling.box.inbox = polling.box.arrived
  single : polling.box.handedOut = polling.given.map Prod.fst ∨
    ∃ query, polling.box.handedOut = polling.given.map Prod.fst ++ [query] ∧
      polling.box.currentQuery = query.id
  items : polling.box.reply.accepted ++ polling.box.reply.claimed = responses polling.given
  dropped : ∀ query, (query, none) ∈ polling.given →
    query.id ∈ polling.box.reply.unresponded
  returns : ∀ next label, polling.point = .asking → polling.step label = some next →
    next.point = .outside none →
    next.box.inbox = [] ∧ next.box.arrived = next.given.map Prod.fst ∧
      next.box.reply.accepted = responses next.given
  throws : ∀ next label thrown, (∀ before, polling.point ≠ .outside before) →
    polling.step label = some next → next.point = .outside (some thrown) →
    Causes polling label thrown
  ends : ∀ thrown labels final, polling.point = .outside thrown →
    polling.box.currentQuery ≠ 0 → Lib.run step polling labels = some final →
    final.box.handedOut = polling.box.handedOut ∧ final.given = polling.given

theorem Sound.returns (sound : polling.Sound) {label : Label Query Message}
    (asking : polling.point = .asking) (stepped : polling.step label = some next)
    (outside : next.point = .outside none) :
    next.box.inbox = [] ∧ next.box.arrived = next.given.map Prod.fst ∧
      next.box.reply.accepted = responses next.given := by
  rcases sound.step_cases stepped with
    ⟨thrown, was, _⟩ | ⟨free, turned⟩ | ⟨_, _, _, _, rfl⟩
  · rw [asking] at was
    contradiction
  · cases turned with
    | returns none empty =>
        have order := sound.box.order
        have items := sound.items
        rw [empty, List.append_nil, sound.handedOut_eq none] at order
        rw [free, List.append_nil] at items
        exact ⟨empty, order.symm, items⟩
    | receives _ _ _ => contradiction
    | responds _ _ => contradiction
    | throws _ => cases Point.outside.inj outside
  · rw [asking] at outside
    contradiction

theorem Sound.throws (sound : polling.Sound) {label : Label Query Message} {thrown : Thrown}
    (inside : ∀ before, polling.point ≠ .outside before)
    (stepped : polling.step label = some next)
    (outside : next.point = .outside (some thrown)) : Causes polling label thrown := by
  rcases sound.step_cases stepped with
    ⟨before, was, _⟩ | ⟨_, turned⟩ | ⟨_, _, _, _, rfl⟩
  · exact absurd was (inside before)
  · cases turned with
    | returns _ _ => cases Point.outside.inj outside
    | receives _ _ _ => contradiction
    | responds _ _ => contradiction
    | throws causes =>
        obtain rfl := Option.some.inj (Point.outside.inj outside)
        exact causes
  · exact absurd outside (inside _)

/-- A query is answered, the next one is given an empty message, and the functor throws on
the third. -/
def interrupted : List (Label String String) :=
  [.other (.communicator (.ready true)), .other (.communicator (.received .success)),
    .other (.deliver "p"), .other (.rearm 2), .respondAll, .receive,
    .other (.communicator (.received .success)), .other (.deliver "q"),
    .other (.rearm 3), .respond (.returned (some "p!")),
    .other (.communicator (.enqueue 0)), .receive, .respond (.returned none), .receive,
    .other (.communicator (.received .success)), .other (.deliver "r"),
    .other (.rearm 4), .respondAll, .receive, .respond .threw, .respondAll, .receive]

end Polling

end Telling.Io
