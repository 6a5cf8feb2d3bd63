import Telling.Io.SendQueue
import Telling.Lib.Machine

/-!
# Closing and reopening a queued sender

`QueuedSend_` sends through a context with one aio and a `SendQueueMtx_`.  It can be
opened, closed and opened again.  `close` stops the aio and empties the queue, but the
busy flag of the queue is left as it is: after a close the object is as good as new
exactly when every message that it ever handed to a context was sent.
-/

namespace Telling.Io

open Lib

universe u v

namespace SendQueue

variable {Element : Type u}

def clear (queue : SendQueue Element) : SendQueue Element := { queue with deq := [] }

end SendQueue

/-- `QueuedSend_<CtxView>`. -/
structure QueuedSend (Ctx : Type u) (Message : Type v) where
  /-- The operations under way on the aio, if there is an aio. -/
  aio : Option (List Message) := none
  ctx : Option Ctx := none
  queue : SendQueue Message := {}
  deriving DecidableEq, Repr

namespace QueuedSend

variable {Ctx : Type u} {Message : Type v}

/-- The object after a call, and the messages that the call handed to a context. -/
abbrev Outcome (Ctx : Type u) (Message : Type v) :=
  QueuedSend Ctx Message × List (Ctx × Message)

/-- `aio.set_msg` followed by `ctx.send(aio)`. -/
def transmit (self : QueuedSend Ctx Message) (msg : Message) : Outcome Ctx Message :=
  ({ self with aio := self.aio.map (· ++ [msg]) }, self.ctx.toList.map (·, msg))

def send (self : QueuedSend Ctx Message) (msg : Message) :
    Except NngException (Outcome Ctx Message) :=
  match self.ctx with
  | none => .error ⟨.closed, "QueuedSend is not open."⟩
  | some _ =>
      match self.queue.produce msg with
      | (true, queue) => .ok ({ self with queue }, [])
      | (false, queue) => .ok ({ self with queue }.transmit msg)

/-- `_aioSent`, given the result of the aio. -/
def aioSent (self : QueuedSend Ctx Message) : NngError → Outcome Ctx Message
  | .success =>
      match self.queue.consume with
      | (some next, queue) => { self with queue }.transmit next
      | (none, queue) => ({ self with queue }, [])
  -- `canceled`, `timedout` and the default.
  | _ => (self, [])

/-- An operation ends with a result, and the callback runs. -/
def complete (self : QueuedSend Ctx Message) (result : NngError) :
    Option (Outcome Ctx Message) :=
  match self.aio with
  | some (_ :: rest) => some ({ self with aio := some rest }.aioSent result)
  | _ => none

/-- `aio.stop()` returns when the operation under way has ended with some result, as a
rule `canceled`, and the callback has returned.  The stopped aio does not carry out
what the callback hands over. -/
def stop (self : QueuedSend Ctx Message) (result : NngError) : Outcome Ctx Message :=
  match self.complete result with
  | none => (self, [])
  | some (after, handed) => ({ after with aio := some [] }, handed)

/-- `close`, with the result of an operation that is under way. -/
def close (self : QueuedSend Ctx Message) (result : NngError) : Outcome Ctx Message :=
  let (stopped, handed) := if self.aio.isSome then self.stop result else (self, [])
  ({ aio := none, ctx := none, queue := stopped.queue.clear }, handed)

/-- `open`, with the result of an operation that the close inside it stops. -/
def openOn (self : QueuedSend Ctx Message) (ctx : Ctx) (result : NngError) :
    Outcome Ctx Message :=
  let (closed, handed) := if self.aio.isSome then self.close result else (self, [])
  ({ closed with ctx := some ctx, aio := some [] }, handed)

/-- `QueuedSend_(ctx)`.  There is no operation to stop. -/
def constructed (ctx : Ctx) : QueuedSend Ctx Message := (openOn {} ctx .canceled).1

/-! ## What an open object does -/

/-- What happens to an object between opening and closing it. -/
inductive Use (Message : Type v) where
  | send (msg : Message)
  | complete (result : NngError)
  deriving DecidableEq, Repr

/-- One use.  A completion takes an operation that is under way. -/
def use (self : QueuedSend Ctx Message) : Use Message → Option (Outcome Ctx Message)
  | .send msg => some ((self.send msg).toOption.getD (self, []))
  | .complete result => self.complete result

/-- The messages handed over in a sequence of uses, in order. -/
def play : QueuedSend Ctx Message → List (Use Message) → Option (List (Ctx × Message))
  | _, [] => some []
  | self, step :: steps =>
      match self.use step with
      | none => none
      | some (next, handed) => (next.play steps).map (handed ++ ·)

/-! ## Histories -/

inductive Label (Ctx : Type u) (Message : Type v) where
  | openOn (ctx : Ctx) (result : NngError)
  | close (result : NngError)
  | use (step : Use Message)
  deriving DecidableEq, Repr

/-- The results that `close` brings about. -/
def stopped (self : QueuedSend Ctx Message) (result : NngError) : List NngError :=
  (self.aio.getD []).map fun _ => result

/-- The results with which operations ended in a use. -/
def Use.results : Use Message → List NngError
  | .send _ => []
  | .complete result => [result]

end QueuedSend

/-- An object with everything it handed to a context, and with the results of the
operations that have ended. -/
structure SendHistory (Ctx : Type u) (Message : Type v) where
  sender : QueuedSend Ctx Message := {}
  handed : List (Ctx × Message) := []
  results : List NngError := []
  deriving DecidableEq, Repr

namespace SendHistory

variable {Ctx : Type u} {Message : Type v}

open QueuedSend (Outcome Use Label)

def extend (history : SendHistory Ctx Message) (outcome : Outcome Ctx Message)
    (results : List NngError) : SendHistory Ctx Message :=
  ⟨outcome.1, history.handed ++ outcome.2, history.results ++ results⟩

def close (history : SendHistory Ctx Message) (result : NngError) :
    SendHistory Ctx Message :=
  history.extend (history.sender.close result) (history.sender.stopped result)

def step (history : SendHistory Ctx Message) :
    Label Ctx Message → Option (SendHistory Ctx Message)
  | .openOn ctx result => some
      (history.extend (history.sender.openOn ctx result) (history.sender.stopped result))
  | .close result => some (history.close result)
  | .use step => (history.sender.use step).map (history.extend · step.results)

/-- Every message that was handed over was sent. -/
def Delivered (history : SendHistory Ctx Message) : Prop :=
  history.results.count .success = history.handed.length

instance (history : SendHistory Ctx Message) : Decidable history.Delivered :=
  inferInstanceAs (Decidable (_ = _))

end SendHistory

/-! ## The account -/

namespace QueuedSend

variable {Ctx : Type u} {Message : Type v} {self : QueuedSend Ctx Message}

/-- There is an aio while there is a context, and an operation is under way only while
the flag is up. -/
structure Sound (sender : QueuedSend Ctx Message) : Prop where
  paired : sender.aio.isSome = sender.ctx.isSome
  single : (sender.aio.getD []).length ≤ sender.queue.busy.toNat

/-- What a call does: the flag makes up for the difference between the messages handed
over and the operations that succeeded. -/
structure Accounts (sender : QueuedSend Ctx Message) (outcome : Outcome Ctx Message)
    (results : List NngError) : Prop where
  sound : outcome.1.Sound
  account : sender.queue.busy.toNat + outcome.2.length =
    results.count .success + outcome.1.queue.busy.toNat

theorem Sound.accounts_nothing (sound : self.Sound) : self.Accounts (self, []) [] :=
  ⟨sound, by simp⟩

theorem Sound.exists_aio (sound : self.Sound) {ctx : Ctx} (opened : self.ctx = some ctx) :
    ∃ underWay, self.aio = some underWay := by
  have paired := sound.paired
  rw [opened] at paired
  exact Option.isSome_iff_exists.mp paired

theorem Sound.send (sound : self.Sound) (msg : Message) {outcome : Outcome Ctx Message}
    (returned : self.send msg = .ok outcome) : self.Accounts outcome [] := by
  obtain ⟨aio, ctx, deq, busy⟩ := self
  cases ctx with
  | none => simp [QueuedSend.send] at returned
  | some ctx =>
      obtain ⟨underWay, rfl⟩ := sound.exists_aio rfl
      have single := sound.single
      cases busy with
      | true =>
          simp only [QueuedSend.send, SendQueue.produce, if_true, Except.ok.injEq]
            at returned
          subst returned
          exact ⟨⟨rfl, single⟩, rfl⟩
      | false =>
          have idle : underWay = [] := by simpa using single
          simp only [QueuedSend.send, SendQueue.produce, Bool.false_eq_true, if_false,
            Except.ok.injEq] at returned
          subst returned idle
          exact ⟨⟨rfl, by simp [transmit]⟩, by simp [transmit]⟩

/-- The callback runs while the flag is up and no other operation is under way. -/
theorem accounts_aioSent (ctx : Ctx) (deq : List Message) (result : NngError) :
    Accounts (⟨some [], some ctx, ⟨deq, true⟩⟩ : QueuedSend Ctx Message)
      (aioSent ⟨some [], some ctx, ⟨deq, true⟩⟩ result) [result] := by
  cases result with
  | success =>
      cases deq with
      | nil => exact ⟨⟨rfl, by simp [aioSent, SendQueue.consume]⟩, by
          simp [aioSent, SendQueue.consume]⟩
      | cons next rest => exact ⟨⟨rfl, by simp [aioSent, SendQueue.consume, transmit]⟩, by
          simp [aioSent, SendQueue.consume, transmit]⟩
  | _ => exact ⟨⟨rfl, by simp [aioSent]⟩, by simp [aioSent]⟩

/-- An operation under way is the only one, and the flag is up. -/
theorem Sound.of_underWay (sound : self.Sound) {msg : Message} {rest : List Message}
    (underWay : self.aio = some (msg :: rest)) :
    rest = [] ∧ ∃ ctx deq, self.ctx = some ctx ∧ self.queue = ⟨deq, true⟩ := by
  obtain ⟨aio, ctx, deq, busy⟩ := self
  cases underWay
  have paired := sound.paired
  have single := sound.single
  obtain ⟨ctx, rfl⟩ := Option.isSome_iff_exists.mp paired.symm
  cases busy with
  | false => simp at single
  | true => exact ⟨by simpa using single, ctx, deq, rfl, rfl⟩

theorem Sound.complete (sound : self.Sound) {result : NngError}
    {outcome : Outcome Ctx Message} (completed : self.complete result = some outcome) :
    self.Accounts outcome [result] ∧ self.stopped result = [result] := by
  obtain ⟨_ | _ | ⟨msg, rest⟩, ctx, queue⟩ := self
  · simp [QueuedSend.complete] at completed
  · simp [QueuedSend.complete] at completed
  · obtain ⟨rfl, ctx, deq, rfl, rfl⟩ := sound.of_underWay rfl
    simp only [QueuedSend.complete, Option.some.injEq] at completed
    subst completed
    obtain ⟨after, account⟩ := accounts_aioSent ctx deq result
    exact ⟨⟨after, account⟩, rfl⟩

theorem stopped_of_idle {result : NngError} (idle : self.complete result = none) :
    self.stopped result = [] := by
  obtain ⟨_ | _ | ⟨msg, rest⟩, ctx, queue⟩ := self
  · rfl
  · rfl
  · simp [QueuedSend.complete] at idle

theorem accounts_close (sound : self.Sound) (result : NngError) :
    self.Accounts (self.close result) (self.stopped result) := by
  cases opened : self.aio.isSome with
  | false =>
      have closed : self.aio = none := by simpa using opened
      have idle : self.complete result = none := by simp [complete, closed]
      rw [stopped_of_idle idle]
      exact ⟨⟨rfl, by simp [close]⟩, by simp [close, opened, SendQueue.clear]⟩
  | true =>
      cases completed : self.complete result with
      | none =>
          rw [stopped_of_idle completed]
          exact ⟨⟨rfl, by simp [close]⟩, by
            simp [close, opened, stop, completed, SendQueue.clear]⟩
      | some outcome =>
          obtain ⟨⟨-, account⟩, results⟩ := sound.complete completed
          rw [results]
          refine ⟨⟨rfl, by simp [close]⟩, ?_⟩
          simpa [close, opened, stop, completed, SendQueue.clear] using account

theorem accounts_openOn (sound : self.Sound) (ctx : Ctx) (result : NngError) :
    self.Accounts (self.openOn ctx result) (self.stopped result) := by
  cases opened : self.aio.isSome with
  | false =>
      have closed : self.aio = none := by simpa using opened
      refine ⟨⟨rfl, by simp [openOn]⟩, ?_⟩
      simp [openOn, stopped, closed]
  | true =>
      have account := (accounts_close sound result).account
      exact ⟨⟨rfl, by simp [openOn]⟩, by simpa [openOn, opened] using account⟩

theorem accounts_use (sound : self.Sound) {step : Use Message}
    {outcome : Outcome Ctx Message} (used : self.use step = some outcome) :
    self.Accounts outcome step.results := by
  cases step with
  | send msg =>
      cases called : self.send msg with
      | error exception =>
          simp only [use, called, Except.toOption, Option.getD_none,
            Option.some.injEq] at used
          exact used ▸ sound.accounts_nothing
      | ok after =>
          simp only [use, called, Except.toOption, Option.getD_some,
            Option.some.injEq] at used
          exact used ▸ sound.send msg called
  | complete result => exact (sound.complete used).1

end QueuedSend

namespace SendHistory

variable {Ctx : Type u} {Message : Type v} {history : SendHistory Ctx Message}

open QueuedSend (Outcome Use Label Accounts constructed)

structure Balanced (history : SendHistory Ctx Message) : Prop where
  sound : history.sender.Sound
  account : history.handed.length =
    history.results.count .success + history.sender.queue.busy.toNat

theorem Balanced.extend (balanced : history.Balanced) {outcome : Outcome Ctx Message}
    {results : List NngError} (accounts : history.sender.Accounts outcome results) :
    (history.extend outcome results).Balanced := by
  refine ⟨accounts.sound, ?_⟩
  have before := balanced.account
  have change := accounts.account
  simp only [SendHistory.extend, List.length_append, List.count_append]
  omega

theorem Balanced.close (balanced : history.Balanced) (result : NngError) :
    (history.close result).Balanced :=
  balanced.extend (QueuedSend.accounts_close balanced.sound result)

theorem Balanced.step (balanced : history.Balanced) {label : Label Ctx Message}
    {next : SendHistory Ctx Message} (stepped : history.step label = some next) :
    next.Balanced := by
  cases label with
  | openOn ctx result =>
      cases stepped
      exact balanced.extend (QueuedSend.accounts_openOn balanced.sound ctx result)
  | close result =>
      cases stepped
      exact balanced.close result
  | use step =>
      obtain ⟨outcome, used, rfl⟩ := Option.map_eq_some_iff.mp stepped
      exact balanced.extend (QueuedSend.accounts_use balanced.sound used)

theorem balanced_of_run {labels : List (Label Ctx Message)}
    (reached : run step {} labels = some history) : history.Balanced :=
  invariant_of_run Balanced ⟨⟨rfl, by simp⟩, rfl⟩
    (fun _ _ _ balanced (_ : True) stepped => balanced.step stepped)
    (meets_true _ labels) reached

theorem Balanced.delivered_iff (balanced : history.Balanced) :
    history.Delivered ↔ history.sender.queue.busy = false := by
  have account := balanced.account
  rw [Delivered]
  cases busy : history.sender.queue.busy with
  | false => simp [account, busy]
  | true => simp [account, busy]

/-! ## Reopening -/

/-- What a reopened object is: it only remembers the flag. -/
theorem openOn_close (history : SendHistory Ctx Message) (result again : NngError)
    (ctx : Ctx) :
    ((history.close result).sender.openOn ctx again).1 =
      { constructed ctx with
        queue := ⟨[], (history.close result).sender.queue.busy⟩ } := rfl

/-- With the flag up, a message waits for an operation that nobody started. -/
theorem play_send_of_busy (ctx : Ctx) (msg : Message) :
    ({ constructed ctx with queue := ⟨[], true⟩ } : QueuedSend Ctx Message).play
      [.send msg] = some [] := rfl

theorem play_send_constructed (ctx : Ctx) (msg : Message) :
    (constructed ctx : QueuedSend Ctx Message).play [.send msg] = some [(ctx, msg)] := rfl

/-- After any history, an object that is closed and opened again hands over the same
messages as a new one, whatever is done with the two, exactly when every message
that it handed over before was sent. -/
theorem reopened_as_new_iff {labels : List (Label Ctx Message)}
    (reached : run step {} labels = some history) (result again : NngError)
    (ctx : Ctx) :
    (∀ uses, ((history.close result).sender.openOn ctx again).1.play uses =
        (constructed ctx).play uses) ↔
      (history.close result).Delivered := by
  have balanced := (balanced_of_run reached).close result
  rw [balanced.delivered_iff, openOn_close]
  constructor
  · intro same
    by_contra busy
    rw [Bool.not_eq_false] at busy
    have owed := balanced.account
    rw [busy] at owed
    obtain ⟨⟨_, msg⟩, _⟩ := List.exists_mem_of_length_pos
      (show 0 < (history.close result).handed.length by simp [owed])
    have differs := same [.send msg]
    rw [busy, play_send_of_busy, play_send_constructed] at differs
    simp at differs
  · intro free uses
    rw [free]
    rfl

/-- A sender whose only message was sent is as good as new on its next context. -/
theorem reopened_as_new_after_success :
    ∃ history : SendHistory Nat Nat,
      run step {} [.openOn 1 .canceled, .use (.send 10), .use (.complete .success)] =
        some history ∧ (history.close .canceled).Delivered ∧
      ∀ uses, ((history.close .canceled).sender.openOn 2 .canceled).1.play uses =
        (constructed 2).play uses := by
  have reached : run step ({} : SendHistory Nat Nat)
      [.openOn 1 .canceled, .use (.send 10), .use (.complete .success)] =
        some ⟨⟨some [], some 1, {}⟩, [(1, 10)], [.success]⟩ := by
    decide
  exact ⟨_, reached, by decide,
    (reopened_as_new_iff reached .canceled .canceled 2).mpr (by decide)⟩

/-- Closed with an operation under way, or after a send that failed, the object never
sends again. -/
theorem reopened_sends_nothing :
    ((run step ({} : SendHistory Nat Nat) [.openOn 1 .canceled, .use (.send 10),
        .close .canceled, .openOn 2 .canceled]).bind (·.sender.play [.send 20]) =
      some []) ∧
    ((run step ({} : SendHistory Nat Nat) [.openOn 1 .canceled, .use (.send 10),
        .use (.complete .timedout), .close .canceled, .openOn 2 .canceled]).bind
        (·.sender.play [.send 20]) = some []) ∧
    (constructed 2 : QueuedSend Nat Nat).play [.send 20] = some [(2, 20)] := by
  decide

end SendHistory

end Telling.Io
