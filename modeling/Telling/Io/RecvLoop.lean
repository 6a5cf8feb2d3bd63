import Mathlib.Data.List.Basic
import Telling.Io.Nng
import Telling.Lib.Machine

/-!
# The asynchronous receive loop

`AsyncRecvLoop` announces itself to its handler with `async_start` and takes leave
with `async_stop`.  The callback takes leave when an operation fails, and
`recv_stop`, which the destructor calls as well, does so in any case, after it has
made a pending operation fail.  The handler, which lives as long as the loop here,
is therefore told twice unless no operation is pending and none has failed.
-/

namespace Telling.Io

universe u

/-- The calls that a handler sees. -/
inductive RecvCall (Message : Type u) where
  | start
  | recv (msg : Option Message)
  | error (error : NngError)
  | stop (error : NngError)
  deriving DecidableEq, Repr

/-- The aio: unused, receiving, finished with its callback still to run, or in the
callback before the next operation is started. -/
inductive RecvAio (Message : Type u) where
  | idle
  | pending
  | landed (result : NngError) (msg : Option Message)
  | rearming
  deriving DecidableEq, Repr

/-- What the owner of the loop is doing; `gone` is after the destructor. -/
inductive RecvOwner where
  | free
  | stopping
  | destroying
  | gone
  deriving DecidableEq, Repr

/-- A received message or an error. -/
def RecvCall.isEvent {Message : Type u} : RecvCall Message → Bool
  | .recv _ | .error _ => true
  | .start | .stop _ => false

/-- `_aio.stop()` cancels a pending operation. -/
def RecvAio.canceled {Message : Type u} : RecvAio Message → RecvAio Message
  | .pending => .landed .canceled none
  | aio => aio

/-- `AsyncRecvLoop`, with the calls made so far. -/
structure RecvLoop (Message : Type u) where
  /-- `_handler.lock()` gives the handler. -/
  handler : Bool := false
  aio : RecvAio Message := .idle
  /-- `_aio.stop()` was called. -/
  stopped : Bool := false
  owner : RecvOwner := .free
  trace : List (RecvCall Message) := []
  deriving DecidableEq

namespace RecvLoop

variable {Message : Type u}

/-- `_ctx.recv(_aio)`: no operation starts on an aio that was stopped. -/
def recv (loop : RecvLoop Message) : RecvLoop Message :=
  { loop with aio := if loop.stopped then .idle else .pending }

/-- `recv_start`, which throws when there is a handler, when the new one has
expired, or when its `async_start` throws. -/
def recvStart (loop : RecvLoop Message) (expired startThrows : Bool) :
    RecvLoop Message :=
  if loop.handler then loop
  else if expired then loop
  else
    let started := { loop with handler := true, trace := loop.trace ++ [.start] }
    if startThrows then started else started.recv

/-- `AsyncRecv_Callback_Self`, up to the start of the next operation. -/
def callback (loop : RecvLoop Message) (result : NngError) (msg : Option Message) :
    RecvLoop Message :=
  if !loop.handler then { loop with aio := .idle }
  else
    match result with
    | .success => { loop with aio := .rearming, trace := loop.trace ++ [.recv msg] }
    | .timedout =>
        { loop with aio := .rearming, trace := loop.trace ++ [.error .timedout] }
    | error =>
        { loop with aio := .idle, trace := loop.trace ++ [.error error, .stop error] }

/-- `recv_stop` up to the call of `_aio.stop()`. -/
def stopAio (loop : RecvLoop Message) (owner : RecvOwner) : RecvLoop Message :=
  { loop with stopped := true, aio := loop.aio.canceled, owner := owner }

/-- The rest of `recv_stop`, once no callback is running. -/
def stopHandler (loop : RecvLoop Message) (owner : RecvOwner) : RecvLoop Message :=
  { loop with
    trace := if loop.handler then loop.trace ++ [.stop .success] else loop.trace
    owner := owner }

inductive Label (Message : Type u) where
  | recvStart (expired startThrows : Bool)
  | finish (result : NngError) (msg : Option Message)
  | callback
  | rearm
  | recvStop
  | destroy
  | stopped

/-- One step of the owner, of the transport or of the callback. -/
def step (loop : RecvLoop Message) : Label Message → Option (RecvLoop Message)
  | .recvStart expired startThrows =>
      match loop.owner with
      | .free => some (loop.recvStart expired startThrows)
      | _ => none
  | .finish result msg =>
      match loop.aio with
      | .pending => some { loop with aio := .landed result msg }
      | _ => none
  | .callback =>
      match loop.aio with
      | .landed result msg => some (loop.callback result msg)
      | _ => none
  | .rearm =>
      match loop.aio with
      | .rearming => some loop.recv
      | _ => none
  | .recvStop =>
      match loop.owner with
      | .free => some (loop.stopAio .stopping)
      | _ => none
  | .destroy =>
      match loop.owner with
      | .free => some (loop.stopAio .destroying)
      | _ => none
  | .stopped =>
      match loop.aio, loop.owner with
      | .idle, .stopping => some (loop.stopHandler .free)
      | .idle, .destroying => some (loop.stopHandler .gone)
      | _, _ => none

/-! ## The law of the trace -/

/-- `async_start`, then messages and errors, then `async_stop`. -/
def Closed (trace : List (RecvCall Message)) : Prop :=
  ∃ events error, trace = .start :: (events ++ [.stop error]) ∧
    ∀ call ∈ events, call.isEvent = true

/-- A trace that keeps to the law so far: nothing before `async_start`, no second
one, and nothing after `async_stop`. -/
def Lawful (trace : List (RecvCall Message)) : Prop :=
  trace = [] ∨ (∃ events, trace = .start :: events ∧
    ∀ call ∈ events, call.isEvent = true) ∨ Closed trace

/-- Where such a trace stands. -/
inductive Phase where
  | before
  | inside
  | after
  deriving DecidableEq, Repr

/-- The calls that the law admits. -/
def Phase.call : Phase → RecvCall Message → Option Phase
  | .before, .start => some .inside
  | .inside, .recv _ | .inside, .error _ => some .inside
  | .inside, .stop _ => some .after
  | _, _ => none

/-- The phase that a trace has reached, if it keeps to the law. -/
def phase (trace : List (RecvCall Message)) : Option Phase :=
  Lib.run Phase.call .before trace

section Law

variable {trace : List (RecvCall Message)}

theorem phase_append {reached : Phase} (before : phase trace = some reached)
    (calls : List (RecvCall Message)) :
    phase (trace ++ calls) = Lib.run Phase.call reached calls := by
  rw [phase, Lib.run_append, ← phase, before]
  rfl

theorem phase_append_none (unlawful : phase trace = none)
    (calls : List (RecvCall Message)) : phase (trace ++ calls) = none := by
  rw [phase, Lib.run_append, ← phase, unlawful]
  rfl

/-- The last call of a trace decides how its phase was reached. -/
theorem phase_concat {call : RecvCall Message} {reached : Phase} :
    phase (trace ++ [call]) = some reached ↔
      ∃ earlier, phase trace = some earlier ∧ earlier.call call = some reached :=
  Lib.run_concat_eq_some

theorem phase_before_iff : phase trace = some .before ↔ trace = [] := by
  refine ⟨fun reached => ?_, fun empty => empty ▸ rfl⟩
  rcases List.eq_nil_or_concat' trace with empty | ⟨trace, call, rfl⟩
  · exact empty
  · obtain ⟨earlier, _, called⟩ := phase_concat.mp reached
    cases earlier <;> cases call <;> simp [Phase.call] at called

theorem phase_inside_iff : phase trace = some .inside ↔
    ∃ events, trace = .start :: events ∧ ∀ call ∈ events, call.isEvent = true := by
  induction trace using List.reverseRecOn with
  | nil => simp [phase]
  | append_singleton trace call ih =>
      rw [phase_concat]
      constructor
      · rintro ⟨earlier, reached, called⟩
        cases earlier with
        | before =>
            obtain rfl := phase_before_iff.mp reached
            cases call <;> simp [Phase.call] at called
            exact ⟨[], rfl, by simp⟩
        | inside =>
            obtain ⟨events, rfl, areEvents⟩ := ih.mp reached
            refine ⟨events ++ [call], rfl, ?_⟩
            rw [List.forall_mem_append, List.forall_mem_singleton]
            refine ⟨areEvents, ?_⟩
            cases call <;> simp [Phase.call] at called <;> rfl
        | after => cases call <;> simp [Phase.call] at called
      · rintro ⟨events, split, areEvents⟩
        rcases List.eq_nil_or_concat' events with rfl | ⟨events, last, rfl⟩
        · obtain ⟨rfl, equal⟩ := List.append_inj' (split.trans (List.nil_append _).symm) rfl
          obtain rfl := List.singleton_inj.mp equal
          exact ⟨.before, rfl, rfl⟩
        · rw [← List.cons_append] at split
          obtain ⟨rfl, equal⟩ := List.append_inj' split rfl
          obtain rfl := List.singleton_inj.mp equal
          rw [List.forall_mem_append, List.forall_mem_singleton] at areEvents
          refine ⟨.inside, ih.mpr ⟨events, rfl, areEvents.1⟩, ?_⟩
          have isEvent := areEvents.2
          cases call <;> simp [RecvCall.isEvent] at isEvent <;> rfl

theorem closed_iff : Closed trace ↔ phase trace = some .after := by
  constructor
  · rintro ⟨events, error, rfl, areEvents⟩
    rw [← List.cons_append, phase_concat]
    exact ⟨.inside, phase_inside_iff.mpr ⟨events, rfl, areEvents⟩, rfl⟩
  · intro reached
    rcases List.eq_nil_or_concat' trace with rfl | ⟨trace, call, rfl⟩
    · simp [phase] at reached
    · obtain ⟨earlier, reached, called⟩ := phase_concat.mp reached
      cases earlier with
      | inside =>
          obtain ⟨events, rfl, areEvents⟩ := phase_inside_iff.mp reached
          cases call with
          | stop error => exact ⟨events, error, rfl, areEvents⟩
          | _ => simp [Phase.call] at called
      | _ => cases call <;> simp [Phase.call] at called

theorem lawful_iff : Lawful trace ↔ ∃ reached, phase trace = some reached := by
  rw [Lawful, ← phase_before_iff, ← phase_inside_iff, closed_iff]
  constructor
  · rintro (reached | reached | reached) <;> exact ⟨_, reached⟩
  · rintro ⟨before | inside | after, reached⟩
    · exact .inl reached
    · exact .inr (.inl reached)
    · exact .inr (.inr reached)

end Law

/-! ## Stopping -/

/-- No operation is pending, and none has failed whose callback is still to run. -/
def Quiet : RecvAio Message → Prop
  | .idle | .rearming => True
  | .landed result _ => result = .success ∨ result = .timedout
  | .pending => False

instance : (aio : RecvAio Message) → Decidable (Quiet aio)
  | .idle | .rearming => isTrue trivial
  | .landed _ _ => inferInstanceAs (Decidable (_ ∨ _))
  | .pending => isFalse id

/-- What the handler has seen keeps to the law, and at the end it is complete. -/
structure Brackets (loop : RecvLoop Message) : Prop where
  lawful : Lawful loop.trace
  closed : loop.owner = .gone → loop.handler = true → Closed loop.trace

/-- `recv_stop` and the destructor find a handler that was not told to stop, and
an aio that will not tell it. -/
def StopsQuietly (loop : RecvLoop Message) : Label Message → Prop
  | .recvStop | .destroy =>
      loop.handler = true → phase loop.trace = some .inside ∧ Quiet loop.aio
  | _ => True

instance (loop : RecvLoop Message) :
    (label : Label Message) → Decidable (loop.StopsQuietly label)
  | .recvStop | .destroy => inferInstanceAs (Decidable (_ → _))
  | .recvStart _ _ | .finish _ _ | .callback | .rearm | .stopped => isTrue trivial

/-- The owner is in `recv_stop` or in the destructor. -/
def Stopping (loop : RecvLoop Message) : Prop :=
  loop.owner = .stopping ∨ loop.owner = .destroying

structure Sound (loop : RecvLoop Message) : Prop where
  unused : loop.handler = false → loop.trace = [] ∧ loop.aio = .idle
  lawful : loop.handler = true → phase loop.trace = some .inside ∨
    phase loop.trace = some .after ∧ loop.aio = .idle
  stopped : loop.stopped = true → loop.aio ≠ .pending
  stopping : loop.Stopping → loop.stopped = true ∧
    (loop.handler = true → phase loop.trace = some .inside ∧ Quiet loop.aio)
  gone : loop.owner = .gone → loop.handler = true → phase loop.trace = some .after

theorem sound_initial : Sound ({} : RecvLoop Message) where
  unused := fun _ => ⟨rfl, rfl⟩
  lawful := by simp
  stopped := by simp
  stopping := by simp [Stopping]
  gone := by simp

variable {loop next : RecvLoop Message}

theorem Sound.brackets (sound : Sound loop) : loop.Brackets where
  lawful := by
    rw [lawful_iff]
    cases live : loop.handler with
    | false => exact ⟨.before, phase_before_iff.mpr (sound.unused live).1⟩
    | true =>
        rcases sound.lawful live with inside | ⟨after, _⟩
        · exact ⟨_, inside⟩
        · exact ⟨_, after⟩
  closed := fun gone live => closed_iff.mpr (sound.gone gone live)

/-- While the aio is in use, there is a handler and it was not told to stop. -/
theorem Sound.inside (sound : Sound loop) (busy : loop.aio ≠ .idle) :
    loop.handler = true ∧ phase loop.trace = some .inside ∧ loop.owner ≠ .gone := by
  have live : loop.handler = true := by
    by_contra dead
    exact busy (sound.unused (Bool.eq_false_iff.mpr dead)).2
  have inside : phase loop.trace = some .inside := by
    rcases sound.lawful live with inside | ⟨_, idle⟩
    · exact inside
    · exact absurd idle busy
  refine ⟨live, inside, fun gone => ?_⟩
  have after := sound.gone gone live
  rw [inside] at after
  contradiction

theorem Sound.recvStart (sound : Sound loop) (free : loop.owner = .free)
    (expired startThrows : Bool) : Sound (loop.recvStart expired startThrows) := by
  unfold RecvLoop.recvStart
  split
  · exact sound
  · split
    · exact sound
    · next dead _ =>
        obtain ⟨empty, idle⟩ := sound.unused (by simpa using dead)
        have inside : phase (loop.trace ++ [.start]) = some .inside := by
          rw [empty]
          rfl
        have notStopping : ¬loop.Stopping := by simp [Stopping, free]
        have notGone : loop.owner ≠ .gone := by simp [free]
        split
        · exact ⟨by simp, fun _ => .inl inside, sound.stopped,
            fun stopping => absurd stopping notStopping,
            fun gone => absurd gone notGone⟩
        · refine ⟨by simp [recv], fun _ => .inl inside, ?_,
            fun stopping => absurd stopping notStopping,
            fun gone => absurd gone notGone⟩
          intro stopped
          have stopped' : loop.stopped = true := stopped
          simp [recv, stopped']

theorem Sound.finish (sound : Sound loop) (pending : loop.aio = .pending)
    (result : NngError) (msg : Option Message) :
    Sound { loop with aio := .landed result msg } := by
  obtain ⟨live, inside, notGone⟩ := sound.inside (by simp [pending])
  refine ⟨by simp [live], fun _ => .inl inside, by simp, ?_,
    fun gone => absurd gone notGone⟩
  intro stopping
  exact absurd pending (sound.stopped (sound.stopping stopping).1)

/-- After a success or a timeout the callback goes on. -/
theorem callback_goes_on {result : NngError} (live : loop.handler = true)
    (goesOn : result = .success ∨ result = .timedout) (msg : Option Message) :
    ∃ event : RecvCall Message, event.isEvent = true ∧ loop.callback result msg =
      { loop with aio := .rearming, trace := loop.trace ++ [event] } := by
  rcases goesOn with rfl | rfl
  · exact ⟨.recv msg, rfl, by simp [callback, live]⟩
  · exact ⟨.error .timedout, rfl, by simp [callback, live]⟩

/-- After any other result it takes leave of the handler. -/
theorem callback_stops {result : NngError} (live : loop.handler = true)
    (fails : ¬(result = .success ∨ result = .timedout)) (msg : Option Message) :
    loop.callback result msg =
      { loop with
        aio := .idle
        trace := loop.trace ++ [.error result, .stop result] } := by
  rw [not_or] at fails
  simp only [callback, live, Bool.not_true, Bool.false_eq_true, if_false]
  cases result with
  | success => exact absurd rfl fails.1
  | timedout => exact absurd rfl fails.2
  | _ => rfl

theorem phase_event {trace : List (RecvCall Message)} {event : RecvCall Message}
    (inside : phase trace = some .inside) (isEvent : event.isEvent = true) :
    phase (trace ++ [event]) = some .inside := by
  rw [phase_append inside]
  cases event <;> first | rfl | simp [RecvCall.isEvent] at isEvent

theorem Sound.callback (sound : Sound loop) {result : NngError} {msg : Option Message}
    (landed : loop.aio = .landed result msg) : Sound (loop.callback result msg) := by
  obtain ⟨live, inside, notGone⟩ := sound.inside (by simp [landed])
  by_cases goesOn : result = .success ∨ result = .timedout
  · obtain ⟨event, isEvent, equal⟩ := callback_goes_on live goesOn msg
    have inside' := phase_event inside isEvent
    rw [equal]
    exact ⟨by simp [live], fun _ => .inl inside', by simp,
      fun stopping => ⟨(sound.stopping stopping).1, fun _ => ⟨inside', trivial⟩⟩,
      fun gone => absurd gone notGone⟩
  · have after : phase (loop.trace ++ [.error result, .stop result]) = some .after := by
      rw [phase_append inside]
      rfl
    rw [callback_stops live goesOn]
    refine ⟨by simp [live], fun _ => .inr ⟨after, rfl⟩, by simp, ?_,
      fun gone => absurd gone notGone⟩
    intro stopping
    have quiet := ((sound.stopping stopping).2 live).2
    rw [landed] at quiet
    exact absurd quiet goesOn

theorem Sound.rearm (sound : Sound loop) (rearming : loop.aio = .rearming) :
    Sound loop.recv := by
  obtain ⟨live, inside, notGone⟩ := sound.inside (by simp [rearming])
  refine ⟨by simp [recv, live], fun _ => .inl inside, ?_, ?_,
    fun gone => absurd gone notGone⟩
  · intro stopped
    have stopped' : loop.stopped = true := stopped
    simp [recv, stopped']
  · intro stopping
    have stopped := (sound.stopping stopping).1
    exact ⟨stopped, fun _ => ⟨inside, by simp [recv, stopped, Quiet]⟩⟩

theorem canceled_ne_pending (aio : RecvAio Message) : aio.canceled ≠ .pending := by
  cases aio <;> simp [RecvAio.canceled]

theorem canceled_of_quiet {aio : RecvAio Message} (quiet : Quiet aio) :
    aio.canceled = aio := by
  cases aio <;> first | rfl | exact absurd quiet id

theorem Sound.stopAio (sound : Sound loop) {owner : RecvOwner} (notGone : owner ≠ .gone)
    (quietly : loop.handler = true →
      phase loop.trace = some .inside ∧ Quiet loop.aio) :
    Sound (loop.stopAio owner) := by
  refine ⟨?_, ?_, fun _ => canceled_ne_pending _, ?_, fun gone => absurd gone notGone⟩
  · intro dead
    obtain ⟨empty, idle⟩ := sound.unused dead
    exact ⟨empty, by simp [RecvLoop.stopAio, idle, RecvAio.canceled]⟩
  · exact fun live => .inl (quietly live).1
  · refine fun _ => ⟨rfl, fun live => ⟨(quietly live).1, ?_⟩⟩
    have quiet := (quietly live).2
    simpa [RecvLoop.stopAio, canceled_of_quiet quiet] using quiet

theorem Sound.stopHandler (sound : Sound loop) (stopping : loop.Stopping)
    (idle : loop.aio = .idle) {owner : RecvOwner}
    (ends : owner = .free ∨ owner = .gone) : Sound (loop.stopHandler owner) := by
  have after : loop.handler = true →
      phase (loop.stopHandler owner).trace = some .after := by
    intro live
    simp only [RecvLoop.stopHandler, live, if_true]
    rw [phase_append ((sound.stopping stopping).2 live).1]
    rfl
  refine ⟨?_, fun live => .inr ⟨after live, idle⟩, sound.stopped, ?_,
    fun _ live => after live⟩
  · intro dead
    have dead' : loop.handler = false := dead
    obtain ⟨empty, _⟩ := sound.unused dead'
    exact ⟨by simp [RecvLoop.stopHandler, dead', empty], idle⟩
  · intro stopping'
    rcases ends with rfl | rfl <;> simp [Stopping, RecvLoop.stopHandler] at stopping'

/-- The steps, with their guards. -/
inductive Steps (loop : RecvLoop Message) : Label Message → RecvLoop Message → Prop where
  | recvStart {expired startThrows : Bool} : loop.owner = .free →
      Steps loop (.recvStart expired startThrows) (loop.recvStart expired startThrows)
  | finish {result : NngError} {msg : Option Message} : loop.aio = .pending →
      Steps loop (.finish result msg) { loop with aio := .landed result msg }
  | callback {result : NngError} {msg : Option Message} :
      loop.aio = .landed result msg → Steps loop .callback (loop.callback result msg)
  | rearm : loop.aio = .rearming → Steps loop .rearm loop.recv
  | recvStop : loop.owner = .free → Steps loop .recvStop (loop.stopAio .stopping)
  | destroy : loop.owner = .free → Steps loop .destroy (loop.stopAio .destroying)
  | stopped {owner : RecvOwner} : loop.Stopping → loop.aio = .idle →
      owner = .free ∨ owner = .gone → Steps loop .stopped (loop.stopHandler owner)

theorem steps_of_step {label : Label Message} (stepped : loop.step label = some next) :
    Steps loop label next := by
  cases label with
  | stopped =>
      simp only [RecvLoop.step] at stepped
      split at stepped
      · next idle stopping =>
          exact Option.some.inj stepped ▸ .stopped (.inl stopping) idle (.inl rfl)
      · next idle destroying =>
          exact Option.some.inj stepped ▸ .stopped (.inr destroying) idle (.inr rfl)
      · contradiction
  | _ =>
      simp only [RecvLoop.step] at stepped
      split at stepped
      · next guard =>
          obtain rfl := Option.some.inj stepped
          constructor
          exact guard
      · contradiction

theorem Sound.step (sound : Sound loop) {label : Label Message}
    (quietly : loop.StopsQuietly label) (stepped : loop.step label = some next) :
    Sound next := by
  cases steps_of_step stepped with
  | recvStart free => exact sound.recvStart free _ _
  | finish pending => exact sound.finish pending _ _
  | callback landed => exact sound.callback landed
  | rearm rearming => exact sound.rearm rearming
  | recvStop _ => exact sound.stopAio (by simp) quietly
  | destroy _ => exact sound.stopAio (by simp) quietly
  | stopped stopping idle ends => exact sound.stopHandler stopping idle ends

/-! ## Stopping twice -/

/-- The handler was told to stop twice, or it will be before `recv_stop` returns. -/
structure Doomed (loop : RecvLoop Message) : Prop where
  live : loop.handler = true
  twice : phase loop.trace = none ∨ loop.Stopping ∧
    (phase loop.trace = some .after ∧ loop.aio = .idle ∨
      phase loop.trace = some .inside ∧ ∃ result msg,
        loop.aio = .landed result msg ∧ ¬(result = .success ∨ result = .timedout))

theorem Sound.doomed (sound : Sound loop) (live : loop.handler = true)
    (loud : ¬(phase loop.trace = some .inside ∧ Quiet loop.aio)) {owner : RecvOwner}
    (stopping : owner = .stopping ∨ owner = .destroying) :
    Doomed (loop.stopAio owner) := by
  refine ⟨live, .inr ⟨stopping, ?_⟩⟩
  rcases sound.lawful live with inside | ⟨after, idle⟩
  · refine .inr ⟨inside, ?_⟩
    have notQuiet : ¬Quiet loop.aio := fun quiet => loud ⟨inside, quiet⟩
    cases aio : loop.aio with
    | idle => exact absurd (by simp [aio, Quiet]) notQuiet
    | rearming => exact absurd (by simp [aio, Quiet]) notQuiet
    | pending =>
        exact ⟨.canceled, none, by simp [RecvLoop.stopAio, aio, RecvAio.canceled], by simp⟩
    | landed result msg =>
        refine ⟨result, msg, by simp [RecvLoop.stopAio, aio, RecvAio.canceled], ?_⟩
        simpa [aio, Quiet] using notQuiet
  · exact .inl ⟨after, by simp [RecvLoop.stopAio, idle, RecvAio.canceled]⟩

theorem Sound.breach (sound : Sound loop) {label : Label Message}
    (loud : ¬loop.StopsQuietly label) (stepped : loop.step label = some next) :
    Doomed next := by
  cases steps_of_step stepped with
  | recvStop _ =>
      obtain ⟨live, loud⟩ := Classical.not_imp.mp loud
      exact sound.doomed live loud (.inl rfl)
  | destroy _ =>
      obtain ⟨live, loud⟩ := Classical.not_imp.mp loud
      exact sound.doomed live loud (.inr rfl)
  | _ => exact absurd trivial loud

/-- A trace that broke the law stays broken. -/
theorem unlawful_step {label : Label Message} (live : loop.handler = true)
    (unlawful : phase loop.trace = none) (steps : Steps loop label next) :
    Doomed next := by
  cases steps with
  | recvStart _ =>
      rw [RecvLoop.recvStart, if_pos live]
      exact ⟨live, .inl unlawful⟩
  | @callback result msg _ =>
      by_cases goesOn : result = .success ∨ result = .timedout
      · obtain ⟨event, _, equal⟩ := callback_goes_on live goesOn msg
        exact equal ▸ ⟨live, .inl (phase_append_none unlawful _)⟩
      · exact callback_stops live goesOn msg ▸
          ⟨live, .inl (phase_append_none unlawful _)⟩
  | stopped =>
      refine ⟨live, .inl ?_⟩
      simp only [RecvLoop.stopHandler, live, if_true]
      exact phase_append_none unlawful _
  | _ => exact ⟨live, .inl unlawful⟩

theorem Doomed.step (doomed : Doomed loop) {label : Label Message}
    (stepped : loop.step label = some next) : Doomed next := by
  have live := doomed.live
  have steps := steps_of_step stepped
  rcases doomed.twice with unlawful | ⟨stopping, ⟨after, idle⟩ |
      ⟨inside, result, msg, landed, fails⟩⟩
  · exact unlawful_step live unlawful steps
  · -- only the second `async_stop` is left to do
    cases steps with
    | stopped =>
        refine ⟨live, .inl ?_⟩
        simp only [RecvLoop.stopHandler, live, if_true]
        rw [phase_append after]
        rfl
    | recvStart free => simp [Stopping, free] at stopping
    | recvStop free => simp [Stopping, free] at stopping
    | destroy free => simp [Stopping, free] at stopping
    | finish pending => simp [idle] at pending
    | callback landed => simp [idle] at landed
    | rearm rearming => simp [idle] at rearming
  · -- the callback is to make the first one
    cases steps with
    | callback landed' =>
        obtain ⟨rfl, rfl⟩ := RecvAio.landed.inj (landed.symm.trans landed')
        rw [callback_stops live fails]
        refine ⟨live, .inr ⟨stopping, .inl ⟨?_, rfl⟩⟩⟩
        rw [phase_append inside]
        rfl
    | recvStart free => simp [Stopping, free] at stopping
    | recvStop free => simp [Stopping, free] at stopping
    | destroy free => simp [Stopping, free] at stopping
    | finish pending => simp [landed] at pending
    | rearm rearming => simp [landed] at rearming
    | stopped _ idle => simp [landed] at idle

/-- The trace that the handler sees is bracketed exactly when `recv_stop` and the
destructor are only called quietly.  For the converse no such call is in
progress at the end. -/
theorem brackets_iff_stopsQuietly (labels : List (Label Message))
    (final : RecvLoop Message) (reached : Lib.run step {} labels = some final) :
    (Lib.Meets step StopsQuietly {} labels → Lib.Along step Brackets {} labels) ∧
      (¬final.Stopping → Lib.Along step Brackets {} labels →
        Lib.Meets step StopsQuietly {} labels) := by
  refine ⟨Lib.along_of_meets Sound (fun _ sound => sound.brackets)
    (fun _ _ _ sound quietly stepped => sound.step quietly stepped) sound_initial, ?_⟩
  intro atRest
  refine Lib.meets_of_along Sound Doomed
    (fun _ _ _ sound quietly stepped => sound.step quietly stepped)
    (fun _ _ _ sound loud stepped => sound.breach loud stepped)
    (fun _ _ _ doomed stepped => doomed.step stepped) sound_initial reached ?_
  intro doomed brackets
  obtain ⟨phase', reached'⟩ := lawful_iff.mp brackets.lawful
  rcases doomed.twice with unlawful | ⟨stopping, _⟩
  · rw [unlawful] at reached'
    contradiction
  · exact atRest stopping

/-- A message; the destructor is called while its callback is running. -/
def oneMessage : List (Label String) :=
  [.recvStart false false, .finish .success (some "a"), .destroy, .callback, .rearm,
    .stopped]

theorem brackets_oneMessage :
    (Lib.run step {} oneMessage).map (fun final => (final.owner, final.trace)) =
        some (.gone, [.start, .recv (some "a"), .stop .success]) ∧
      Lib.Along step Brackets {} oneMessage := by
  have summary : (Lib.run step {} oneMessage).map
      (fun final => (final.owner, final.trace)) =
        some (.gone, [.start, .recv (some "a"), .stop .success]) := by
    decide
  obtain ⟨final, reached, _⟩ := Option.map_eq_some_iff.mp summary
  exact ⟨summary, (brackets_iff_stopsQuietly oneMessage final reached).1 (by decide)⟩

/-- A loop that is destroyed while it waits for a message tells its handler to stop
twice. -/
theorem stopped_twice :
    ∃ final : RecvLoop String,
      Lib.run step {} [.recvStart false false, .destroy, .callback, .stopped] =
        some final ∧
      final.owner = .gone ∧
      final.trace = [.start, .error .canceled, .stop .canceled, .stop .success] ∧
      ¬final.Brackets := by
  refine ⟨_, rfl, rfl, rfl, fun brackets => ?_⟩
  obtain ⟨reached, equal⟩ := lawful_iff.mp brackets.lawful
  exact Option.some_ne_none reached (equal.symm.trans rfl)

end RecvLoop

end Telling.Io
