import Telling.Io.Depository
import Telling.Lib.Monitor

/-!
# The expiry thread of the depository

`run_expire_thread` waits until the earliest entry of the queue expires, or without a
deadline when the queue is empty.  `deposit` decides whether to wake it with the same
`operator<` that orders the queue, in which the entry that expires *later* is the lesser
one.  A deposit that expires before the deadline of the thread therefore does not wake
it, and the thread oversleeps.

The clock is part of the data and moves before each reading of it.  That a wait ends at
its deadline is a wake-up like any other.
-/

namespace Telling.Io

open Lib

/-- `Expiration::operator<`. -/
def Expiration.less (left right : Expiration) : Bool := decide (left.expire > right.expire)

namespace Depository

/-- No entry has a greater priority. -/
def isTop (queue : List Expiration) (entry : Expiration) : Bool :=
  queue.all fun other => !entry.less other

/-- `expireQueue.top()`, if there is one. -/
def top? (queue : List Expiration) : Option Expiration := queue.find? (isTop queue)

theorem isTop_iff {queue : List Expiration} {entry : Expiration} :
    isTop queue entry = true ↔ ∀ other ∈ queue, entry.expire ≤ other.expire := by
  simp [isTop, Expiration.less]

/-- The top of the queue expires first. -/
theorem top?_spec {queue : List Expiration} {top : Expiration}
    (found : top? queue = some top) :
    top ∈ queue ∧ ∀ other ∈ queue, top.expire ≤ other.expire :=
  ⟨List.mem_of_find?_eq_some found, isTop_iff.mp (List.find?_some found)⟩

theorem exists_earliest {queue : List Expiration} (nonempty : queue ≠ []) :
    ∃ entry ∈ queue, ∀ other ∈ queue, entry.expire ≤ other.expire := by
  induction queue with
  | nil => contradiction
  | cons entry queue ih =>
      cases queue with
      | nil => exact ⟨entry, by simp, by simp⟩
      | cons second queue =>
          obtain ⟨earliest, member, least⟩ := ih (by simp)
          rcases Int.le_total entry.expire earliest.expire with first | later
          · refine ⟨entry, by simp, List.forall_mem_cons.mpr ⟨Int.le_refl _, ?_⟩⟩
            exact fun other among => Int.le_trans first (least other among)
          · exact ⟨earliest, List.mem_cons_of_mem _ member,
              List.forall_mem_cons.mpr ⟨later, least⟩⟩

theorem top?_eq_none_iff {queue : List Expiration} : top? queue = none ↔ queue = [] := by
  constructor
  · intro missing
    by_contra nonempty
    obtain ⟨entry, member, least⟩ := exists_earliest nonempty
    exact List.find?_eq_none.mp missing entry member (isTop_iff.mpr least)
  · rintro rfl
    rfl

/-- What decides whether `deposit` notifies. -/
def wakeExpiration (queue : List Expiration) (expiration : Expiration) : Bool :=
  match top? queue with
  | none => true
  | some top => expiration.less top

end Depository

/-- What the mutex of `Depository` protects, the clock, and the deadline with which the
thread last began to wait: none for a wait without a deadline. -/
structure Expiry (α : Type) where
  depository : Depository α
  now : Int
  deadline : Option Int

namespace Expiry

variable {α : Type}

def pass (data : Expiry α) (elapsed : Nat) : Expiry α :=
  { data with now := data.now + elapsed }

/-! ## The thread -/

/-- `run_expire_thread` has one loop. -/
inductive Point where
  | looping
  deriving DecidableEq, Repr

/-- The time that passes before the thread reads the clock, and which entry is the top
among those that expire first. -/
structure Turn where
  elapsed : Nat
  index : Nat
  deriving DecidableEq, Repr

/-- One turn of the loop.  A choice of an entry that is not a top is no turn. -/
def turn (choice : Turn) (data : Expiry α) : Expiry α × Next Point :=
  match Depository.top? data.depository.expireQueue with
  | none => ({ data with deadline := none }, .wait)
  | some top =>
      let data := data.pass choice.elapsed
      if top.expire < data.now then
        match data.depository.expire choice.index data.now with
        | none => (data, .goto .looping)
        | some (depository, _) => ({ data with depository }, .goto .looping)
      else ({ data with deadline := some top.expire }, .wait)

/-- `run_expire_thread`, while the depository lives. -/
def thread : Program (Expiry α) Point Turn where
  start := .looping
  resume := .looping
  act _ choice data := some (turn choice data)

/-! ## The other threads -/

inductive Request (α : Type) where
  | deposit (object : Option α) (duration : Int) (elapsed : Nat)
  | claim (number : ClaimNumber)

def change (edit : Depository α → Depository α) : Statement (Expiry α) :=
  .update fun data => { data with depository := edit data.depository }

/-- The section of `deposit`.  A deposit without a duration returns before it locks
the mutex. -/
def depositSection (data : Expiry α) (object : Option α) (duration : Int)
    (elapsed : Nat) : List (Statement (Expiry α)) :=
  if duration ≤ 0 then []
  else
    let now := data.now + elapsed
    let claimNumber :=
      Depository.generate data.depository.lockers data.depository.claimNumberGen
    let wakeExpiration :=
      Depository.wakeExpiration data.depository.expireQueue ⟨claimNumber, now + duration⟩
    [.update fun data => data.pass elapsed,
      change fun depository => (depository.deposit object duration now).depository] ++
      if wakeExpiration then [.notify] else []

def sections : Sections (Request α) (Expiry α)
  | .deposit object duration elapsed, data =>
      some (depositSection data object duration elapsed)
  | .claim number, _ => some [change fun depository => (depository.claim number).1]

abbrev Label (α : Type) := Monitor.Label (Request α) Turn

abbrev step : Monitor (Expiry α) Point → Label α → Option (Monitor (Expiry α) Point) :=
  Monitor.step thread sections

/-- A new depository, whose thread has not locked the mutex. -/
def created (now : Int) : Monitor (Expiry α) Point :=
  ⟨⟨Depository.initial, now, none⟩, .entering⟩

/-! ## Sleeping -/

/-- The queue is empty, or the deadline is no later than the earliest expiry. -/
def Calm (data : Expiry α) : Prop :=
  data.depository.expireQueue = [] ∨
    ∃ deadline, data.deadline = some deadline ∧
      ∀ entry ∈ data.depository.expireQueue, deadline ≤ entry.expire

/-- A thread that is blocked and was not woken does not sleep too long. -/
def NeverOversleeps (monitor : Monitor (Expiry α) Point) : Prop :=
  monitor.consumer = .blocked → Calm monitor.data

/-- A deposit does not expire before the deadline with which the thread waits. -/
def NotEarlier (data : Expiry α) : Request α → Prop
  | .deposit _ duration elapsed =>
      duration ≤ 0 ∨ data.depository.expireQueue = [] ∨
        ∀ deadline, data.deadline = some deadline →
          deadline ≤ data.now + elapsed + duration
  | .claim _ => True

instance NotEarlier.decidable (data : Expiry α) :
    (request : Request α) → Decidable (NotEarlier data request)
  | .deposit _ duration elapsed =>
      inferInstanceAs (Decidable (duration ≤ 0 ∨ data.depository.expireQueue = [] ∨
        ∀ deadline ∈ data.deadline, deadline ≤ data.now + elapsed + duration))
  | .claim _ => isTrue trivial

theorem calm_of_wait {choice : Turn} {data : Expiry α}
    (waits : (turn choice data).2 = .wait) : Calm (turn choice data).1 := by
  unfold turn at waits ⊢
  cases found : Depository.top? data.depository.expireQueue with
  | none => exact Or.inl (Depository.top?_eq_none_iff.mp found)
  | some top =>
      simp only [found] at waits ⊢
      split at waits
      · cases expired : (data.pass choice.elapsed).depository.expire choice.index
          (data.pass choice.elapsed).now <;> simp [expired] at waits
      · next later =>
          rw [if_neg later]
          exact Or.inr ⟨top.expire, rfl, (Depository.top?_spec found).2⟩

theorem watchful :
    Monitor.Watchful (thread : Program (Expiry α) Point Turn) Calm fun _ _ => True where
  start _ := trivial
  resume _ := trivial
  goes _ _ _ _ _ _ _ := trivial
  waits _ choice data next _ acted := by
    have waits := Option.some.inj acted
    have onward : (turn choice data).2 = .wait := by rw [waits]
    have calm := calm_of_wait onward
    rwa [waits] at calm

theorem claim_expireQueue (depository : Depository α) (number : ClaimNumber) :
    (depository.claim number).1.expireQueue = depository.expireQueue := by
  unfold Depository.claim
  cases depository.lockers number <;> rfl

theorem heeds_claim {data : Expiry α} (calm : Calm data) (number : ClaimNumber) :
    Monitor.Heeds sections Calm data (.claim number) := by
  rintro _ ⟨⟩
  refine .inl ?_
  rw [Calm]
  exact (claim_expireQueue data.depository number).symm ▸ calm

section Deposit

variable (data : Expiry α) (object : Option α) {duration : Int} (elapsed : Nat)

/-- What a deposit with a duration leaves. -/
theorem updated_deposit (positive : ¬duration ≤ 0) :
    let after := Monitor.updated data (depositSection data object duration elapsed)
    after.deadline = data.deadline ∧
      ∃ number, after.depository.expireQueue =
        data.depository.expireQueue ++ [⟨number, data.now + elapsed + duration⟩] := by
  have silent : ∀ after : Expiry α, ∀ wakes : Bool,
      Monitor.updated after (if wakes then [.notify] else []) = after := by
    intro after wakes
    cases wakes <;> rfl
  simp only [depositSection, if_neg positive, Monitor.updated_append, silent]
  refine ⟨rfl, Depository.generate data.depository.lockers data.depository.claimNumberGen,
    ?_⟩
  simp [Monitor.updated, change, pass, Depository.deposit, positive]

theorem notifies_deposit (positive : ¬duration ≤ 0) :
    (depositSection data object duration elapsed).any Statement.isNotify =
      Depository.wakeExpiration data.depository.expireQueue
        ⟨Depository.generate data.depository.lockers data.depository.claimNumberGen,
          data.now + elapsed + duration⟩ := by
  simp only [depositSection, if_neg positive]
  split
  · next wakes => simp [Statement.isNotify, change, wakes]
  · next silent => simpa [Statement.isNotify, change] using silent

/-- A deposit into a queue with entries is heeded exactly when it does not expire before
the deadline: `operator<` wakes the thread for later entries only. -/
theorem heeds_deposit_iff {deadline : Int} {top : Expiration} (positive : ¬duration ≤ 0)
    (found : Depository.top? data.depository.expireQueue = some top)
    (waiting : data.deadline = some deadline)
    (least : ∀ entry ∈ data.depository.expireQueue, deadline ≤ entry.expire) :
    Monitor.Heeds sections Calm data (.deposit object duration elapsed) ↔
      deadline ≤ data.now + elapsed + duration := by
  obtain ⟨kept, number, queue⟩ := updated_deposit data object elapsed positive
  have belowTop := least top (Depository.top?_spec found).1
  simp only [Monitor.Heeds, sections, Option.some.injEq, forall_eq',
    notifies_deposit data object elapsed positive, Calm, kept, queue,
    Depository.wakeExpiration, found, Expiration.less, waiting]
  constructor
  · rintro ((empty | ⟨other, same, below⟩) | later)
    · simp at empty
    · cases same
      exact below ⟨number, _⟩ (by simp)
    · have := of_decide_eq_true later
      omega
  · intro notEarlier
    refine Or.inl (Or.inr ⟨deadline, rfl, fun entry member => ?_⟩)
    rcases List.mem_append.mp member with earlier | new
    · exact least entry earlier
    · rw [List.mem_singleton.mp new]
      exact notEarlier

end Deposit

theorem notEarlier_iff_heeds (request : Request α) (data : Expiry α) (calm : Calm data) :
    NotEarlier data request ↔ Monitor.Heeds sections Calm data request := by
  cases request with
  | claim number => exact iff_of_true trivial (heeds_claim calm number)
  | deposit object duration elapsed =>
      by_cases positive : duration ≤ 0
      · refine iff_of_true (Or.inl positive) ?_
        rintro _ ⟨⟩
        exact Or.inl (by simpa [depositSection, positive, Monitor.updated] using calm)
      cases found : Depository.top? data.depository.expireQueue with
      | none =>
          have empty := Depository.top?_eq_none_iff.mp found
          refine iff_of_true (Or.inr (Or.inl empty)) ?_
          rintro _ ⟨⟩
          refine Or.inr ?_
          simp [notifies_deposit data object elapsed positive, Depository.wakeExpiration,
            found]
      | some top =>
          have occupied : data.depository.expireQueue ≠ [] := fun empty => by
            simp [Depository.top?_eq_none_iff.mpr empty] at found
          obtain ⟨deadline, waiting, least⟩ := calm.resolve_left occupied
          rw [heeds_deposit_iff data object elapsed positive found waiting least]
          simp [NotEarlier, positive, occupied, waiting]

/-- In every interleaving of deposits and claims with the thread, the thread never
oversleeps exactly when no deposit that is made while it waits expires before the
deadline with which it waits. -/
theorem never_oversleeps_iff {now : Int} {labels : List (Label α)}
    {final : Monitor (Expiry α) Point}
    (reached : run step (created now) labels = some final) :
    Along step NeverOversleeps (created now) labels ↔
      Meets step (Monitor.WhileBlocked NotEarlier) (created now) labels :=
  watchful.calm_iff_heeded notEarlier_iff_heeds reached

/-- The queue is empty at first; the second deposit is to expire later than the one the
thread waits for. -/
theorem never_oversleeps_later_deposit :
    ∃ final : Monitor (Expiry Unit) Point,
      run step (created 0) [.acquire, .act ⟨0, 0⟩, .produce (.deposit (some ()) 30 0),
        .acquire, .act ⟨1, 0⟩, .produce (.deposit (some ()) 365 2)] = some final ∧
      Along step NeverOversleeps (created 0) [.acquire, .act ⟨0, 0⟩,
        .produce (.deposit (some ()) 30 0), .acquire, .act ⟨1, 0⟩,
        .produce (.deposit (some ()) 365 2)] := by
  obtain ⟨final, reached⟩ : ∃ final : Monitor (Expiry Unit) Point,
      run step (created 0) [.acquire, .act ⟨0, 0⟩, .produce (.deposit (some ()) 30 0),
        .acquire, .act ⟨1, 0⟩, .produce (.deposit (some ()) 365 2)] = some final :=
    Option.isSome_iff_exists.mp (by decide +kernel)
  exact ⟨final, reached, (never_oversleeps_iff reached).mpr (by decide +kernel)⟩

/-- The thread waits for the end of the year; a deposit that is to expire tomorrow does
not wake it. -/
theorem oversleeps_earlier_deposit :
    ∃ final : Monitor (Expiry Unit) Point,
      run step (created 0) [.acquire, .act ⟨0, 0⟩, .produce (.deposit (some ()) 365 0),
        .acquire, .act ⟨0, 0⟩, .produce (.deposit (some ()) 1 0)] = some final ∧
      final.consumer = .blocked ∧ final.data.deadline = some 365 ∧
      final.data.depository.expireQueue.map (·.expire) = [365, 1] ∧
      ¬NeverOversleeps final := by
  have seen : (run step (created 0) [.acquire, .act ⟨0, 0⟩,
      .produce (.deposit (some ()) 365 0), .acquire, .act ⟨0, 0⟩,
      .produce (.deposit (some ()) 1 0)]).map (fun final =>
        (final.consumer, final.data.deadline,
          final.data.depository.expireQueue.map (·.expire))) =
      some (.blocked, some 365, [365, 1]) := by
    decide +kernel
  obtain ⟨final, reached, summary⟩ := Option.map_eq_some_iff.mp seen
  simp only [Prod.mk.injEq] at summary
  obtain ⟨blocked, deadline, queue⟩ := summary
  refine ⟨final, reached, blocked, deadline, queue, fun oversleeps => ?_⟩
  obtain ⟨entry, member, expire⟩ :=
    List.mem_map.mp (queue ▸ show (1 : Int) ∈ [365, 1] by simp)
  rcases oversleeps blocked with empty | ⟨other, waiting, least⟩
  · simp [empty] at queue
  · rw [deadline, Option.some.injEq] at waiting
    have := least entry member
    omega

end Expiry

end Telling.Io
