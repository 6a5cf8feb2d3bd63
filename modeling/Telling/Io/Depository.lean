import Telling.Lib.Machine
import Telling.Lib.Map

/-!
# The depository

`Depository` keeps objects for strangers: a deposit is answered with a claim number,
and a claim with that number takes the object out, unless it has expired.  The search
for a number runs while the number is *not* in use, so that it stops at numbers in use
and at zero only; and the function that should return the number has no return
statement.
-/

namespace Telling.Io

open Lib

abbrev ClaimNumber := UInt32

/-- `Depository::Expiration`.  Times are points of the steady clock. -/
structure Expiration where
  number : ClaimNumber
  expire : Int
  deriving DecidableEq, Repr

/-- `Depository`, for objects of type `α`; a `std::any` that holds none is empty.  Of
the priority queue only the order of its top matters. -/
structure Depository (α : Type) where
  lockers : ClaimNumber → Option (Option α)
  expireQueue : List Expiration
  claimNumberGen : ClaimNumber

namespace Depository

variable {α : Type}

def initial : Depository α := ⟨fun _ => none, [], 0⟩

/-! ## Operations -/

theorem toNat_add_one {number : ClaimNumber} (nonzero : number + 1 ≠ 0) :
    (number + 1).toNat = number.toNat + 1 := by
  have below := number.toNat_lt
  have sum : (number + 1).toNat = (number.toNat + 1) % 4294967296 := by
    simp [UInt32.toNat_add]
  by_cases last : number.toNat + 1 = 4294967296
  · refine absurd (UInt32.toNat_inj.mp ?_) nonzero
    rw [sum, last]
    rfl
  · omega

/-- The loop that generates a claim number, from the current value of the counter. -/
def generate (lockers : ClaimNumber → Option (Option α)) (gen : ClaimNumber) :
    ClaimNumber :=
  if gen + 1 ≠ 0 ∧ (lockers (gen + 1)).isNone then generate lockers (gen + 1)
  else gen + 1
termination_by 4294967296 - gen.toNat
decreasing_by
  rename_i continues
  have next := toNat_add_one continues.1
  have below := (gen + 1).toNat_lt
  omega

/-- What `deposit` leaves and returns.  Without a return statement there is no value. -/
structure Deposited (α : Type) where
  depository : Depository α
  returned : Option ClaimNumber

/-- `deposit`, at time `now`. -/
def deposit (depository : Depository α) (object : Option α) (duration now : Int) :
    Deposited α :=
  if duration ≤ 0 then ⟨depository, some 0⟩
  else
    let claimNumber := generate depository.lockers depository.claimNumberGen
    ⟨{ lockers := emplace depository.lockers claimNumber object
       expireQueue := depository.expireQueue ++ [⟨claimNumber, now + duration⟩]
       claimNumberGen := claimNumber }, none⟩

/-- `claim`: the object is moved out of its locker, which stays. -/
def claim (depository : Depository α) (number : ClaimNumber) :
    Depository α × Option α :=
  match depository.lockers number with
  | none => (depository, none)
  | some object =>
      ({ depository with
        lockers := Function.update depository.lockers number (some none) }, object)

/-- One turn of `run_expire_thread` that destroys an item.  The entry at `index` is a
top of the queue: none is to expire earlier. -/
def expire (depository : Depository α) (index : Nat) (now : Int) :
    Option (Depository α × Expiration) :=
  match depository.expireQueue[index]? with
  | none => none
  | some top =>
      if top.expire < now ∧
          ∀ other ∈ depository.expireQueue, top.expire ≤ other.expire then
        some ({ depository with
          lockers := erase depository.lockers top.number
          expireQueue := depository.expireQueue.eraseIdx index }, top)
      else none

/-! ## Numbers -/

/-- The search ends at zero or at a number in use. -/
theorem generate_zero_or_used (lockers : ClaimNumber → Option (Option α))
    (gen : ClaimNumber) :
    generate lockers gen = 0 ∨ (lockers (generate lockers gen)).isSome := by
  induction gen using generate.induct lockers with
  | case1 gen continues ih =>
      rw [generate, if_pos continues]
      exact ih
  | case2 gen stops =>
      rw [generate, if_neg stops]
      by_cases zero : gen + 1 = 0
      · exact .inl zero
      · right
        simpa [zero, Option.isSome_iff_ne_none] using stops

/-- No number other than zero has a locker. -/
def OnlyZero (depository : Depository α) : Prop :=
  ∀ number, number ≠ 0 → depository.lockers number = none

theorem OnlyZero.generate_eq {depository : Depository α} (onlyZero : depository.OnlyZero) :
    generate depository.lockers depository.claimNumberGen = 0 := by
  rcases generate_zero_or_used depository.lockers depository.claimNumberGen with
    zero | used
  · exact zero
  · by_contra nonzero
    simp [onlyZero _ nonzero] at used

theorem OnlyZero.deposit {depository : Depository α} (onlyZero : depository.OnlyZero)
    (object : Option α) (duration now : Int) :
    (depository.deposit object duration now).depository.OnlyZero := by
  unfold Depository.deposit
  split
  · exact onlyZero
  · intro number nonzero
    dsimp only
    rw [onlyZero.generate_eq, emplace_of_ne nonzero]
    exact onlyZero number nonzero

theorem OnlyZero.claim {depository : Depository α} (onlyZero : depository.OnlyZero)
    (number : ClaimNumber) : (depository.claim number).1.OnlyZero := by
  unfold Depository.claim
  cases found : depository.lockers number with
  | none => exact onlyZero
  | some object =>
      intro other nonzero
      have different : other ≠ number := by
        rintro rfl
        simp [onlyZero _ nonzero] at found
      simp only [Function.update_of_ne different]
      exact onlyZero other nonzero

theorem OnlyZero.expire {depository next : Depository α} {index : Nat} {now : Int}
    {entry : Expiration} (onlyZero : depository.OnlyZero)
    (expired : depository.expire index now = some (next, entry)) : next.OnlyZero := by
  unfold Depository.expire at expired
  cases top : depository.expireQueue[index]? with
  | none => simp [top] at expired
  | some top' =>
      rw [top] at expired
      dsimp only at expired
      split at expired
      · obtain ⟨rfl, _⟩ := Prod.mk.inj (Option.some.inj expired)
        intro number nonzero
        by_cases same : number = top'.number
        · simp [same]
        · simp [same, onlyZero number nonzero]
      · contradiction

/-! ## Calls and answers -/

inductive Label (α : Type) where
  | deposit (object : Option α) (duration now : Int)
  | claim (number : ClaimNumber)
  | expire (index : Nat) (now : Int)

inductive Response (α : Type) where
  | issued (returned : Option ClaimNumber)
  | object (result : Option α)
  | expired (entry : Expiration)

/-- How the end of `deposit` is read: as it stands, or as if the number that it
computed were returned. -/
inductive Reading where
  | asWritten
  | asMeant
  deriving DecidableEq, Repr

def Reading.returned (reading : Reading) (deposited : Deposited α) : Option ClaimNumber :=
  match reading with
  | .asWritten => deposited.returned
  | .asMeant => deposited.returned.or (some deposited.depository.claimNumberGen)

/-- One step under the mutex, with its answer. -/
def respond (reading : Reading) (depository : Depository α) :
    Label α → Option (Depository α × Response α)
  | .deposit object duration now =>
      let deposited := depository.deposit object duration now
      some (deposited.depository, .issued (reading.returned deposited))
  | .claim number =>
      some ((depository.claim number).1, .object (depository.claim number).2)
  | .expire index now =>
      (depository.expire index now).map fun expired =>
        (expired.1, .expired expired.2)

/-! ## The law -/

/-- A deposit that was not claimed and has not expired. -/
structure Held (α : Type) where
  object : Option α
  expire : Int

/-- What the depositors may rely on: the deposits by their numbers. -/
abbrev Vault (α : Type) := ClaimNumber → Option (Held α)

namespace Vault

/-- The answers that keep the promise: a deposit gets a nonzero number that no deposit
has, and a claim gets what is held under its number. -/
def Allows (vault : Vault α) : Label α → Response α → Prop
  | .deposit _ duration _, .issued returned =>
      if duration ≤ 0 then returned = some 0
      else ∃ number, returned = some number ∧ number ≠ 0 ∧ vault number = none
  | .claim number, .object result => result = (vault number).bind Held.object
  | .expire _ _, .expired _ => True
  | _, _ => False

/-- The deposits after an answer.  An expiry concerns the deposit it was set for. -/
def after (vault : Vault α) : Label α → Response α → Vault α
  | .deposit object duration now, .issued (some number) =>
      if duration ≤ 0 then vault
      else Function.update vault number (some ⟨object, now + duration⟩)
  | .claim number, .object _ => erase vault number
  | .expire _ _, .expired entry =>
      if (vault entry.number).map Held.expire = some entry.expire then
        erase vault entry.number
      else vault
  | _, _ => vault

end Vault

/-- A depository, and the deposits that its answers so far stand for. -/
structure Audited (α : Type) where
  depository : Depository α
  vault : Vault α

namespace Audited

def initial : Audited α := ⟨.initial, fun _ => none⟩

def step (reading : Reading) (audited : Audited α) (label : Label α) :
    Option (Audited α) :=
  (audited.depository.respond reading label).map fun outcome =>
    ⟨outcome.1, audited.vault.after label outcome.2⟩

/-- The answer to the call is one that the law allows. -/
def Lawful (reading : Reading) (audited : Audited α) (label : Label α) : Prop :=
  ∀ outcome, audited.depository.respond reading label = some outcome →
    audited.vault.Allows label outcome.2

/-- Nothing is deposited. -/
def Undeposited (_ : Audited α) : Label α → Prop
  | .deposit _ duration _ => duration ≤ 0
  | _ => True

end Audited

theorem returned_of_nonpos (reading : Reading) (depository : Depository α)
    (object : Option α) {duration : Int} (now : Int) (nonpos : duration ≤ 0) :
    reading.returned (depository.deposit object duration now) = some 0 := by
  cases reading <;> simp [Reading.returned, deposit, nonpos]

/-- Read either way, a deposit is not answered with a nonzero number. -/
theorem OnlyZero.returned_of_pos {depository : Depository α}
    (onlyZero : depository.OnlyZero) (reading : Reading) (object : Option α)
    {duration : Int} (now : Int) (positive : ¬duration ≤ 0) :
    ∀ number, reading.returned (depository.deposit object duration now) = some number →
      number = 0 := by
  intro number returned
  cases reading with
  | asWritten => simp [Reading.returned, Depository.deposit, positive] at returned
  | asMeant =>
      simp only [Reading.returned, Depository.deposit, positive, if_false,
        onlyZero.generate_eq, Option.none_or, Option.some.injEq] at returned
      exact returned.symm

namespace Audited

/-- Nothing is deposited, and nothing is believed to be. -/
structure Vacant (audited : Audited α) : Prop where
  lockers : ∀ number, audited.depository.lockers number = none
  expireQueue : audited.depository.expireQueue = []
  vault : ∀ number, audited.vault number = none

theorem Vacant.lawful_iff {audited : Audited α} (vacant : audited.Vacant)
    (reading : Reading) (label : Label α) :
    audited.Lawful reading label ↔ audited.Undeposited label := by
  have onlyZero : audited.depository.OnlyZero := fun number _ => vacant.lockers number
  cases label with
  | deposit object duration now =>
      simp only [Lawful, respond, Option.some.injEq, forall_eq', Vault.Allows, Undeposited]
      by_cases nonpos : duration ≤ 0
      · simp [nonpos, returned_of_nonpos]
      · simp only [nonpos, if_false, iff_false]
        rintro ⟨number, returned, nonzero, _⟩
        exact nonzero (onlyZero.returned_of_pos reading object now nonpos number returned)
  | claim number =>
      simp [Lawful, respond, Vault.Allows, Undeposited, claim, vacant.lockers, vacant.vault]
  | expire index now =>
      simp [Lawful, respond, Undeposited, expire, vacant.expireQueue]

theorem Vacant.step {audited next : Audited α} (vacant : audited.Vacant)
    {reading : Reading} {label : Label α} (undeposited : audited.Undeposited label)
    (stepped : audited.step reading label = some next) : next.Vacant := by
  obtain ⟨outcome, responded, rfl⟩ := Option.map_eq_some_iff.mp stepped
  cases label with
  | deposit object duration now =>
      have nonpos : duration ≤ 0 := undeposited
      obtain rfl := Option.some.inj responded
      have unchanged : (audited.depository.deposit object duration now).depository =
          audited.depository := by
        simp [deposit, nonpos]
      dsimp only
      rw [unchanged, returned_of_nonpos _ _ _ _ nonpos, Vault.after, if_pos nonpos]
      exact vacant
  | claim number =>
      -- Without a locker there is nothing that could be left empty.
      obtain rfl := Option.some.inj responded
      have unchanged : audited.depository.claim number = (audited.depository, none) := by
        simp [claim, vacant.lockers]
      simp only [unchanged, Vault.after]
      refine ⟨vacant.lockers, vacant.expireQueue, fun other => ?_⟩
      rw [erase_of_none (vacant.vault number)]
      exact vacant.vault other
  | expire index now =>
      simp [respond, expire, vacant.expireQueue] at responded

theorem onlyZero_step {audited next : Audited α} {reading : Reading} {label : Label α}
    (onlyZero : audited.depository.OnlyZero)
    (stepped : audited.step reading label = some next) : next.depository.OnlyZero := by
  obtain ⟨outcome, responded, rfl⟩ := Option.map_eq_some_iff.mp stepped
  cases label with
  | deposit object duration now =>
      obtain rfl := Option.some.inj responded
      exact onlyZero.deposit object duration now
  | claim number =>
      obtain rfl := Option.some.inj responded
      exact onlyZero.claim number
  | expire index now =>
      obtain ⟨expired, happened, rfl⟩ := Option.map_eq_some_iff.mp responded
      exact onlyZero.expire happened

end Audited

/-- The law is kept in exactly those runs in which nothing is deposited: in every state
of every run, the next deposit would get the number zero. -/
theorem lawful_iff_undeposited (reading : Reading) {labels : List (Label α)}
    {final : Audited α}
    (reached : run (Audited.step reading) .initial labels = some final) :
    (Meets (Audited.step reading) (Audited.Lawful reading) .initial labels ↔
      Meets (Audited.step reading) Audited.Undeposited .initial labels) ∧
    Along (Audited.step reading) (fun audited => generate audited.depository.lockers
      audited.depository.claimNumberGen = 0) .initial labels := by
  constructor
  · refine meets_iff_meets Audited.Vacant ?_ ?_ ⟨fun _ => rfl, rfl, fun _ => rfl⟩ reached
    · exact fun audited label _ vacant _ => vacant.lawful_iff reading label
    · exact fun audited label next vacant undeposited stepped =>
        vacant.step undeposited stepped
  · refine along_of_meets (fun audited => audited.depository.OnlyZero) ?_ ?_
      (fun _ _ => rfl) (meets_true _ labels)
    · exact fun audited onlyZero => onlyZero.generate_eq
    · exact fun audited label next onlyZero _ stepped =>
        Audited.onlyZero_step onlyZero stepped

theorem claims_lawful :
    ∃ final, run (Audited.step .asWritten) (.initial : Audited Nat)
        [.claim 1, .claim 2] = some final ∧
      Meets (Audited.step .asWritten) (Audited.Lawful .asWritten)
        (.initial : Audited Nat) [.claim 1, .claim 2] := by
  have reached : run (Audited.step .asWritten) (.initial : Audited Nat)
      [.claim 1, .claim 2] = some _ := rfl
  exact ⟨_, reached, (lawful_iff_undeposited .asWritten reached).1.mpr
    ⟨trivial, fun _ _ => ⟨trivial, fun _ _ => trivial⟩⟩⟩

/-- The first deposit in a new depository: no number is returned, and the one that was
computed is zero. -/
theorem first_deposit_gets_zero :
    ((initial : Depository Nat).deposit (some 7) 5 0).returned = none ∧
      ((initial : Depository Nat).deposit (some 7) 5 0).depository.claimNumberGen = 0 ∧
      ∀ reading, ¬(Audited.initial : Audited Nat).Lawful reading
        (.deposit (some 7) 5 0) := by
  have onlyZero : (initial : Depository Nat).OnlyZero := fun _ _ => rfl
  refine ⟨rfl, onlyZero.generate_eq, fun reading lawful => ?_⟩
  obtain ⟨number, returned, nonzero, _⟩ := lawful _ rfl
  exact nonzero (onlyZero.returned_of_pos reading (some 7) 0 (by decide) number returned)

end Depository

end Telling.Io
