import Mathlib.Data.List.Nodup
import Mathlib.Data.List.Perm.Basic
import Mathlib.Logic.Function.Basic

/-!
# Pools of recycled slots

Slots are numbered in the order of their allocation, jobs in the order of their
acceptance.  A job is given to an idle slot, or to a new one if there is none;
the slot is active until the job is done, and then waits among the idle ones.
The rules below carry a description of the slots and of the jobs through the
operations of a pool.
-/

namespace Telling.Lib

theorem countP_add_countP_not {Item : Type*} (holds : Item → Bool)
    (items : List Item) :
    items.countP holds + items.countP (fun item => !holds item) =
      items.length := by
  rw [List.length_eq_countP_add_countP holds]
  congr 1
  exact List.countP_congr fun item _ => by simp

structure Pool where
  allocated : Nat := 0
  active : List Nat := []
  idle : List Nat := []
  /-- The number of jobs accepted so far. -/
  accepted : Nat := 0
  /-- The job that a slot was last started for. -/
  serving : Nat → Nat := fun _ => 0

namespace Pool

/-- Take the first idle slot, or allocate one. -/
def take (pool : Pool) : Nat × Pool :=
  match pool.idle with
  | [] => (pool.allocated, { pool with allocated := pool.allocated + 1 })
  | slot :: idle => (slot, { pool with idle := idle })

/-- Start a slot that was taken for the next job. -/
def launch (pool : Pool) (slot : Nat) : Pool :=
  { pool with
    active := slot :: pool.active
    accepted := pool.accepted + 1
    serving := Function.update pool.serving slot pool.accepted }

/-- Return a slot that was taken and not used. -/
def giveBack (pool : Pool) (slot : Nat) : Pool :=
  { pool with idle := slot :: pool.idle }

/-- Return a slot whose job is done. -/
def retire (pool : Pool) (slot : Nat) : Pool :=
  { pool with
    active := pool.active.erase slot
    idle := pool.idle ++ [slot] }

/-- The jobs that active slots work on. -/
def served (pool : Pool) : List Nat := pool.active.map pool.serving

/-- The invariant of a pool from which the slots in `out` were taken: every
allocated slot is in one place only, and active slots serve different jobs. -/
structure Sound (pool : Pool) (out : List Nat) : Prop where
  partition : (out ++ (pool.active ++ pool.idle)).Perm (List.range pool.allocated)
  accepted : ∀ job ∈ pool.served, job < pool.accepted
  distinct : pool.served.Nodup

/-- Every slot that was ever allocated is active or idle. -/
def Kept (pool : Pool) : Prop :=
  ∀ slot < pool.allocated, slot ∈ pool.active ∨ slot ∈ pool.idle

variable {pool : Pool} {out : List Nat} {slot other : Nat}

theorem take_frame (pool : Pool) :
    pool.take.2.active = pool.active ∧ pool.take.2.accepted = pool.accepted ∧
      pool.take.2.serving = pool.serving := by
  unfold take
  cases pool.idle <;> exact ⟨rfl, rfl, rfl⟩

theorem sound_empty : Sound {} [] where
  partition := List.Perm.refl _
  accepted := by simp [served]
  distinct := List.nodup_nil

namespace Sound

theorem nodup (sound : pool.Sound out) :
    (out ++ (pool.active ++ pool.idle)).Nodup :=
  sound.partition.nodup_iff.mpr List.nodup_range

theorem nodup_active (sound : pool.Sound out) : pool.active.Nodup :=
  (List.nodup_append.mp (List.nodup_append.mp sound.nodup).2.1).1

/-- A slot that was taken is neither active nor idle. -/
theorem not_mem_of_taken (sound : pool.Sound (slot :: out)) :
    slot ∉ pool.active ∧ slot ∉ pool.idle := by
  have apart := (List.nodup_append.mp sound.nodup).2.2 slot List.mem_cons_self
  constructor
  · intro active
    exact apart slot (List.mem_append_left _ active) rfl
  · intro idle
    exact apart slot (List.mem_append_right _ idle) rfl

theorem take (sound : pool.Sound out) :
    pool.take.2.Sound (pool.take.1 :: out) := by
  unfold Pool.take
  cases empty : pool.idle with
  | nil =>
      have partition := sound.partition
      rw [empty] at partition
      refine ⟨?_, sound.accepted, sound.distinct⟩
      simp only [List.range_succ, List.cons_append]
      exact (partition.cons _).trans (List.perm_append_singleton _ _).symm
  | cons slot idle =>
      have partition := sound.partition
      rw [empty] at partition
      refine ⟨List.Perm.trans ?_ partition, sound.accepted, sound.distinct⟩
      simp only [← List.append_assoc, List.cons_append]
      exact List.perm_middle.symm

/-- A slot that can be taken is not active. -/
theorem take_not_active (sound : pool.Sound out) :
    pool.take.1 ∉ pool.active := by
  have outside := sound.take.not_mem_of_taken.1
  rwa [(take_frame pool).1] at outside

theorem lt_allocated (sound : pool.Sound out)
    (member : slot ∈ out ++ (pool.active ++ pool.idle)) : slot < pool.allocated :=
  List.mem_range.mp (sound.partition.mem_iff.mp member)

/-- A slot that is in neither container was taken. -/
theorem taken (sound : pool.Sound out) (allocated : slot < pool.allocated)
    (outside : slot ∉ pool.active ++ pool.idle) :
    pool.Sound (slot :: out.erase slot) := by
  have member := sound.partition.mem_iff.mpr (List.mem_range.mpr allocated)
  have taken := (List.mem_append.mp member).resolve_right outside
  have moved := (List.perm_cons_erase taken).symm.append_right (pool.active ++ pool.idle)
  exact ⟨moved.trans sound.partition, sound.accepted, sound.distinct⟩

/-- Any pool whose slots are in one place only is sound: the slots that are in neither
container were taken. -/
theorem of_places (nodup : (pool.active ++ pool.idle).Nodup)
    (bounded : ∀ slot ∈ pool.active ++ pool.idle, slot < pool.allocated)
    (accepted : ∀ job ∈ pool.served, job < pool.accepted)
    (distinct : pool.served.Nodup) : ∃ out, pool.Sound out := by
  let missing := (List.range pool.allocated).filter (· ∉ pool.active ++ pool.idle)
  have apart : (missing ++ (pool.active ++ pool.idle)).Nodup := by
    refine List.nodup_append.mpr ⟨List.nodup_range.filter _, nodup, ?_⟩
    rintro slot member other placed rfl
    exact of_decide_eq_true (List.mem_filter.mp member).2 placed
  refine ⟨missing, (List.perm_ext_iff_of_nodup apart List.nodup_range).mpr ?_, accepted,
    distinct⟩
  intro slot
  by_cases placed : slot ∈ pool.active ++ pool.idle
  · exact iff_of_true (List.mem_append_right _ placed)
      (List.mem_range.mpr (bounded slot placed))
  · rw [List.mem_append, or_iff_left placed, List.mem_filter]
    exact and_iff_left (decide_eq_true placed)

/-- No slot was lost. -/
theorem kept (sound : pool.Sound []) : pool.Kept := by
  intro slot allocated
  have member := sound.partition.mem_iff.mpr (List.mem_range.mpr allocated)
  exact List.mem_append.mp member

/-- A slot that was taken and not returned is lost. -/
theorem not_kept (sound : pool.Sound (slot :: out)) : ¬pool.Kept := by
  intro kept
  have allocated := sound.lt_allocated List.mem_cons_self
  obtain ⟨inactive, notIdle⟩ := sound.not_mem_of_taken
  exact (kept slot allocated).elim inactive notIdle

/-- Two active slots with the same job are the same slot. -/
theorem eq_of_serving_eq (sound : pool.Sound out) (left : slot ∈ pool.active)
    (right : other ∈ pool.active)
    (same : pool.serving slot = pool.serving other) : slot = other :=
  List.inj_on_of_nodup_map sound.distinct left right same

theorem serving_launch (sound : pool.Sound (slot :: out))
    (active : other ∈ pool.active) :
    (pool.launch slot).serving other = pool.serving other := by
  refine Function.update_of_ne ?_ _ _
  rintro rfl
  exact sound.not_mem_of_taken.1 active

@[simp] theorem serving_launch_self (pool : Pool) (slot : Nat) :
    (pool.launch slot).serving slot = pool.accepted :=
  Function.update_self _ _ _

/-- A started slot serves the newest job; the others go on as before. -/
theorem served_launch (sound : pool.Sound (slot :: out)) :
    (pool.launch slot).served = pool.accepted :: pool.served := by
  have others : pool.active.map (pool.launch slot).serving = pool.served :=
    List.map_congr_left fun other active => sound.serving_launch active
  rw [← others, ← serving_launch_self pool slot]
  rfl

theorem launch (sound : pool.Sound (slot :: out)) :
    (pool.launch slot).Sound out := by
  refine ⟨List.Perm.trans ?_ sound.partition, ?_, ?_⟩
  · exact List.perm_middle
  · rw [sound.served_launch]
    intro job member
    rcases List.mem_cons.mp member with rfl | earlier
    · exact Nat.lt_succ_self _
    · exact Nat.lt_succ_of_lt (sound.accepted job earlier)
  · rw [sound.served_launch]
    refine List.nodup_cons.mpr ⟨?_, sound.distinct⟩
    intro member
    exact Nat.lt_irrefl _ (sound.accepted _ member)

theorem giveBack (sound : pool.Sound (slot :: out)) :
    (pool.giveBack slot).Sound out := by
  refine ⟨List.Perm.trans ?_ sound.partition, sound.accepted, sound.distinct⟩
  rw [← List.append_assoc]
  refine List.perm_middle.trans ?_
  rw [List.append_assoc]
  exact List.Perm.refl _

theorem mem_active_retire (sound : pool.Sound out) :
    other ∈ (pool.retire slot).active ↔ other ≠ slot ∧ other ∈ pool.active :=
  sound.nodup_active.mem_erase_iff

theorem perm_served_retire (active : slot ∈ pool.active) :
    (pool.serving slot :: (pool.retire slot).served).Perm pool.served :=
  (List.perm_cons_erase active).symm.map pool.serving

theorem retire (sound : pool.Sound out) (active : slot ∈ pool.active) :
    (pool.retire slot).Sound out := by
  have moved := perm_served_retire active
  have distinct := List.nodup_cons.mp (moved.nodup_iff.mpr sound.distinct)
  refine ⟨List.Perm.trans ?_ sound.partition, ?_, distinct.2⟩
  · refine List.Perm.append_left out ?_
    change (pool.active.erase slot ++ (pool.idle ++ [slot])).Perm _
    rw [← List.append_assoc]
    refine (List.perm_append_singleton _ _).trans ?_
    exact (List.perm_cons_erase active).symm.append_right pool.idle
  · intro job member
    exact sound.accepted job (moved.mem_iff.mp (List.mem_cons_of_mem _ member))

/-- What holds of no job that is done can be counted over the active slots. -/
theorem countP_jobs (sound : pool.Sound out) (holds : Nat → Bool)
    (pending : ∀ job < pool.accepted, holds job → job ∈ pool.served) :
    (List.range pool.accepted).countP holds =
      pool.active.countP fun slot => holds (pool.serving slot) := by
  have same : ((List.range pool.accepted).filter holds).Perm
      (pool.served.filter holds) := by
    refine (List.perm_ext_iff_of_nodup (List.nodup_range.filter _)
      (sound.distinct.filter _)).mpr fun job => ?_
    simp only [List.mem_filter, List.mem_range]
    refine ⟨fun ⟨accepted, held⟩ => ⟨pending job accepted held, held⟩, ?_⟩
    exact fun ⟨member, held⟩ => ⟨sound.accepted job member, held⟩
  rw [List.countP_eq_length_filter, same.length_eq, ← List.countP_eq_length_filter,
    served, List.countP_map]
  rfl

end Sound

/-! ## Descriptions of slots and jobs -/

/-- A description of the slots at rest, of the active slots with their jobs, and
of the jobs that are done. -/
structure Tracks (pool : Pool) (out : List Nat) (rest : Nat → Prop)
    (busy : Nat → Nat → Prop) (done : Nat → Prop) : Prop where
  sound : pool.Sound out
  rest : ∀ slot ∉ pool.active, rest slot
  busy : ∀ slot ∈ pool.active, busy slot (pool.serving slot)
  done : ∀ job < pool.accepted, job ∉ pool.served → done job

namespace Tracks

variable {rest restAfter done doneAfter : Nat → Prop}
variable {busy busyAfter : Nat → Nat → Prop}

/-- Taking a slot concerns no job. -/
theorem take (tracks : pool.Tracks out rest busy done)
    (restKept : ∀ slot ∉ pool.active, rest slot → restAfter slot)
    (busyKept : ∀ slot ∈ pool.active, busy slot (pool.serving slot) →
      busyAfter slot (pool.serving slot)) :
    pool.take.2.Tracks (pool.take.1 :: out) restAfter busyAfter done := by
  obtain ⟨active, accepted, serving⟩ := take_frame pool
  have served : pool.take.2.served = pool.served := by
    rw [Pool.served, active, serving, Pool.served]
  refine ⟨tracks.sound.take, ?_, ?_, ?_⟩
  · rw [active]
    exact fun slot resting => restKept slot resting (tracks.rest slot resting)
  · rw [active, serving]
    exact fun slot member => busyKept slot member (tracks.busy slot member)
  · rw [accepted, served]
    exact tracks.done

theorem giveBack (tracks : pool.Tracks (slot :: out) rest busy done) :
    (pool.giveBack slot).Tracks out rest busy done :=
  ⟨tracks.sound.giveBack, tracks.rest, tracks.busy, tracks.done⟩

theorem launch (tracks : pool.Tracks (slot :: out) rest busy done)
    (restKept : ∀ other ≠ slot, rest other → restAfter other)
    (busyKept : ∀ other ∈ pool.active, other ≠ slot →
      busy other (pool.serving other) → busyAfter other (pool.serving other))
    (started : rest slot → busyAfter slot pool.accepted)
    (doneKept : ∀ job < pool.accepted, done job → doneAfter job) :
    (pool.launch slot).Tracks out restAfter busyAfter doneAfter := by
  have sound := tracks.sound
  have outside := sound.not_mem_of_taken.1
  refine ⟨sound.launch, ?_, ?_, ?_⟩
  · intro other resting
    obtain ⟨different, inactive⟩ := not_or.mp (mt List.mem_cons.mpr resting)
    exact restKept other different (tracks.rest other inactive)
  · intro other member
    rcases List.mem_cons.mp member with rfl | earlier
    · rw [Sound.serving_launch_self]
      exact started (tracks.rest other outside)
    · rw [sound.serving_launch earlier]
      refine busyKept other earlier ?_ (tracks.busy other earlier)
      rintro rfl
      exact outside earlier
  · intro job accepted unserved
    rw [sound.served_launch, List.mem_cons, not_or] at unserved
    have earlier : job < pool.accepted :=
      Nat.lt_of_le_of_ne (Nat.le_of_lt_succ accepted) unserved.1
    exact doneKept job earlier (tracks.done job earlier unserved.2)

/-- An active slot goes on with its job. -/
theorem proceed (tracks : pool.Tracks out rest busy done)
    (active : slot ∈ pool.active)
    (restKept : ∀ other ≠ slot, rest other → restAfter other)
    (busyKept : ∀ other ∈ pool.active, other ≠ slot →
      pool.serving other ≠ pool.serving slot →
      busy other (pool.serving other) → busyAfter other (pool.serving other))
    (proceeds : busy slot (pool.serving slot) →
      busyAfter slot (pool.serving slot))
    (doneKept : ∀ job < pool.accepted, job ≠ pool.serving slot →
      done job → doneAfter job) :
    pool.Tracks out restAfter busyAfter doneAfter := by
  refine ⟨tracks.sound, ?_, ?_, ?_⟩
  · intro other resting
    refine restKept other ?_ (tracks.rest other resting)
    rintro rfl
    exact resting active
  · intro other member
    by_cases same : other = slot
    · subst same
      exact proceeds (tracks.busy other active)
    · refine busyKept other member same ?_ (tracks.busy other member)
      exact fun equal => same (tracks.sound.eq_of_serving_eq member active equal)
  · intro job accepted unserved
    refine doneKept job accepted ?_ (tracks.done job accepted unserved)
    rintro rfl
    exact unserved (List.mem_map_of_mem active)

/-- An active slot comes to rest and its job is done. -/
theorem retire (tracks : pool.Tracks out rest busy done)
    (active : slot ∈ pool.active)
    (restKept : ∀ other ≠ slot, rest other → restAfter other)
    (busyKept : ∀ other ∈ pool.active, other ≠ slot →
      busy other (pool.serving other) → busyAfter other (pool.serving other))
    (rests : restAfter slot) (finished : done (pool.serving slot)) :
    (pool.retire slot).Tracks out restAfter busyAfter done := by
  have sound := tracks.sound
  refine ⟨sound.retire active, ?_, ?_, ?_⟩
  · intro other resting
    rw [sound.mem_active_retire, not_and] at resting
    by_cases same : other = slot
    · exact same ▸ rests
    · exact restKept other same (tracks.rest other (resting same))
  · intro other member
    obtain ⟨different, earlier⟩ := sound.mem_active_retire.mp member
    exact busyKept other earlier different (tracks.busy other earlier)
  · intro job accepted unserved
    by_cases same : job = pool.serving slot
    · exact same ▸ finished
    · refine tracks.done job accepted fun member => ?_
      have moved := (Sound.perm_served_retire active).mem_iff.mpr member
      exact (List.mem_cons.mp moved).elim same unserved

end Tracks

end Pool

end Telling.Lib
