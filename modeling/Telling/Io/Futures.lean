import Telling.Io.Box

/-!
# Futures of boxed requests

For every client that keeps a ledger: as long as no `async_prep` runs and no query
ends between the two parts of its `request()`, every `request()` returns the future
of its own query.  A single step outside this condition can be followed at once by
a `getFuture` that throws.
-/

namespace Telling.Io

open Lib

universe u v w

variable {Message : Type u}

namespace Delegate

variable {delegate : Delegate Message} {queryID : QueryID} {pending : Pending}

theorem asyncSent_of_some (found : delegate.pending queryID = some pending) :
    delegate.asyncSent queryID = { delegate with
      pending := Function.update delegate.pending queryID
        (some { pending with sent := true }) } := by
  simp [asyncSent, found]

theorem resolve_of_some (found : delegate.pending queryID = some pending)
    (resolution : Pending → Resolution Message) :
    delegate.resolve queryID resolution = { delegate with
      pending := erase delegate.pending queryID
      resolved := delegate.resolved ++ [(pending.holder, resolution pending)] } := by
  simp [resolve, found]

section Calls

variable (what : Bool → Bool → String)

/-- A call for a query that is not pending changes at most `connected`. -/
theorem call_of_none (absent : delegate.pending queryID = none)
    (call : Call Message) :
    (delegate.call what queryID call).pending = delegate.pending ∧
      (delegate.call what queryID call).newQueryID = delegate.newQueryID ∧
      (delegate.call what queryID call).resolved = delegate.resolved := by
  cases call <;>
    simp [Delegate.call, asyncSent, asyncRecv, asyncError, resolve, absent]

theorem calls_of_none (absent : delegate.pending queryID = none)
    (calls : List (Call Message)) :
    (delegate.calls what queryID calls).pending = delegate.pending ∧
      (delegate.calls what queryID calls).newQueryID = delegate.newQueryID ∧
      (delegate.calls what queryID calls).resolved = delegate.resolved := by
  induction calls generalizing delegate with
  | nil => exact ⟨rfl, rfl, rfl⟩
  | cons call calls ih =>
      obtain ⟨pending, newest, resolved⟩ := call_of_none what absent call
      rw [← pending] at absent
      obtain ⟨restPending, restNewest, restResolved⟩ := ih absent
      exact ⟨restPending.trans pending, restNewest.trans newest,
        restResolved.trans resolved⟩

/-- What calls for a pending query do: they leave the other queries alone, and the
first terminal call among them sets the promise and forgets it. -/
structure Served (delegate : Delegate Message) (queryID : QueryID)
    (holder : Option Nat) (outcomes : List (Outcome Message))
    (after : Delegate Message) : Prop where
  others : ∀ other ≠ queryID, after.pending other = delegate.pending other
  newQueryID : after.newQueryID = delegate.newQueryID
  silent : outcomes = [] →
    (∃ sent, after.pending queryID = some ⟨sent, holder⟩) ∧
      after.resolved = delegate.resolved
  terminal : outcomes ≠ [] → after.pending queryID = none ∧
    ∃ resolution rest, outcomes = resolution.outcome :: rest ∧
      after.resolved = delegate.resolved ++ [(holder, resolution)]

theorem served_resolve (resolution : Pending → Resolution Message)
    (found : delegate.pending queryID = some pending)
    (calls : List (Call Message)) :
    Served delegate queryID pending.holder
      ((resolution pending).outcome :: outcomesOf calls)
      ((delegate.resolve queryID resolution).calls what queryID calls) := by
  rw [resolve_of_some found]
  obtain ⟨restPending, restNewest, restResolved⟩ := @calls_of_none Message
    { delegate with
      pending := erase delegate.pending queryID
      resolved := delegate.resolved ++ [(pending.holder, resolution pending)] }
    queryID what erase_self calls
  refine ⟨fun other different => ?_, restNewest, by simp, fun _ => ⟨?_, ?_⟩⟩
  · exact (congrFun restPending other).trans (erase_of_ne different)
  · exact (congrFun restPending queryID).trans erase_self
  · exact ⟨_, _, rfl, restResolved⟩

theorem served_calls (found : delegate.pending queryID = some pending)
    (calls : List (Call Message)) :
    Served delegate queryID pending.holder (outcomesOf calls)
      (delegate.calls what queryID calls) := by
  induction calls generalizing delegate pending with
  | nil => exact ⟨fun _ _ => rfl, rfl, fun _ => ⟨⟨_, found⟩, rfl⟩, absurd rfl⟩
  | cons call calls ih =>
      cases call with
      | opened =>
          have rest := @ih { delegate with connected := true } pending found
          exact ⟨rest.others, rest.newQueryID, rest.silent, rest.terminal⟩
      | sent =>
          change Served delegate queryID pending.holder (outcomesOf calls)
            ((delegate.asyncSent queryID).calls what queryID calls)
          rw [asyncSent_of_some found]
          have rest := @ih { delegate with
            pending := Function.update delegate.pending queryID
              (some { pending with sent := true }) } { pending with sent := true }
            (Function.update_self _ _ _)
          refine ⟨fun other different => ?_, rest.newQueryID, rest.silent,
            rest.terminal⟩
          exact (rest.others other different).trans
            (Function.update_of_ne different _ _)
      | recv msg => exact served_resolve what (fun _ => .value msg) found calls
      | error status =>
          exact served_resolve what (fun pending =>
            .exception ⟨status, what delegate.connected pending.sent⟩) found calls

end Calls

/-- Calls without an outcome change no entry but for its flag `sent`. -/
theorem Served.pending_of_silent {after : Delegate Message}
    (served : Served delegate queryID pending.holder [] after)
    (found : delegate.pending queryID = some pending) (other : QueryID)
    (holder : Option Nat) :
    (∃ sent, after.pending other = some ⟨sent, holder⟩) ↔
      ∃ sent, delegate.pending other = some ⟨sent, holder⟩ := by
  by_cases same : other = queryID
  · subst same
    obtain ⟨sent, foundAfter⟩ := (served.silent rfl).1
    obtain ⟨before, held⟩ := pending
    simp [found, foundAfter]
  · rw [served.others other same]

theorem asyncPrep_of_some {other : QueryID}
    (found : delegate.pending other = some pending) :
    (delegate.asyncPrep queryID).pending other = some pending := by
  by_cases same : other = queryID
  · subst same
    exact (congrFun (emplace_of_some found) other).trans found
  · exact (emplace_of_ne same).trans found

/-- `async_prep` gives no future away. -/
theorem held_of_asyncPrep {other : QueryID} {sent : Bool} {holder : Nat}
    (found : (delegate.asyncPrep queryID).pending other = some ⟨sent, some holder⟩) :
    delegate.pending other = some ⟨sent, some holder⟩ := by
  rcases emplace_eq_some found with before | ⟨-, new⟩
  · exact before
  · cases new

/-- After `async_prep` the query has a promise whose future nobody holds, unless
there was one that somebody holds. -/
theorem asyncPrep_self
    (free : (delegate.pending queryID).bind Pending.holder = none) :
    ∃ sent, (delegate.asyncPrep queryID).pending queryID = some ⟨sent, none⟩ := by
  cases found : delegate.pending queryID with
  | none =>
      refine ⟨false, ?_⟩
      exact (congrFun (emplace_of_none found) queryID).trans
        (Function.update_self _ _ _)
  | some pending =>
      obtain ⟨sent, holder⟩ := pending
      rw [found] at free
      obtain rfl : holder = none := free
      exact ⟨sent, asyncPrep_of_some found⟩

end Delegate

/-! ## The invariant -/

/-- On a ledger every live query has an id of its own. -/
structure Ledger.Paired (ledger : Ledger) : Prop where
  bounded : ∀ query queryID, (query, queryID) ∈ ledger.live → query < ledger.accepted
  query_unique : ∀ query other queryID, (query, queryID) ∈ ledger.live →
    (other, queryID) ∈ ledger.live → query = other
  id_unique : ∀ query queryID other, (query, queryID) ∈ ledger.live →
    (query, other) ∈ ledger.live → queryID = other

namespace Ledger.Paired

variable {ledger : Ledger} {queryID : QueryID}

/-- A new query is entered with an id that none of the others has. -/
theorem start (paired : ledger.Paired) (fresh : ∀ query, (query, queryID) ∉ ledger.live) :
    Paired ⟨ledger.accepted + 1, insert (ledger.accepted, queryID) ledger.live⟩ := by
  have new : ∀ other, (ledger.accepted, other) ∉ ledger.live := fun other live =>
    Nat.lt_irrefl _ (paired.bounded _ _ live)
  constructor
  · rintro query other (equal | live)
    · obtain ⟨rfl, -⟩ := Prod.mk.inj equal
      exact Nat.lt_succ_self _
    · exact Nat.lt_succ_of_lt (paired.bounded query other live)
  · rintro left right other (leftNew | leftOld) (rightNew | rightOld)
    · exact (Prod.mk.inj leftNew).1.trans (Prod.mk.inj rightNew).1.symm
    · obtain ⟨-, rfl⟩ := Prod.mk.inj leftNew
      exact absurd rightOld (fresh right)
    · obtain ⟨-, rfl⟩ := Prod.mk.inj rightNew
      exact absurd leftOld (fresh left)
    · exact paired.query_unique left right other leftOld rightOld
  · rintro query left right (leftNew | leftOld) (rightNew | rightOld)
    · exact (Prod.mk.inj leftNew).2.trans (Prod.mk.inj rightNew).2.symm
    · obtain ⟨rfl, -⟩ := Prod.mk.inj leftNew
      exact absurd rightOld (new right)
    · obtain ⟨rfl, -⟩ := Prod.mk.inj rightNew
      exact absurd leftOld (new left)
    · exact paired.id_unique query left right leftOld rightOld

theorem remove (paired : ledger.Paired) (removed : Set (Nat × QueryID)) :
    Paired ⟨ledger.accepted, ledger.live \ removed⟩ where
  bounded query queryID live := paired.bounded query queryID live.1
  query_unique left right queryID leftOn rightOn :=
    paired.query_unique left right queryID leftOn.1 rightOn.1
  id_unique query left right leftOn rightOn :=
    paired.id_unique query left right leftOn.1 rightOn.1

/-- A query that is left on the ledger differs from the one taken off it in its
number and in its id. -/
theorem remaining {query other : Nat} {otherID : QueryID} (paired : ledger.Paired)
    (live : (query, queryID) ∈ ledger.live)
    (remains : (other, otherID) ∈ ledger.live \ {(query, queryID)}) :
    other ≠ query ∧ otherID ≠ queryID := by
  obtain ⟨onLedger, different⟩ := remains
  refine ⟨?_, ?_⟩
  · rintro rfl
    obtain rfl := paired.id_unique other otherID queryID onLedger live
    exact different rfl
  · rintro rfl
    obtain rfl := paired.query_unique other query otherID onLedger live
    exact different rfl

end Ledger.Paired

namespace Desk

/-- What a desk knows of the queries on the ledger.  At most one `request()` is
between its parts; the promise of a query that has not ended is pending, and its
future is held by the query's own `request()`. -/
structure Kept (ledger : Ledger) (desk : Desk Message) : Prop
    extends paired : ledger.Paired where
  started : ∀ query ∈ desk.started, query < ledger.accepted
  alone : ∀ query queryID, (query, queryID) ∈ desk.waiting →
    desk.waiting = [(query, queryID)] ∧ (query, queryID) ∈ ledger.live ∧
      desk.delegate.newQueryID = queryID ∧
      ∃ sent, desk.delegate.pending queryID = some ⟨sent, none⟩
  held : ∀ query queryID, (query, queryID) ∈ ledger.live →
    (query, queryID) ∈ desk.waiting ∨ query ∈ desk.futures ∧
      ∃ sent, desk.delegate.pending queryID = some ⟨sent, some query⟩
  holder : ∀ query queryID sent,
    desk.delegate.pending queryID = some ⟨sent, some query⟩ →
    (query, queryID) ∈ ledger.live
  silent : ∀ query, ledger.accepted ≤ query ∨
    (∃ queryID, (query, queryID) ∈ ledger.live) →
    desk.outcomes query = [] ∧ desk.resolutions query = []
  ended : ∀ query < ledger.accepted, (∀ queryID, (query, queryID) ∉ ledger.live) →
    query ∈ desk.futures ∧ ∃ outcome rest, desk.outcomes query = outcome :: rest ∧
      (desk.resolutions query).map Resolution.outcome = [outcome]
  nothrow : desk.threw = []

variable {ledger after : Ledger} {desk next : Desk Message}
variable {what : Bool → Bool → String}

theorem kept_initial : ({} : Desk Message).Kept ⟨0, ∅⟩ := by
  refine ⟨⟨?_, ?_, ?_⟩, ?_, ?_, ?_, ?_, ?_, ?_, ?_⟩ <;>
    simp [outcomes, resolutions, entriesOf]

theorem Kept.ownFutures (kept : desk.Kept ledger) : desk.OwnFutures where
  nothrow := kept.nothrow
  returns := by
    intro query started
    by_cases live : ∃ queryID, (query, queryID) ∈ ledger.live
    · obtain ⟨queryID, member⟩ := live
      rcases kept.held query queryID member with waiting | ⟨returned, -⟩
      · exact .inl (List.mem_map_of_mem waiting)
      · exact .inr returned
    · exact .inr (kept.ended query (kept.started query started)
        (not_exists.mp live)).1
  resolves := by
    intro query _
    by_cases running : ledger.accepted ≤ query ∨
        ∃ queryID, (query, queryID) ∈ ledger.live
    · obtain ⟨outcomes, resolutions⟩ := kept.silent query running
      rw [outcomes, resolutions]
      rfl
    · obtain ⟨earlier, dead⟩ := not_or.mp running
      obtain ⟨-, outcome, rest, outcomes, resolutions⟩ :=
        kept.ended query (Nat.lt_of_not_le earlier) (not_exists.mp dead)
      rw [outcomes, resolutions]
      rfl

/-! ### Steps inside the condition -/

theorem Kept.declined {queryID : QueryID} (kept : desk.Kept ledger)
    (allowed : desk.Allows (.declined queryID)) :
    (desk.tell what (.declined queryID)).Kept ledger where
  paired := kept.paired
  started := kept.started
  alone := by
    intro query other waiting
    obtain ⟨alone, live, -, sent, found⟩ := kept.alone query other waiting
    exact ⟨alone, live, (allowed _ waiting).symm, sent,
      Delegate.asyncPrep_of_some found⟩
  held := by
    intro query other live
    refine (kept.held query other live).imp_right ?_
    rintro ⟨returned, sent, found⟩
    exact ⟨returned, sent, Delegate.asyncPrep_of_some found⟩
  holder := fun query other sent found =>
    kept.holder query other sent (Delegate.held_of_asyncPrep found)
  silent := kept.silent
  ended := kept.ended
  nothrow := kept.nothrow

/-- While nobody waits, every query on the ledger holds its future: an id whose
future nobody holds belongs to none of them. -/
theorem Kept.fresh {queryID : QueryID} (kept : desk.Kept ledger)
    (nobody : desk.waiting = [])
    (free : (desk.delegate.pending queryID).bind Pending.holder = none) (query : Nat) :
    (query, queryID) ∉ ledger.live := by
  intro live
  rcases kept.held query queryID live with waiting | ⟨-, sent, found⟩
  · simp [nobody] at waiting
  · simp [found] at free

theorem Kept.start {queryID : QueryID} (kept : desk.Kept ledger)
    (allowed : desk.Allows (.started ledger.accepted queryID)) :
    (desk.tell what (.started ledger.accepted queryID)).Kept
      ⟨ledger.accepted + 1, insert (ledger.accepted, queryID) ledger.live⟩ := by
  obtain ⟨nobody, free⟩ := allowed
  have paired := kept.paired.start (kept.fresh nobody free)
  obtain ⟨sent, found⟩ := Delegate.asyncPrep_self free
  refine ⟨paired, ?_, ?_, ?_, ?_, ?_, ?_,
    kept.nothrow⟩
  · intro query member
    rcases List.mem_append.mp member with earlier | last
    · exact Nat.lt_succ_of_lt (kept.started query earlier)
    · rw [List.mem_singleton.mp last]
      exact Nat.lt_succ_self _
  · intro query other waiting
    simp only [tell, nobody, List.nil_append, List.mem_singleton] at waiting ⊢
    obtain ⟨rfl, rfl⟩ := Prod.mk.inj waiting
    exact ⟨rfl, Set.mem_insert _ _, rfl, sent, found⟩
  · rintro query other (equal | live)
    · refine .inl ?_
      rw [equal]
      exact List.mem_append_right _ List.mem_cons_self
    · rcases kept.held query other live with waiting | ⟨returned, before, found⟩
      · simp [nobody] at waiting
      · exact .inr ⟨returned, before, Delegate.asyncPrep_of_some found⟩
  · intro query other before found
    exact Set.mem_insert_of_mem _
      (kept.holder query other before (Delegate.held_of_asyncPrep found))
  · intro query running
    refine kept.silent query ?_
    rcases running with later | ⟨other, equal | live⟩
    · exact .inl (Nat.le_of_succ_le later)
    · exact .inl (Prod.mk.inj equal).1.ge
    · exact .inr ⟨other, live⟩
  · intro query earlier dead
    have different : query ≠ ledger.accepted := by
      rintro rfl
      exact dead queryID (Set.mem_insert _ _)
    refine kept.ended query (Nat.lt_of_le_of_ne (Nat.le_of_lt_succ earlier) different) ?_
    exact fun other live => dead other (Set.mem_insert_of_mem _ live)

theorem outcomes_calls (query other : Nat) (queryID : QueryID)
    (calls : List (Call Message)) :
    (desk.tell what (.calls query queryID calls)).outcomes other =
      desk.outcomes other ++ if query = other then outcomesOf calls else [] := by
  rw [outcomes, tell, entriesOf_append, entriesOf_map]
  rfl

/-- The promise of a query on the ledger is pending. -/
theorem Kept.pending {query : Nat} {queryID : QueryID} (kept : desk.Kept ledger)
    (live : (query, queryID) ∈ ledger.live) :
    ∃ pending, desk.delegate.pending queryID = some pending := by
  rcases kept.held query queryID live with waiting | ⟨-, sent, found⟩
  · obtain ⟨-, -, -, sent, found⟩ := kept.alone query queryID waiting
    exact ⟨_, found⟩
  · exact ⟨_, found⟩

theorem Kept.goesOn {query : Nat} {queryID : QueryID} {calls : List (Call Message)}
    (kept : desk.Kept ledger) (live : (query, queryID) ∈ ledger.live)
    (quiet : outcomesOf calls = []) :
    (desk.tell what (.calls query queryID calls)).Kept ledger := by
  obtain ⟨pending, found⟩ := kept.pending live
  have served := Delegate.served_calls what found calls
  rw [quiet] at served
  have entries := served.pending_of_silent found
  have heard : ∀ other, (desk.tell what (.calls query queryID calls)).outcomes other =
      desk.outcomes other := by
    intro other
    rw [outcomes_calls, quiet, ite_self, List.append_nil]
  have resolutions : ∀ other,
      (desk.tell what (.calls query queryID calls)).resolutions other =
        desk.resolutions other := by
    intro other
    rw [Desk.resolutions, tell, (served.silent rfl).2]
    rfl
  refine ⟨kept.paired, kept.started, ?_, ?_, ?_,
    ?_, ?_, kept.nothrow⟩
  · intro other otherID waiting
    obtain ⟨alone, onLedger, newest, before⟩ := kept.alone other otherID waiting
    exact ⟨alone, onLedger, served.newQueryID.trans newest,
      (entries otherID none).mpr before⟩
  · intro other otherID onLedger
    refine (kept.held other otherID onLedger).imp_right ?_
    exact fun ⟨returned, before⟩ => ⟨returned, (entries otherID other).mpr before⟩
  · intro other otherID sent foundOther
    obtain ⟨before, held⟩ := (entries otherID other).mp ⟨sent, foundOther⟩
    exact kept.holder other otherID before held
  · intro other running
    rw [heard, resolutions]
    exact kept.silent other running
  · intro other earlier dead
    rw [heard, resolutions]
    exact kept.ended other earlier dead

theorem resolutions_calls {query : Nat} {queryID : QueryID}
    {calls : List (Call Message)} {resolution : Resolution Message}
    (resolved : (desk.delegate.calls what queryID calls).resolved =
      desk.delegate.resolved ++ [(some query, resolution)]) (other : Nat) :
    (desk.tell what (.calls query queryID calls)).resolutions other =
      desk.resolutions other ++ if query = other then [resolution] else [] := by
  have tagged := entriesOf_map (some query) (some other) [resolution]
  simp only [Option.some.injEq] at tagged
  rw [Desk.resolutions, tell, resolved, entriesOf_append]
  exact congrArg _ tagged

theorem Kept.ends {query : Nat} {queryID : QueryID} {calls : List (Call Message)}
    (kept : desk.Kept ledger) (live : (query, queryID) ∈ ledger.live)
    (terminal : outcomesOf calls ≠ [])
    (returned : query ∉ desk.waiting.map Prod.fst) :
    (desk.tell what (.calls query queryID calls)).Kept
      ⟨ledger.accepted, ledger.live \ {(query, queryID)}⟩ := by
  obtain ⟨hasFuture, sent, found⟩ : query ∈ desk.futures ∧
      ∃ sent, desk.delegate.pending queryID = some ⟨sent, some query⟩ :=
    (kept.held query queryID live).resolve_left fun waiting =>
      returned (List.mem_map_of_mem waiting)
  have served := Delegate.served_calls what found calls
  obtain ⟨gone, resolution, rest, first, resolved⟩ := served.terminal terminal
  have resolutions := resolutions_calls resolved
  have unaffected : ∀ other ≠ query,
      (desk.tell what (.calls query queryID calls)).outcomes other =
        desk.outcomes other ∧
      (desk.tell what (.calls query queryID calls)).resolutions other =
        desk.resolutions other := by
    intro other different
    rw [outcomes_calls, resolutions, if_neg different.symm, if_neg different.symm]
    simp
  have paired := kept.paired.remove {(query, queryID)}
  refine ⟨paired, kept.started, ?_, ?_, ?_,
    ?_, ?_, kept.nothrow⟩
  · intro other otherID waiting
    obtain ⟨alone, onLedger, newest, before, foundOther⟩ :=
      kept.alone other otherID waiting
    have remains : (other, otherID) ∈ ledger.live \ {(query, queryID)} := by
      refine ⟨onLedger, ?_⟩
      intro equal
      obtain ⟨rfl, -⟩ := Prod.mk.inj equal
      exact returned (List.mem_map_of_mem waiting)
    refine ⟨alone, remains, served.newQueryID.trans newest, before, ?_⟩
    exact (served.others otherID (kept.paired.remaining live remains).2).trans foundOther
  · intro other otherID remains
    refine (kept.held other otherID remains.1).imp_right ?_
    rintro ⟨returned, before, foundOther⟩
    refine ⟨returned, before, ?_⟩
    exact (served.others otherID (kept.paired.remaining live remains).2).trans foundOther
  · intro other otherID before foundOther
    have different : otherID ≠ queryID := by
      rintro rfl
      exact absurd (gone.symm.trans foundOther) (by simp)
    refine ⟨kept.holder other otherID before
      ((served.others otherID different).symm.trans foundOther), ?_⟩
    exact fun equal => different (Prod.mk.inj equal).2
  · intro other running
    have different : other ≠ query := by
      rintro rfl
      rcases running with later | ⟨otherID, remains⟩
      · exact Nat.lt_irrefl _ (Nat.lt_of_lt_of_le (kept.bounded _ _ live) later)
      · exact (kept.paired.remaining live remains).1 rfl
    rw [(unaffected other different).1, (unaffected other different).2]
    refine kept.silent other (running.imp_right ?_)
    exact fun ⟨otherID, remains⟩ => ⟨otherID, remains.1⟩
  · intro other earlier dead
    by_cases same : other = query
    · subst same
      obtain ⟨unheard, unresolved⟩ := kept.silent other (.inr ⟨queryID, live⟩)
      refine ⟨hasFuture, resolution.outcome, rest, ?_, ?_⟩
      · rw [outcomes_calls, unheard, if_pos rfl, first]
        rfl
      · rw [resolutions, unresolved, if_pos rfl]
        rfl
    · rw [(unaffected other same).1, (unaffected other same).2]
      refine kept.ended other earlier fun otherID onLedger => ?_
      exact dead otherID ⟨onLedger, fun equal => same (Prod.mk.inj equal).1⟩

/-- What the client tells keeps the invariant if the desk allows it. -/
theorem Kept.tell {told : Told Message} (kept : desk.Kept ledger)
    (recorded : Ledger.Step ledger told after) (allowed : desk.Allows told) :
    (desk.tell what told).Kept after := by
  cases recorded with
  | nothing => exact kept
  | declined queryID => exact kept.declined allowed
  | started queryID => exact kept.start allowed
  | goesOn query queryID calls live silent => exact kept.goesOn live silent
  | ends query queryID calls live terminal =>
      exact kept.ends live terminal (allowed.resolve_left terminal)

theorem getFuture_eq_some {query : Nat} (stepped : desk.getFuture query = some next) :
    ∃ queryID, (query, queryID) ∈ desk.waiting ∧
      desk.waiting.lookup query = some queryID := by
  unfold getFuture at stepped
  split at stepped
  · simp at stepped
  · next queryID found =>
      obtain ⟨before, rest, split, -⟩ := List.lookup_eq_some_iff.mp found
      exact ⟨queryID, by simp [split], found⟩

/-- The desk after a caller got its future. -/
def handed (desk : Desk Message) (query : Nat) (queryID : QueryID) (sent : Bool) :
    Desk Message :=
  { desk with
    delegate := { desk.delegate with
      newQueryID := 0
      pending := Function.update desk.delegate.pending queryID
        (some ⟨sent, some query⟩) }
    waiting := desk.waiting.filter fun caller => caller.1 ≠ query
    futures := desk.futures ++ [query] }

/-- A caller whose promise is the newest one gets its future. -/
theorem getFuture_returns {query : Nat} {queryID : QueryID} {sent : Bool}
    (waits : desk.waiting.lookup query = some queryID)
    (newest : desk.delegate.newQueryID = queryID)
    (found : desk.delegate.pending queryID = some ⟨sent, none⟩) :
    desk.getFuture query = some (desk.handed query queryID sent) := by
  simp [Desk.getFuture, Delegate.getFuture, waits, newest, found, handed]

theorem Kept.getFuture {query : Nat} (kept : desk.Kept ledger)
    (stepped : desk.getFuture query = some next) : next.Kept ledger := by
  obtain ⟨queryID, waiting, waits⟩ := getFuture_eq_some stepped
  obtain ⟨alone, live, newest, sent, found⟩ := kept.alone query queryID waiting
  rw [getFuture_returns waits newest found] at stepped
  obtain rfl := Option.some.inj stepped
  refine ⟨kept.paired, kept.started, ?_, ?_, ?_,
    kept.silent, ?_, kept.nothrow⟩
  · intro other otherID member
    simp [handed, alone] at member
  · intro other otherID onLedger
    refine .inr ?_
    rcases kept.held other otherID onLedger with also | ⟨returned, before, foundOther⟩
    · rw [alone, List.mem_singleton] at also
      obtain ⟨rfl, rfl⟩ := Prod.mk.inj also
      exact ⟨List.mem_append_right _ List.mem_cons_self, sent,
        Function.update_self _ _ _⟩
    · have different : otherID ≠ queryID := by
        rintro rfl
        exact absurd (found.symm.trans foundOther) (by simp)
      exact ⟨List.mem_append_left _ returned, before,
        (Function.update_of_ne different _ _).trans foundOther⟩
  · intro other otherID before foundOther
    by_cases same : otherID = queryID
    · subst same
      have equal := (Function.update_self _ _ _).symm.trans foundOther
      simp only [Option.some.injEq, Pending.mk.injEq] at equal
      exact equal.2 ▸ live
    · exact kept.holder other otherID before
        ((Function.update_of_ne same _ _).symm.trans foundOther)
  · intro other earlier dead
    obtain ⟨returned, rest⟩ := kept.ended other earlier dead
    exact ⟨List.mem_append_left _ returned, rest⟩

/-! ### Steps outside the condition -/

/-- A caller throws if its promise is gone, is not the newest one, or has given its
future away. -/
theorem getFuture_throws {query : Nat} {queryID : QueryID}
    (waits : desk.waiting.lookup query = some queryID)
    (bad : desk.delegate.pending queryID = none ∨
      desk.delegate.newQueryID ≠ queryID ∨
      ∃ sent holder, desk.delegate.pending queryID = some ⟨sent, some holder⟩) :
    ∃ next, desk.getFuture query = some next ∧ next.threw ≠ [] := by
  have refused : ∃ thrown, (desk.delegate.getFuture query queryID).1 =
      .error thrown := by
    unfold Delegate.getFuture
    split
    · exact ⟨_, rfl⟩
    · next pending found =>
        split
        · exact ⟨_, rfl⟩
        · next newest =>
            have given : ∃ holder, pending.holder = some holder := by
              rcases bad with gone | old | ⟨sent, holder, held⟩
              · simp [found] at gone
              · exact absurd (not_not.mp newest).symm old
              · rw [found] at held
                exact ⟨holder, congrArg Pending.holder (Option.some.inj held)⟩
            obtain ⟨holder, given⟩ := given
            exact ⟨.futureAlreadyRetrieved, by simp [given]⟩
  obtain ⟨thrown, refused⟩ := refused
  rw [Desk.getFuture, waits]
  simp only [refused]
  exact ⟨_, rfl, by simp⟩

/-- The callers that go on at once, in the order of the list, lead to a throw. -/
def Throws (desk : Desk Message) (callers : List Nat) : Prop :=
  ∃ next, run Desk.getFuture desk callers = some next ∧ next.threw ≠ []

theorem throws_of_bad {query : Nat} {queryID : QueryID}
    (waits : desk.waiting.lookup query = some queryID)
    (bad : desk.delegate.pending queryID = none ∨
      desk.delegate.newQueryID ≠ queryID ∨
      ∃ sent holder, desk.delegate.pending queryID = some ⟨sent, some holder⟩) :
    desk.Throws [query] := by
  obtain ⟨next, stepped, threw⟩ := getFuture_throws waits bad
  exact ⟨next, run_cons_eq_some.mpr ⟨next, stepped, rfl⟩, threw⟩

/-- A query that is started with the id of a query that waits shares its promise;
the second of the two callers throws. -/
theorem Kept.start_same {query : Nat} {queryID : QueryID} (kept : desk.Kept ledger)
    (waiting : (query, queryID) ∈ desk.waiting) :
    (desk.tell what (.started ledger.accepted queryID)).Throws
      [query, ledger.accepted] := by
  obtain ⟨alone, live, -, sent, found⟩ := kept.alone query queryID waiting
  have different : query ≠ ledger.accepted := Nat.ne_of_lt (kept.bounded _ _ live)
  let started := desk.tell what (.started ledger.accepted queryID)
  have first : started.getFuture query =
      some (started.handed query queryID sent) := by
    refine getFuture_returns ?_ rfl (Delegate.asyncPrep_of_some found)
    simp [started, Desk.tell, alone]
  have second : (started.handed query queryID sent).Throws [ledger.accepted] := by
    refine throws_of_bad ?_ (.inr (.inr ⟨sent, query, Function.update_self _ _ _⟩))
    simp [started, handed, Desk.tell, alone, different.symm]
  obtain ⟨next, rest, threw⟩ := second
  exact ⟨next, run_cons_eq_some.mpr ⟨_, first, rest⟩, threw⟩

/-- After a step that the desk does not allow, callers that go on at once can
throw. -/
theorem Kept.disturbed {told : Told Message} (kept : desk.Kept ledger)
    (recorded : Ledger.Step ledger told after) (disturbs : ¬desk.Allows told) :
    ∃ callers, (desk.tell what told).Throws callers := by
  cases recorded with
  | nothing => exact absurd trivial disturbs
  | declined queryID =>
      simp only [Allows, not_forall] at disturbs
      obtain ⟨⟨query, otherID⟩, waiting, different⟩ := disturbs
      obtain ⟨alone, -⟩ := kept.alone query otherID waiting
      refine ⟨[query], throws_of_bad ?_ (.inr (.inl (Ne.symm different)))⟩
      simp [Desk.tell, alone]
  | started queryID =>
      cases queue : desk.waiting with
      | nil =>
          have given : (desk.delegate.pending queryID).bind Pending.holder ≠ none :=
            fun free => disturbs ⟨queue, free⟩
          obtain ⟨holder, given⟩ := Option.ne_none_iff_exists'.mp given
          obtain ⟨⟨sent, _⟩, found, rfl⟩ := Option.bind_eq_some_iff.mp given
          refine ⟨[ledger.accepted], throws_of_bad ?_
            (.inr (.inr ⟨sent, holder, Delegate.asyncPrep_of_some found⟩))⟩
          simp [Desk.tell, queue]
      | cons caller rest =>
          obtain ⟨query, otherID⟩ := caller
          have waiting : (query, otherID) ∈ desk.waiting := by simp [queue]
          by_cases same : otherID = queryID
          · subst same
            exact ⟨_, kept.start_same waiting⟩
          · refine ⟨[query], throws_of_bad ?_ (.inr (.inl (Ne.symm same)))⟩
            simp [Desk.tell, queue]
  | goesOn query queryID calls live silent => exact absurd (.inl silent) disturbs
  | ends query queryID calls live terminal =>
      obtain ⟨-, waiting⟩ := not_or.mp disturbs
      rw [not_not] at waiting
      obtain ⟨⟨caller, otherID⟩, member, rfl⟩ := List.mem_map.mp waiting
      obtain ⟨alone, onLedger, -, sent, found⟩ := kept.alone caller otherID member
      obtain rfl := kept.id_unique caller otherID queryID onLedger live
      have served := Delegate.served_calls what found calls
      refine ⟨[caller], throws_of_bad ?_ (.inl (served.terminal terminal).1)⟩
      simp [Desk.tell, alone]

end Desk

/-! ## Runs of a box -/

namespace Box

variable {State : Type v} {Label : Type w} {client : Client State Label Message}
variable {invariant : State → Prop} {ledger : State → Ledger}

/-- The client's invariant, and that of the desk for the client's ledger. -/
structure Coherent (invariant : State → Prop) (ledger : State → Ledger)
    (box : Box State Message) : Prop where
  client : invariant box.client
  desk : box.toDesk.Kept (ledger box.client)

variable {box next : Box State Message}

theorem Coherent.step {label : BoxLabel Label} (keeps : client.Keeps invariant ledger)
    (coherent : box.Coherent invariant ledger)
    (undisturbed : Undisturbed client box label)
    (stepped : step client box label = some next) :
    next.Coherent invariant ledger := by
  cases label with
  | client label =>
      obtain ⟨state, moved, rfl⟩ := Option.map_eq_some_iff.mp stepped
      refine ⟨keeps.kept _ label state coherent.client moved, ?_⟩
      exact coherent.desk.tell (keeps.recorded _ label state coherent.client moved)
        undisturbed
  | getFuture query =>
      obtain ⟨desk, called, rfl⟩ := Option.map_eq_some_iff.mp stepped
      exact ⟨coherent.client, coherent.desk.getFuture called⟩

theorem run_getFuture (client : Client State Label Message) (state : State)
    {desk after : Desk Message} {callers : List Nat}
    (called : run Desk.getFuture desk callers = some after) :
    run (step client) ⟨desk, state⟩ (callers.map .getFuture) =
      some ⟨after, state⟩ := by
  induction callers generalizing desk with
  | nil =>
      obtain rfl := Option.some.inj called
      rfl
  | cons query callers ih =>
      obtain ⟨middle, stepped, rest⟩ := run_cons_eq_some.mp called
      refine run_cons_eq_some.mpr ⟨⟨middle, state⟩, ?_, ih rest⟩
      simp [step, stepped]

/-- In every run of undisturbed steps, every `request()` returns its own future; and
after a step that disturbs, callers that go on at once can break this. -/
theorem futures_of_keeps {initial final : Box State Message}
    {labels : List (BoxLabel Label)} (keeps : client.Keeps invariant ledger)
    (start : initial.Coherent invariant ledger)
    (undisturbed : Meets (step client) (Undisturbed client) initial labels)
    (reached : run (step client) initial labels = some final) :
    final.OwnFutures ∧ ∀ label next, ¬Undisturbed client final label →
      step client final label = some next → Endangered client next := by
  have coherent : final.Coherent invariant ledger := by
    refine invariant_of_run _ start ?_ undisturbed reached
    exact fun box label next before => before.step keeps
  refine ⟨coherent.desk.ownFutures, fun label next disturbs stepped => ?_⟩
  cases label with
  | client label =>
      obtain ⟨state, moved, rfl⟩ := Option.map_eq_some_iff.mp stepped
      have recorded := keeps.recorded _ label state coherent.client moved
      obtain ⟨callers, after, called, threw⟩ :=
        coherent.desk.disturbed recorded disturbs
      refine ⟨callers, ⟨after, state⟩, run_getFuture client state called, ?_⟩
      exact fun own => threw own.nothrow
  | getFuture query => exact absurd trivial disturbs

end Box

end Telling.Io
