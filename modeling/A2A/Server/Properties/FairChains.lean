import Mathlib.Data.List.Nodup
import A2A.Server.Semantics.ChainProgress

namespace A2A.Server

open Library

/-! The lock of `serializeByScope` is a fair mutex for each key. -/

namespace WriteLocks

variable {κ : Type w} {ν : Type u} {ε : Type v} {state next : WriteLocks κ ν ε}

/-- The function has not settled; it may not have been called either. -/
def Unsettled (state : WriteLocks κ ν ε) (id : Nat) : Prop := state.loop.outcome (.work id) = none

def Running (state : WriteLocks κ ν ε) (id : Nat) : Prop := id ∈ state.called ∧ state.Unsettled id

/-- Nothing is on the call stack, and no job is left. -/
def Idle (state : WriteLocks κ ν ε) : Prop := state.calling = none ∧ state.loop.jobs = []

/-- All that were submitted under the key before have settled, fulfilled or rejected. -/
def Foremost (state : WriteLocks κ ν ε) (id : Nat) (key : κ) : Prop :=
  keyAt state.submissions id = some key ∧
    ∀ earlier < id, keyAt state.submissions earlier = some key → ¬ state.Unsettled earlier

theorem Driven.work_of_next (driven : state.Driven) {id : Nat} (settled : state.loop.outcome (.next id) ≠ none) :
    ¬ state.Unsettled id := by
  obtain ⟨outcome, settles⟩ := Option.ne_none_iff_exists'.mp settled
  rw [Unsettled, driven.next id outcome settles]
  exact Option.some_ne_none outcome

theorem Consistent.foremost (consistent : state.Consistent) {key : κ} {id : Nat} (called : id ∈ state.called)
    (keyed : keyAt state.submissions id = some key) : state.Foremost id key :=
  ⟨keyed, fun _ before sameKey =>
    consistent.driven.work_of_next (consistent.chained.earlier_settled consistent.driven called keyed before sameKey)⟩

theorem Consistent.exclusive (consistent : state.Consistent) {key : κ} {first second : Nat}
    (firstKeyed : keyAt state.submissions first = some key) (secondKeyed : keyAt state.submissions second = some key)
    (firstRuns : state.Running first) (secondRuns : state.Running second) : first = second := by
  rcases Nat.lt_trichotomy first second with before | same | after
  · exact absurd firstRuns.2 ((consistent.foremost secondRuns.1 secondKeyed).2 first before firstKeyed)
  · exact same
  · exact absurd secondRuns.2 ((consistent.foremost firstRuns.1 firstKeyed).2 second after secondKeyed)

theorem Consistent.once (consistent : state.Consistent) : state.called.Nodup := by
  refine List.nodup_iff_count_le_one.mpr fun id => ?_
  by_cases called : id ∈ state.called
  · obtain ⟨prev, chain⟩ := Option.isSome_iff_exists.mp
      ((prevAt_length state.submissions id).mpr (consistent.chained.submitted id called))
    have counted := consistent.chained.once id prev chain
    omega
  · rw [List.count_eq_zero.mpr called]
    exact Nat.zero_le 1

theorem Consistent.next_settled (consistent : state.Consistent) (idle : state.Idle) {id : Nat}
    (settled : ¬ state.Unsettled id) : state.loop.outcome (.next id) ≠ none := by
  rcases consistent.driven.nextSettles id (consistent.driven.work id settled) with calling | follows | reacts | done
  · exact nomatch idle.1.symm.trans calling
  · rw [EventLoop.followings, idle.2] at follows
    exact absurd follows (Nat.lt_irrefl 0)
  · exact absurd (EventLoop.pending_of_outstanding idle.2 reacts) settled
  · exact done

theorem Consistent.called_of_foremost (consistent : state.Consistent) (idle : state.Idle) {key : κ} {id : Nat}
    (foremost : state.Foremost id key) : id ∈ state.called := by
  obtain ⟨keyed, earlier⟩ := foremost
  have submitted := (keyAt_length state.submissions id).mp (by rw [keyed]; rfl)
  obtain ⟨prev, chain⟩ := Option.isSome_iff_exists.mp ((prevAt_length state.submissions id).mpr submitted)
  by_contra uncalled
  have counted := consistent.chained.once id prev chain
  rw [List.count_eq_zero.mpr uncalled, Nat.add_zero] at counted
  have waits := EventLoop.pending_of_outstanding idle.2 (counted ▸ Nat.zero_lt_one)
  by_cases fresh : prev = .resolved
  · exact consistent.wired.resolved (fresh ▸ waits)
  · obtain ⟨last, before, rfl, lastKeyed, -⟩ := consistent.chained.behind id prev key chain keyed fresh
    exact consistent.next_settled idle (earlier last before lastKeyed) waits

theorem Consistent.answered (consistent : state.Consistent) (idle : state.Idle) {id : Nat} {outcome : Settlement ν ε}
    (settled : state.loop.outcome (.work id) = some outcome) :
    state.loop.outcome (.returned id) = some outcome := by
  have known : ¬ state.Unsettled id := by simp [Unsettled, settled]
  have next := consistent.next_settled idle known
  have submitted := consistent.chained.submitted id (consistent.driven.work id known)
  cases returned : state.loop.outcome (.returned id) with
  | some given =>
      rw [← settled, consistent.driven.next id given (consistent.driven.returned id given returned)]
  | none =>
      rcases consistent.driven.returnedSettles id submitted with follows | reacts | done
      · rw [EventLoop.followings, idle.2] at follows
        exact absurd follows (Nat.lt_irrefl 0)
      · exact absurd (EventLoop.pending_of_outstanding idle.2 reacts) next
      · exact absurd returned done

theorem Consistent.entries (consistent : state.Consistent) (idle : state.Idle) (key : κ) :
    state.taskWriteLocks key ≠ none ↔ ∃ id, keyAt state.submissions id = some key ∧ state.Unsettled id := by
  constructor
  · intro held
    obtain ⟨promise, holds⟩ := Option.ne_none_iff_exists'.mp held
    obtain ⟨last, rfl, keyed, remains, -⟩ := consistent.chained.locked key promise holds
    refine ⟨last, keyed, ?_⟩
    by_contra settled
    have submitted := (keyAt_length state.submissions last).mp (by rw [keyed]; rfl)
    have waits := consistent.driven.evicts last submitted remains
    exact consistent.next_settled idle settled (EventLoop.pending_of_outstanding idle.2 waits)
  · rintro ⟨id, keyed, unsettled⟩ free
    exact consistent.driven.work_of_next (consistent.chained.free key free id keyed) unsettled

/-- The functions of a key are called in the order of their submission. -/
def CalledInOrder (state : WriteLocks κ ν ε) : Prop :=
  state.called.Pairwise (fun earlier later => ∀ key, keyAt state.submissions earlier = some key →
    keyAt state.submissions later = some key → earlier < later)

/-- What is called has no later submission of its key before it. -/
theorem CalledInOrder.called {id : Nat} (ordered : state.CalledInOrder) (consistent : state.Consistent)
    {source : LockPromise} (chain : prevAt state.submissions id = some source)
    (waits : 0 < state.loop.outstanding source (.handle (.fn id))) :
    (state.called ++ [id]).Pairwise (fun earlier later => ∀ key, keyAt state.submissions earlier = some key →
      keyAt state.submissions later = some key → earlier < later) := by
  have counted := consistent.chained.once id source chain
  have uncalled : id ∉ state.called := List.count_eq_zero.mp (by omega)
  refine List.pairwise_append.mpr ⟨ordered, List.pairwise_singleton _ id, fun other called last listed key => ?_⟩
  cases List.mem_singleton.mp listed
  intro otherKeyed keyed
  rcases Nat.lt_trichotomy other id with before | rfl | after
  · exact before
  · exact absurd called uncalled
  · have settled := (consistent.foremost called otherKeyed).2 id after keyed
    exact absurd (consistent.driven.work id settled) uncalled

variable [DecidableEq κ]

/-- A run of the event loop by itself. -/
abbrev JobRun (state : WriteLocks κ ν ε) (labels : List (LockAction κ ν ε)) (after : WriteLocks κ ν ε) : Prop :=
  (lockSystem κ ν ε).Runs (fun _ label => label.isJob = true) state labels after

structure FairMutex (state : WriteLocks κ ν ε) : Prop where
  exclusive : ∀ key first second, keyAt state.submissions first = some key →
    keyAt state.submissions second = some key → state.Running first → state.Running second → first = second
  once : state.called.Nodup
  inOrder : state.CalledInOrder
  foremost : ∀ key, ∀ id ∈ state.called, keyAt state.submissions id = some key → state.Foremost id key
  /-- The jobs end, whatever the functions do that they call; by then the next function has been called. -/
  ends : ∃ bound, ∀ labels after, state.JobRun labels after → labels.length ≤ bound
  unblocked : ∀ key id, state.Foremost id key → ∀ labels after, state.JobRun labels after →
    (∀ label : LockAction κ ν ε, label.isJob = true → after.step label = none) → id ∈ after.called
  /-- The caller gets what its own function settles with, at the latest when the jobs are done. -/
  own : ∀ id outcome, state.loop.outcome (.returned id) = some outcome → state.loop.outcome (.work id) = some outcome
  answered : state.Idle → ∀ id outcome, state.loop.outcome (.work id) = some outcome →
    state.loop.outcome (.returned id) = some outcome
  held : ∀ key id, keyAt state.submissions id = some key → state.Unsettled id → state.taskWriteLocks key ≠ none
  /-- An entry is there up to the eviction job of a function under its key, which comes after its settlement. -/
  kept : ∀ key, state.taskWriteLocks key ≠ none →
    ∃ id, keyAt state.submissions id = some key ∧ id ∉ state.evicted
  evicted : ∀ id ∈ state.evicted, ¬ state.Unsettled id
  entries : state.Idle → ∀ key, state.taskWriteLocks key ≠ none ↔
    ∃ id, keyAt state.submissions id = some key ∧ state.Unsettled id

theorem Consistent.unblocked (consistent : state.Consistent) {key : κ} {id : Nat} (foremost : state.Foremost id key)
    {labels : List (LockAction κ ν ε)} {after : WriteLocks κ ν ε} (runs : state.JobRun labels after)
    (stuck : ∀ label : LockAction κ ν ε, label.isJob = true → after.step label = none) : id ∈ after.called := by
  have behind := consistent.behind runs
  have still : after.Foremost id key := by
    refine ⟨by rw [behind.submissions]; exact foremost.1, fun earlier before sameKey => ?_⟩
    rw [behind.submissions] at sameKey
    exact behind.outcomes _ (foremost.2 earlier before sameKey)
  exact behind.consistent.called_of_foremost (idle_of_stuck stuck) still

theorem CalledInOrder.step (ordered : state.CalledInOrder) (consistent : state.Consistent)
    {action : LockAction κ ν ε} (stepped : state.step action = some next) : next.CalledInOrder := by
  cases action with
  | submit key =>
      cases stepped
      refine List.Pairwise.imp_of_mem (fun {earlier later} calledEarlier calledLater order name => ?_) ordered
      have submitted := consistent.chained.submitted earlier calledEarlier
      have laterSubmitted := consistent.chained.submitted later calledLater
      simp only [serializeByScope, keyAt_concat, if_neg (Nat.ne_of_lt submitted), if_neg (Nat.ne_of_lt laterSubmitted)]
      exact order name
  | turn =>
      obtain ⟨-, submissions, handler, turned, effect⟩ := turn_eq_some stepped
      unfold CalledInOrder
      rw [submissions]
      cases turned with
      | follow => rw [effect]; exact ordered
      | settle => rw [effect]; exact ordered
      | handle source handler listed =>
          cases handler with
          | fn id => rw [effect]; exact ordered.called consistent (consistent.wired.fn source id listed) listed
          | evict id => rw [effect, (evict_frame _ id).2.2.1]; exact ordered
  | leave thrown =>
      obtain ⟨id, -, rfl | ⟨error, -, rfl⟩⟩ := leave_cases stepped
      · exact ordered
      · exact ordered
  | complete id outcome =>
      obtain ⟨-, -, rfl⟩ := complete_eq_some stepped
      exact ordered

/-- The lock is a fair mutex in every state of every run. -/
theorem writeLocks_fair {labels : List (LockAction κ ν ε)} {state : WriteLocks κ ν ε}
    (runs : (lockSystem κ ν ε).Reaches .initial labels state) : state.FairMutex := by
  obtain ⟨consistent, ordered⟩ := runs.invariant (fun state => state.Consistent ∧ state.CalledInOrder)
    ⟨.initial, .nil⟩ (fun holds _ stepped => ⟨holds.1.step stepped, holds.2.step holds.1 stepped⟩)
  exact {
    exclusive := fun _ _ _ => consistent.exclusive
    once := consistent.once
    inOrder := ordered
    foremost := fun _ _ => consistent.foremost
    own := fun id outcome returned => consistent.driven.next id outcome (consistent.driven.returned id outcome returned)
    held := fun key id keyed unsettled free =>
      consistent.driven.work_of_next (consistent.chained.free key free id keyed) unsettled
    kept := fun key held => by
      obtain ⟨promise, holds⟩ := Option.ne_none_iff_exists'.mp held
      obtain ⟨last, -, keyed, remains, -⟩ := consistent.chained.locked key promise holds
      exact ⟨last, keyed, remains⟩
    evicted := fun id gone => consistent.driven.work_of_next (consistent.driven.evicted id gone)
    ends := ⟨state.allRemaining, fun labels after runs => by
      have counted := (consistent.behind runs).counted
      omega⟩
    unblocked := fun _ _ foremost _ _ => consistent.unblocked foremost
    answered := fun idle _ _ => consistent.answered idle
    entries := consistent.entries }

/-- Two functions under one key, the first of which rejects. -/
def rejectionRun : List (LockAction String Unit String) :=
  [.submit "task", .submit "task", .turn, .leave none, .complete 0 (.rejected "conflict"), .turn, .turn, .turn, .turn,
    .turn, .turn]

theorem writeLocks_fair_rejection :
    ∃ state, (lockSystem String Unit String).run .initial rejectionRun = some state ∧ state.called = [0, 1] ∧
      state.FairMutex := by
  obtain ⟨state, completed⟩ : ∃ state, (lockSystem String Unit String).run .initial rejectionRun = some state :=
    ⟨_, rfl⟩
  have called : ((lockSystem String Unit String).run .initial rejectionRun).map WriteLocks.called = some [0, 1] := by
    decide +kernel
  rw [completed] at called
  exact ⟨state, completed, Option.some.inj called, writeLocks_fair (System.reaches_of_run completed)⟩

end WriteLocks

end A2A.Server
