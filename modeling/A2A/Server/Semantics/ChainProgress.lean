import Mathlib.Algebra.Order.BigOperators.Group.Finset
import A2A.Server.Semantics.ChainTurns

namespace A2A.Server

open Library

/-! The jobs of the chains come to an end unless something new is submitted or settles.

Every turn brings one submission nearer to the moment when nothing is left to do
for it; `remaining` counts what is.
-/

namespace WriteLocks

variable {κ : Type w} {ν : Type u} {ε : Type v} {state next : WriteLocks κ ν ε}

/-- A bound on the turns that a submission still takes; giving back a promise counts as one. -/
def remaining (state : WriteLocks κ ν ε) (id : Nat) : Nat :=
  (if id ∈ state.called then 0 else 4) + (if state.calling = some id then 3 else 0) +
    2 * state.loop.followings (.next id) (.work id) + state.loop.outstanding (.work id) (.settle (.next id)) +
    2 * state.loop.followings (.returned id) (.next id) +
    state.loop.outstanding (.next id) (.settle (.returned id)) +
    state.loop.outstanding (.next id) (.handle (.evict id))

def allRemaining (state : WriteLocks κ ν ε) : Nat := ∑ id ∈ Finset.range state.submissions.length, state.remaining id

theorem allRemaining_lt {id : Nat} (submissions : next.submissions = state.submissions)
    (submitted : id < state.submissions.length) (nearer : next.remaining id < state.remaining id)
    (others : ∀ other, other ≠ id → next.remaining other ≤ state.remaining other) :
    next.allRemaining < state.allRemaining := by
  unfold allRemaining
  rw [submissions]
  refine Finset.sum_lt_sum (fun other _ => ?_) ⟨id, Finset.mem_range.mpr submitted, nearer⟩
  by_cases same : other = id
  · exact same ▸ Nat.le_of_lt nearer
  · exact others other same

/-- The end of a call: nothing settles that has been, and no chain changes. -/
theorem leave_remaining {thrown : Option ε} (consistent : state.Consistent) (left : state.leave thrown = some next) :
    next.allRemaining < state.allRemaining := by
  obtain ⟨id, calling, ended⟩ := leave_cases left
  have submitted := consistent.chained.submitted id (consistent.driven.calling id calling)
  rcases ended with rfl | ⟨error, -, rfl⟩
  · refine allRemaining_lt rfl submitted ?_ fun other differ => ?_
    · simp [remaining, calling]
      omega
    · simp [remaining, calling, differ, Ne.symm differ]
  · refine allRemaining_lt rfl submitted ?_ fun other differ => ?_
    · simp [remaining, calling]
    · simp [remaining, calling, Ne.symm differ]

theorem leave_outcomes {thrown : Option ε} (left : state.leave thrown = some next) :
    next.submissions = state.submissions ∧
      ∀ promise, state.loop.outcome promise ≠ none → next.loop.outcome promise ≠ none := by
  obtain ⟨id, -, rfl | ⟨error, -, rfl⟩⟩ := leave_cases left
  · exact ⟨rfl, fun _ settled => settled⟩
  · exact ⟨rfl, fun _ settled => settled_mono _ (settled_mono _ settled)⟩

variable [DecidableEq κ]

theorem turn_remaining (consistent : state.Consistent) (taken : state.turn = some next) :
    next.allRemaining < state.allRemaining := by
  obtain ⟨idle, submissions, handler, turned, effect⟩ := turn_eq_some taken
  cases turned with
  | follow target source listed outcomes reactions follows =>
      obtain ⟨id, submitted, wires⟩ := consistent.wired.follow target source listed
      generalize next.loop = loop at *
      subst effect
      rcases wires with ⟨rfl, rfl⟩ | ⟨rfl, rfl⟩
      · refine allRemaining_lt rfl submitted ?_ fun other differ => ?_
        · simp [remaining, reactions, follows]
          omega
        · simp [remaining, reactions, follows, differ]
      · refine allRemaining_lt rfl submitted ?_ fun other differ => ?_
        · simp [remaining, reactions, follows]
          omega
        · simp [remaining, reactions, follows, differ]
  | settle source target outcome listed settled outcomes reactions follows =>
      obtain ⟨id, submitted, wires⟩ := consistent.wired.settle source target listed
      generalize next.loop = loop at *
      subst effect
      rcases wires with ⟨rfl, rfl⟩ | ⟨rfl, rfl⟩
      · refine allRemaining_lt rfl submitted ?_ fun other differ => ?_
        · simp [remaining, reactions, follows]
        · simp [remaining, reactions, follows, differ]
      · refine allRemaining_lt rfl submitted ?_ fun other differ => ?_
        · simp [remaining, reactions, follows]
        · simp [remaining, reactions, follows, differ]
  | handle source handler listed settled outcomes reactions follows =>
      cases handler with
      | fn id =>
          have chain := consistent.wired.fn source id listed
          have submitted := (prevAt_length state.submissions id).mp (by rw [chain]; rfl)
          have uncalled : id ∉ state.called := by
            have counted := consistent.chained.once id source chain
            exact List.count_eq_zero.mp (by omega)
          dsimp only at effect
          generalize next.loop = loop at *
          subst effect
          refine allRemaining_lt rfl submitted ?_ fun other differ => ?_
          · simp [remaining, reactions, follows, uncalled, idle]
          · simp [remaining, reactions, follows, differ, Ne.symm differ, idle]
      | evict id =>
          obtain ⟨rfl, submitted⟩ := consistent.wired.evict source id listed
          obtain ⟨key, keyed⟩ := Option.isSome_iff_exists.mp ((keyAt_length _ _).mpr submitted)
          replace effect := effect.trans (evict_eq keyed)
          generalize next.loop = loop at *
          subst effect
          refine allRemaining_lt rfl submitted ?_ fun other differ => ?_
          · simp [remaining, reactions, follows]
          · simp [remaining, reactions, follows, differ]

theorem turn_outcomes (taken : state.turn = some next) {promise : LockPromise}
    (settled : state.loop.outcome promise ≠ none) : next.loop.outcome promise ≠ none := by
  obtain ⟨-, -, handler, turned, -⟩ := turn_eq_some taken
  cases turned with
  | follow target source listed outcomes => rwa [outcomes]
  | settle source target outcome listed known outcomes =>
      have after := outcomes promise
      grind
  | handle source handler listed known outcomes => rwa [outcomes]

theorem turn_of_jobs (idle : state.calling = none) (queued : state.loop.jobs ≠ []) :
    ∃ next, state.turn = some next := by
  obtain ⟨⟨loop, handler⟩, taken⟩ := EventLoop.next_of_jobs queued
  unfold turn
  rw [idle, if_neg (by simp), taken]
  cases handler with
  | none => exact ⟨_, rfl⟩
  | some handler =>
      cases handler with
      | fn id => exact ⟨_, rfl⟩
      | evict id => exact ⟨_, rfl⟩

/-- What some jobs have led to. -/
structure Behind (state : WriteLocks κ ν ε) (turns : Nat) (after : WriteLocks κ ν ε) : Prop where
  consistent : after.Consistent
  counted : turns + after.allRemaining ≤ state.allRemaining
  submissions : after.submissions = state.submissions
  outcomes : ∀ promise, state.loop.outcome promise ≠ none → after.loop.outcome promise ≠ none

theorem Consistent.behind {labels : List (LockAction κ ν ε)} {after : WriteLocks κ ν ε}
    (consistent : state.Consistent)
    (runs : (lockSystem κ ν ε).Runs (fun _ label => label.isJob = true) state labels after) :
    state.Behind labels.length after := by
  refine runs.history (fun labels after => state.Behind labels.length after)
    ⟨consistent, by simp, rfl, fun _ settled => settled⟩ fun {labels middle label next} before job stepped => ?_
  have kept := before.consistent.step stepped
  have counted := before.counted
  rw [List.length_append, List.length_singleton]
  cases label with
  | submit key => exact nomatch job
  | complete id outcome => exact nomatch job
  | turn =>
      have fewer := turn_remaining before.consistent stepped
      exact {
        consistent := kept
        counted := by omega
        submissions := (turn_eq_some stepped).2.1.trans before.submissions
        outcomes := fun promise settled => turn_outcomes stepped (before.outcomes promise settled) }
  | leave thrown =>
      have fewer := leave_remaining before.consistent stepped
      obtain ⟨submissions, outcomes⟩ := leave_outcomes stepped
      exact {
        consistent := kept
        counted := by omega
        submissions := submissions.trans before.submissions
        outcomes := fun promise settled => outcomes promise (before.outcomes promise settled) }

/-- Nothing but a call or a job is left to wait for. -/
theorem idle_of_stuck (stuck : ∀ label : LockAction κ ν ε, label.isJob = true → state.step label = none) :
    state.calling = none ∧ state.loop.jobs = [] := by
  cases calling : state.calling with
  | some id =>
      have left := stuck (.leave none) rfl
      unfold step leave at left
      rw [calling] at left
      exact nomatch left
  | none =>
      refine ⟨rfl, ?_⟩
      by_contra queued
      obtain ⟨next, taken⟩ := turn_of_jobs calling queued
      exact nomatch (stuck .turn rfl).symm.trans taken

end WriteLocks

end A2A.Server
