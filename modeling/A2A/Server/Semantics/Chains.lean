import A2A.Server.WriteLocks

namespace A2A.Server

open Library

/-! The chains of `serializeByScope`, and who is to wake whom in them. -/

namespace WriteLocks

variable {κ : Type w} {ν : Type u} {ε : Type v} {state next : WriteLocks κ ν ε}

def keyAt (submissions : List (Submission κ)) (id : Nat) : Option κ := submissions[id]?.map Submission.key

def prevAt (submissions : List (Submission κ)) (id : Nat) : Option LockPromise := submissions[id]?.map Submission.prev

theorem keyAt_concat (submissions : List (Submission κ)) (submission : Submission κ) (id : Nat) :
    keyAt (submissions ++ [submission]) id =
      if id = submissions.length then some submission.key else keyAt submissions id := by
  unfold keyAt
  grind

theorem prevAt_concat (submissions : List (Submission κ)) (submission : Submission κ) (id : Nat) :
    prevAt (submissions ++ [submission]) id =
      if id = submissions.length then some submission.prev else prevAt submissions id := by
  unfold prevAt
  grind

theorem keyAt_length (submissions : List (Submission κ)) (id : Nat) :
    (keyAt submissions id).isSome = true ↔ id < submissions.length := by
  simp [keyAt]

theorem prevAt_length (submissions : List (Submission κ)) (id : Nat) :
    (prevAt submissions id).isSome = true ↔ id < submissions.length := by
  simp [prevAt]

/-- Every reaction that is still to run was registered by the submission it is about. -/
structure Wired (state : WriteLocks κ ν ε) : Prop where
  resolved : state.loop.outcome .resolved ≠ none
  fn : ∀ promise id, 0 < state.loop.outstanding promise (.handle (.fn id)) →
    prevAt state.submissions id = some promise
  evict : ∀ promise id, 0 < state.loop.outstanding promise (.handle (.evict id)) →
    promise = .next id ∧ id < state.submissions.length
  settle : ∀ promise target, 0 < state.loop.outstanding promise (.settle target) →
    ∃ id < state.submissions.length, promise = .work id ∧ target = .next id ∨ promise = .next id ∧ target = .returned id
  follow : ∀ target source, 0 < state.loop.followings target source →
    ∃ id < state.submissions.length, target = .next id ∧ source = .work id ∨ target = .returned id ∧ source = .next id

/-- The promises of a submission settle alike, and something is under way for each that has not. -/
structure Driven (state : WriteLocks κ ν ε) : Prop where
  next : ∀ id outcome, state.loop.outcome (.next id) = some outcome → state.loop.outcome (.work id) = some outcome
  returned : ∀ id outcome, state.loop.outcome (.returned id) = some outcome →
    state.loop.outcome (.next id) = some outcome
  work : ∀ id, state.loop.outcome (.work id) ≠ none → id ∈ state.called
  calling : ∀ id, state.calling = some id → id ∈ state.called
  nextSettles : ∀ id ∈ state.called,
    state.calling = some id ∨ 0 < state.loop.followings (.next id) (.work id) ∨
      0 < state.loop.outstanding (.work id) (.settle (.next id)) ∨ state.loop.outcome (.next id) ≠ none
  returnedSettles : ∀ id < state.submissions.length,
    0 < state.loop.followings (.returned id) (.next id) ∨
      0 < state.loop.outstanding (.next id) (.settle (.returned id)) ∨ state.loop.outcome (.returned id) ≠ none
  evicts : ∀ id < state.submissions.length, id ∉ state.evicted →
    0 < state.loop.outstanding (.next id) (.handle (.evict id))
  evicted : ∀ id ∈ state.evicted, state.loop.outcome (.next id) ≠ none

/-- Each submission is chained behind the last one of its key, unless there is none to wait for. -/
structure Chained (state : WriteLocks κ ν ε) : Prop where
  submitted : ∀ id ∈ state.called, id < state.submissions.length
  once : ∀ id prev, prevAt state.submissions id = some prev →
    state.loop.outstanding prev (.handle (.fn id)) + state.called.count id = 1
  ready : ∀ id ∈ state.called, ∀ prev, prevAt state.submissions id = some prev → state.loop.outcome prev ≠ none
  first : ∀ id key, prevAt state.submissions id = some .resolved → keyAt state.submissions id = some key →
    ∀ earlier < id, keyAt state.submissions earlier = some key → state.loop.outcome (.next earlier) ≠ none
  behind : ∀ id prev key, prevAt state.submissions id = some prev → keyAt state.submissions id = some key →
    prev ≠ .resolved → ∃ before < id, prev = .next before ∧ keyAt state.submissions before = some key ∧
      ∀ earlier < id, keyAt state.submissions earlier = some key → earlier ≤ before
  locked : ∀ key promise, state.taskWriteLocks key = some promise →
    ∃ last, promise = .next last ∧ keyAt state.submissions last = some key ∧ last ∉ state.evicted ∧
      ∀ id, keyAt state.submissions id = some key → id ≤ last
  free : ∀ key, state.taskWriteLocks key = none → ∀ id, keyAt state.submissions id = some key →
    state.loop.outcome (.next id) ≠ none

theorem outstanding_initial (promise : LockPromise) (reaction : Reaction LockPromise LockHandler) :
    (initial : WriteLocks κ ν ε).loop.outstanding promise reaction = 0 := by
  cases promise <;> rfl

theorem Wired.initial : (initial : WriteLocks κ ν ε).Wired where
  resolved := Option.some_ne_none _
  fn promise id waits := absurd waits (by simp [outstanding_initial])
  evict promise id waits := absurd waits (by simp [outstanding_initial])
  settle promise target waits := absurd waits (by simp [outstanding_initial])
  follow target source waits := absurd waits (Nat.lt_irrefl 0)

theorem Driven.initial : (initial : WriteLocks κ ν ε).Driven where
  next _ _ settles := nomatch settles
  returned _ _ settles := nomatch settles
  work _ settles := absurd rfl settles
  calling _ calls := nomatch calls
  nextSettles _ called := nomatch called
  returnedSettles _ submitted := absurd submitted (Nat.not_lt_zero _)
  evicts _ submitted := absurd submitted (Nat.not_lt_zero _)
  evicted _ gone := nomatch gone

theorem Chained.initial : (initial : WriteLocks κ ν ε).Chained where
  submitted _ called := nomatch called
  once _ _ chain := nomatch chain
  ready _ called := nomatch called
  first _ _ chain := nomatch chain
  behind _ _ _ chain := nomatch chain
  locked _ _ holds := nomatch holds
  free _ _ _ keyed := nomatch keyed

/-- Everything that holds of the chains at any moment. -/
structure Consistent (state : WriteLocks κ ν ε) : Prop where
  wired : state.Wired
  driven : state.Driven
  chained : state.Chained

theorem Consistent.initial : (initial : WriteLocks κ ν ε).Consistent where
  wired := .initial
  driven := .initial
  chained := .initial

/-- A function is called before anything of its submission settles. -/
theorem Driven.called_of_next (driven : state.Driven) {id : Nat} (settled : state.loop.outcome (.next id) ≠ none) :
    id ∈ state.called := by
  obtain ⟨outcome, settles⟩ := Option.ne_none_iff_exists'.mp settled
  exact driven.work id (by simp [driven.next id outcome settles])

/-- A function that has been called has nothing before it in its chain that has not settled. -/
theorem Chained.earlier_settled (chained : state.Chained) (driven : state.Driven) {key : κ} {id : Nat}
    (called : id ∈ state.called) (keyed : keyAt state.submissions id = some key) {earlier : Nat} (before : earlier < id)
    (sameKey : keyAt state.submissions earlier = some key) : state.loop.outcome (.next earlier) ≠ none := by
  induction id using Nat.strongRecOn with
  | ind id ih =>
      obtain ⟨prev, chain⟩ := Option.isSome_iff_exists.mp
        ((prevAt_length state.submissions id).mpr (chained.submitted id called))
      have settled := chained.ready id called prev chain
      by_cases fresh : prev = .resolved
      · exact chained.first id key (fresh ▸ chain) keyed earlier before sameKey
      · obtain ⟨last, lastBefore, rfl, lastKeyed, newest⟩ := chained.behind id prev key chain keyed fresh
        rcases Nat.lt_or_eq_of_le (newest earlier before sameKey) with further | rfl
        · exact ih last lastBefore (driven.called_of_next settled) lastKeyed further
        · exact settled

/-- What is still to run has been registered before. -/
theorem Wired.of_fewer (wired : state.Wired) (submissions : next.submissions = state.submissions)
    (resolved : next.loop.outcome .resolved ≠ none)
    (reactions : ∀ promise reaction, next.loop.outstanding promise reaction ≤ state.loop.outstanding promise reaction)
    (follows : ∀ target source, next.loop.followings target source ≤ state.loop.followings target source) :
    next.Wired where
  resolved
  fn promise id waits := by
    rw [submissions]
    exact wired.fn promise id (Nat.lt_of_lt_of_le waits (reactions _ _))
  evict promise id waits := by
    rw [submissions]
    exact wired.evict promise id (Nat.lt_of_lt_of_le waits (reactions _ _))
  settle promise target waits := by
    rw [submissions]
    exact wired.settle promise target (Nat.lt_of_lt_of_le waits (reactions _ _))
  follow target source waits := by
    rw [submissions]
    exact wired.follow target source (Nat.lt_of_lt_of_le waits (follows _ _))

/-- A handler leaves every promise and all that is still to settle one as it is. -/
theorem Driven.handled (driven : state.Driven) {source : LockPromise} {handler : LockHandler}
    (outcomes : ∀ promise, next.loop.outcome promise = state.loop.outcome promise)
    (reactions : ∀ promise reaction, state.loop.outstanding promise reaction =
      next.loop.outstanding promise reaction + if promise = source ∧ reaction = .handle handler then 1 else 0)
    (follows : ∀ target source, next.loop.followings target source = state.loop.followings target source)
    (submissions : next.submissions = state.submissions) (stays : ∀ id ∈ state.called, id ∈ next.called)
    (calling : ∀ id, next.calling = some id → id ∈ next.called)
    (called : ∀ id ∈ next.called,
      (id ∈ state.called ∧ (state.calling = some id → next.calling = some id)) ∨ next.calling = some id)
    (remains : ∀ id, id ∉ next.evicted → id ∉ state.evicted ∧ handler ≠ .evict id)
    (evicted : ∀ id ∈ next.evicted, id ∈ state.evicted ∨ state.loop.outcome (.next id) ≠ none) : next.Driven where
  next id outcome := by simpa only [outcomes] using driven.next id outcome
  returned id outcome := by simpa only [outcomes] using driven.returned id outcome
  work id settles := stays id (driven.work id (outcomes (.work id) ▸ settles))
  calling
  nextSettles id calls := by
    rcases called id calls with ⟨before, still⟩ | now
    · have earlier := driven.nextSettles id before
      rw [reactions] at earlier
      simpa [outcomes, follows] using earlier.imp_left still
    · exact .inl now
  returnedSettles id submitted := by
    have earlier := driven.returnedSettles id (submissions ▸ submitted)
    rw [reactions] at earlier
    simpa [outcomes, follows] using earlier
  evicts id submitted keeps := by
    obtain ⟨before, differs⟩ := remains id keeps
    have earlier := driven.evicts id (submissions ▸ submitted) before
    rw [reactions] at earlier
    simpa [Ne.symm differs] using earlier
  evicted id gone := by
    rw [outcomes]
    exact (evicted id gone).elim (driven.evicted id) fun settles => settles

/-- The chains themselves only know of the functions that are called, the keys that are freed, and
the promises that settle. -/
theorem Chained.of_later (chained : state.Chained) (submissions : next.submissions = state.submissions)
    (called : next.called = state.called) (outcomes : ∀ promise, state.loop.outcome promise ≠ none →
      next.loop.outcome promise ≠ none)
    (reactions : ∀ promise id, next.loop.outstanding promise (.handle (.fn id)) =
      state.loop.outstanding promise (.handle (.fn id)))
    (locks : next.taskWriteLocks = state.taskWriteLocks) (evicted : next.evicted = state.evicted) : next.Chained where
  submitted := by rw [submissions, called]; exact chained.submitted
  once id prev := by rw [submissions, called, reactions]; exact chained.once id prev
  ready id calls prev chain := by
    rw [called] at calls
    rw [submissions] at chain
    exact outcomes prev (chained.ready id calls prev chain)
  first id key chain keyed earlier before sameKey := by
    rw [submissions] at chain keyed sameKey
    exact outcomes _ (chained.first id key chain keyed earlier before sameKey)
  behind := by rw [submissions]; exact chained.behind
  locked := by rw [submissions, locks, evicted]; exact chained.locked
  free key unlocked id keyed := by
    rw [locks] at unlocked
    rw [submissions] at keyed
    exact outcomes _ (chained.free key unlocked id keyed)

section Settling

theorem settled_mono {loop : EventLoop LockPromise LockHandler (Settlement ν ε)} {target promise : LockPromise}
    (outcome : Settlement ν ε) (settled : loop.outcome promise ≠ none) :
    (loop.settle target outcome).outcome promise ≠ none := by
  by_cases pending : loop.outcome target = none
  · rw [EventLoop.outcome_settle pending]
    split
    · exact Option.some_ne_none _
    · exact settled
  · rwa [EventLoop.settle_of_settled pending]

/-- At the end of a call its function has given back a promise, or has thrown. -/
theorem leave_cases {thrown : Option ε} (left : state.leave thrown = some next) :
    ∃ id, state.calling = some id ∧
      (next = { state with loop := state.loop.follow (.next id) (.work id), calling := none } ∨
        ∃ error, state.loop.outcome (.work id) = none ∧
          next = {
            state with
            loop := (state.loop.settle (.work id) (.rejected error)).settle (.next id) (.rejected error)
            calling := none }) := by
  unfold leave at left
  split at left
  · exact nomatch left
  · rename_i id calling
    exact ⟨id, calling, .inl (Option.some.inj left).symm⟩
  · rename_i id error calling
    split at left
    · exact nomatch left
    · rename_i working
      exact ⟨id, calling, .inr ⟨error, by simpa using working, (Option.some.inj left).symm⟩⟩

theorem Wired.leave {thrown : Option ε} (wired : state.Wired)
    (submitted : ∀ id, state.calling = some id → id < state.submissions.length)
    (left : state.leave thrown = some next) : next.Wired := by
  obtain ⟨id, calling, rfl | ⟨error, -, rfl⟩⟩ := leave_cases left
  · exact {
      resolved := wired.resolved
      fn := fun promise other waits => wired.fn promise other (by simpa using waits)
      evict := fun promise other waits => wired.evict promise other (by simpa using waits)
      settle := fun promise other waits => wired.settle promise other (by simpa using waits)
      follow := fun target source waits => by
        have earlier := wired.follow target source
        have calls := submitted id calling
        simp at waits
        grind }
  · exact wired.of_fewer rfl (settled_mono _ (settled_mono _ wired.resolved)) (by simp) (by simp)

theorem Driven.leave {thrown : Option ε} (driven : state.Driven) (left : state.leave thrown = some next) :
    next.Driven := by
  obtain ⟨id, calling, rfl | ⟨error, workPending, rfl⟩⟩ := leave_cases left
  · exact {
      next := driven.next
      returned := driven.returned
      work := driven.work
      calling := fun other calls => by cases calls
      nextSettles := fun other called => by
        have earlier := driven.nextSettles other called
        simp
        grind
      returnedSettles := fun other submitted => by
        have earlier := driven.returnedSettles other submitted
        simp
        grind
      evicts := fun other submitted remains => by simpa using driven.evicts other submitted remains
      evicted := driven.evicted }
  · have nextPending : state.loop.outcome (.next id) = none := by
      cases settles : state.loop.outcome (.next id) with
      | none => rfl
      | some outcome => cases workPending.symm.trans (driven.next id outcome settles)
    have outcomes (promise : LockPromise) :
        ((state.loop.settle (.work id) (.rejected error)).settle (.next id) (.rejected error)).outcome promise =
          if promise = .next id ∨ promise = .work id then some (.rejected error)
          else state.loop.outcome promise := by
      rw [EventLoop.outcome_settle (by rw [EventLoop.outcome_settle workPending, if_neg LockPromise.noConfusion, nextPending]),
        EventLoop.outcome_settle workPending]
      grind
    exact {
      next := fun other outcome => by
        have earlier := driven.next other outcome
        simp only [outcomes]
        grind
      returned := fun other outcome => by
        have earlier := driven.returned other outcome
        simp only [outcomes]
        grind
      work := fun other settles => by
        have earlier := driven.work other
        have called := driven.calling id calling
        simp only [outcomes] at settles
        grind
      calling := fun other calls => by cases calls
      nextSettles := fun other called => by
        have earlier := driven.nextSettles other called
        simp [outcomes]
        grind
      returnedSettles := fun other submitted => by simpa [outcomes] using driven.returnedSettles other submitted
      evicts := fun other submitted remains => by simpa using driven.evicts other submitted remains
      evicted := fun other gone => settled_mono _ (settled_mono _ (driven.evicted other gone)) }

theorem Chained.leave {thrown : Option ε} (chained : state.Chained) (left : state.leave thrown = some next) :
    next.Chained := by
  obtain ⟨id, -, rfl | ⟨error, -, rfl⟩⟩ := leave_cases left
  · exact chained.of_later rfl rfl (by simp) (by simp) rfl rfl
  · exact chained.of_later rfl rfl (fun _ settled => settled_mono _ (settled_mono _ settled)) (by simp) rfl rfl

theorem complete_eq_some {id : Nat} {outcome : Settlement ν ε} (completed : state.complete id outcome = some next) :
    id ∈ state.called ∧ state.loop.outcome (.work id) = none ∧
      next = { state with loop := state.loop.settle (.work id) outcome } := by
  unfold complete at completed
  split at completed
  · rename_i allowed
    exact ⟨allowed.1, Option.isNone_iff_eq_none.mp allowed.2, (Option.some.inj completed).symm⟩
  · exact nomatch completed

theorem Driven.complete {id : Nat} {outcome : Settlement ν ε} (driven : state.Driven)
    (completed : state.complete id outcome = some next) : next.Driven := by
  obtain ⟨called, pending, rfl⟩ := complete_eq_some completed
  have outcomes := EventLoop.outcome_settle pending outcome
  exact {
    next := fun other given => by
      have earlier := driven.next other given
      simp only [outcomes]
      grind
    returned := fun other given => by simpa [outcomes] using driven.returned other given
    work := fun other settles => by
      have earlier := driven.work other
      simp only [outcomes] at settles
      grind
    calling := driven.calling
    nextSettles := fun other calls => by simpa [outcomes] using driven.nextSettles other calls
    returnedSettles := fun other submitted => by simpa [outcomes] using driven.returnedSettles other submitted
    evicts := fun other submitted remains => by simpa using driven.evicts other submitted remains
    evicted := fun other gone => settled_mono _ (driven.evicted other gone) }

end Settling

variable [DecidableEq κ]

theorem Wired.serializeByScope (wired : state.Wired) (key : κ) : (state.serializeByScope key).Wired where
  resolved := by simpa [WriteLocks.serializeByScope] using wired.resolved
  fn promise id waits := by
    have earlier := wired.fn promise id
    have submitted := prevAt_length state.submissions id
    simp [WriteLocks.serializeByScope] at waits
    simp only [WriteLocks.serializeByScope, prevAt_concat]
    grind
  evict promise id waits := by
    have earlier := wired.evict promise id
    simp [WriteLocks.serializeByScope] at waits ⊢
    grind
  settle promise target waits := by
    have earlier := wired.settle promise target
    simp [WriteLocks.serializeByScope] at waits ⊢
    grind
  follow target source waits := by
    have earlier := wired.follow target source
    simp [WriteLocks.serializeByScope] at waits ⊢
    grind

theorem Driven.serializeByScope (driven : state.Driven) (key : κ) : (state.serializeByScope key).Driven where
  next id outcome := by simpa [WriteLocks.serializeByScope] using driven.next id outcome
  returned id outcome := by simpa [WriteLocks.serializeByScope] using driven.returned id outcome
  work id := by simpa [WriteLocks.serializeByScope] using driven.work id
  calling := driven.calling
  nextSettles id called := by
    simpa [WriteLocks.serializeByScope] using driven.nextSettles id called
  returnedSettles id submitted := by
    have earlier := driven.returnedSettles id
    simp [WriteLocks.serializeByScope] at submitted ⊢
    grind
  evicts id submitted remains := by
    have earlier := driven.evicts id
    simp [WriteLocks.serializeByScope] at submitted remains ⊢
    grind
  evicted id gone := by
    simpa [WriteLocks.serializeByScope] using driven.evicted id gone

theorem Chained.serializeByScope (chained : state.Chained) (wired : state.Wired) (driven : state.Driven) (key : κ) :
    (state.serializeByScope key).Chained where
  submitted id called := by
    have earlier := chained.submitted id called
    simp only [WriteLocks.serializeByScope, List.length_append, List.length_singleton]
    omega
  once id prev chain := by
    have earlier := chained.once id prev
    have fresh := wired.fn prev id
    have uncalled := chained.submitted id
    have submitted := prevAt_length state.submissions id
    simp [WriteLocks.serializeByScope, prevAt_concat] at chain ⊢
    grind
  ready id called prev chain := by
    have earlier := chained.ready id called prev
    have submitted := chained.submitted id called
    simp [WriteLocks.serializeByScope, prevAt_concat] at chain ⊢
    grind
  first id name chain keyed earlier before sameKey := by
    have old := chained.first id name
    have submitted := keyAt_length state.submissions id
    simp [WriteLocks.serializeByScope, prevAt_concat, keyAt_concat] at chain keyed sameKey ⊢
    by_cases newest : id = state.submissions.length
    · rw [if_pos newest] at chain keyed
      cases keyed
      cases holds : state.taskWriteLocks key with
      | none => exact chained.free key holds earlier (by grind)
      | some promise =>
          obtain ⟨last, rfl, -⟩ := chained.locked key promise holds
          rw [holds] at chain
          cases chain
    · grind
  behind id prev name chain keyed waits := by
    have old := chained.behind id prev name
    have submitted := keyAt_length state.submissions
    simp [WriteLocks.serializeByScope, prevAt_concat, keyAt_concat] at chain keyed ⊢
    by_cases newest : id = state.submissions.length
    · rw [if_pos newest] at chain keyed
      cases keyed
      cases holds : state.taskWriteLocks key with
      | none =>
          rw [holds] at chain
          cases chain
          exact absurd rfl waits
      | some promise =>
          obtain ⟨last, rfl, lastKey, -, newer⟩ := chained.locked key promise holds
          rw [holds] at chain
          cases chain
          exact ⟨last, by grind, rfl, by grind, by grind⟩
    · rw [if_neg newest] at chain keyed
      obtain ⟨before, earlier, same, sameKey, newer⟩ := old chain keyed waits
      exact ⟨before, earlier, same, by grind, by grind⟩
  locked name promise holds := by
    have old := chained.locked name promise
    have unevicted : state.submissions.length ∉ state.evicted := fun gone =>
      Nat.lt_irrefl _ (chained.submitted _ (driven.called_of_next (driven.evicted _ gone)))
    have submitted := keyAt_length state.submissions
    simp [WriteLocks.serializeByScope, keyAt_concat, Function.update_apply] at holds ⊢
    grind
  free name unlocked id keyed := by
    have old := chained.free name
    simp [WriteLocks.serializeByScope, keyAt_concat, Function.update_apply] at unlocked keyed ⊢
    grind

end WriteLocks

end A2A.Server
