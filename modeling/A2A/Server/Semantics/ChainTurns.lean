import A2A.Server.Semantics.Chains

namespace A2A.Server

open Library

/-! What a turn of the event loop does to the chains. -/

namespace WriteLocks

variable {κ : Type w} {ν : Type u} {ε : Type v} [DecidableEq κ] {state next : WriteLocks κ ν ε}

section Turning

theorem evict_frame (state : WriteLocks κ ν ε) (id : Nat) :
    (state.evict id).loop = state.loop ∧ (state.evict id).submissions = state.submissions ∧
      (state.evict id).called = state.called ∧ (state.evict id).calling = state.calling := by
  unfold evict
  split <;> exact ⟨rfl, rfl, rfl, rfl⟩

theorem evict_eq {id : Nat} {key : κ} (submitted : keyAt state.submissions id = some key) :
    state.evict id = {
      state with
      taskWriteLocks :=
        if state.taskWriteLocks key = some (.next id) then Function.update state.taskWriteLocks key none
        else state.taskWriteLocks
      evicted := state.evicted ++ [id] } := by
  obtain ⟨submission, listed, rfl⟩ := Option.map_eq_some_iff.mp submitted
  unfold evict
  rw [listed]

/-- A turn of the loop, and what the handler does that it may call. -/
theorem turn_eq_some (taken : state.turn = some next) :
    state.calling = none ∧ next.submissions = state.submissions ∧
      ∃ handler, EventLoop.Turn state.loop next.loop handler ∧
        match handler with
        | none => next = { state with loop := next.loop }
        | some (.fn id) =>
            next = { state with loop := next.loop, calling := some id, called := state.called ++ [id] }
        | some (.evict id) => next = { state with loop := next.loop }.evict id := by
  unfold turn at taken
  split at taken
  · exact nomatch taken
  · rename_i idle
    refine ⟨by simpa using idle, ?_⟩
    split at taken
    · exact nomatch taken
    · rename_i loop took
      cases taken
      exact ⟨rfl, none, EventLoop.next_turn took, rfl⟩
    · rename_i loop id took
      cases taken
      exact ⟨rfl, some (.fn id), EventLoop.next_turn took, rfl⟩
    · rename_i loop id took
      cases taken
      obtain ⟨sameLoop, submissions, -⟩ := evict_frame { state with loop } id
      exact ⟨submissions, some (.evict id), sameLoop ▸ EventLoop.next_turn took, by rw [sameLoop]⟩

theorem Wired.turn (wired : state.Wired) (taken : state.turn = some next) : next.Wired := by
  obtain ⟨-, submissions, handler, turned, -⟩ := turn_eq_some taken
  cases turned with
  | follow target source listed outcomes reactions follows =>
      have followed := wired.follow target source listed
      exact {
        resolved := by simpa [outcomes] using wired.resolved
        fn := fun promise id waits => by
          rw [submissions]
          exact wired.fn promise id (by simpa [reactions] using waits)
        evict := fun promise id waits => by
          rw [submissions]
          exact wired.evict promise id (by simpa [reactions] using waits)
        settle := fun promise other waits => by
          have earlier := wired.settle promise other
          have same := reactions promise (.settle other)
          simp at same
          rw [submissions]
          grind
        follow := fun other followed waits => by
          rw [submissions]
          refine wired.follow other followed ?_
          rw [follows]
          exact Nat.lt_of_lt_of_le waits (Nat.le_add_right _ _) }
  | settle source target outcome listed settled outcomes reactions follows =>
      refine wired.of_fewer submissions ?_ (fun promise reaction => ?_) fun other followed => ?_
      · have kept := outcomes .resolved
        have resolved := wired.resolved
        grind
      · exact (reactions promise reaction).symm ▸ Nat.le_add_right _ _
      · exact Nat.le_of_eq (follows other followed)
  | handle source handler listed settled outcomes reactions follows =>
      refine wired.of_fewer submissions ?_ (fun promise reaction => ?_) fun other followed => ?_
      · simpa [outcomes] using wired.resolved
      · exact (reactions promise reaction).symm ▸ Nat.le_add_right _ _
      · exact Nat.le_of_eq (follows other followed)

theorem Driven.turn (driven : state.Driven) (wired : state.Wired) (taken : state.turn = some next) : next.Driven := by
  obtain ⟨idle, submissions, handler, turned, effect⟩ := turn_eq_some taken
  cases turned with
  | follow target source listed outcomes reactions follows =>
      have followed := wired.follow target source listed
      generalize next.loop = loop at *
      subst effect
      exact {
        next := fun id outcome => by simpa only [outcomes] using driven.next id outcome
        returned := fun id outcome => by simpa only [outcomes] using driven.returned id outcome
        work := fun id => by simpa only [outcomes] using driven.work id
        calling := driven.calling
        nextSettles := fun id called => by
          have earlier := driven.nextSettles id called
          have listening := reactions (.work id) (.settle (.next id))
          have following := follows (.next id) (.work id)
          simp only [outcomes]
          grind
        returnedSettles := fun id submitted => by
          have earlier := driven.returnedSettles id submitted
          have listening := reactions (.next id) (.settle (.returned id))
          have following := follows (.returned id) (.next id)
          simp only [outcomes]
          grind
        evicts := fun id submitted remains => by
          have earlier := driven.evicts id submitted remains
          simpa [reactions] using earlier
        evicted := fun id gone => by simpa only [outcomes] using driven.evicted id gone }
  | settle source target outcome listed settled outcomes reactions follows =>
      have wires := wired.settle source target listed
      generalize next.loop = loop at *
      subst effect
      exact {
        next := fun id given settles => by
          have earlier := driven.next id given
          have nextOutcome := outcomes (.next id)
          have workOutcome := outcomes (.work id)
          grind
        returned := fun id given settles => by
          have earlier := driven.returned id given
          have returnedOutcome := outcomes (.returned id)
          have nextOutcome := outcomes (.next id)
          grind
        work := fun id settles => by
          have earlier := driven.work id
          have workOutcome := outcomes (.work id)
          grind
        calling := driven.calling
        nextSettles := fun id called => by
          have earlier := driven.nextSettles id called
          have listening := reactions (.work id) (.settle (.next id))
          have nextOutcome := outcomes (.next id)
          simp only [follows]
          grind
        returnedSettles := fun id submitted => by
          have earlier := driven.returnedSettles id submitted
          have listening := reactions (.next id) (.settle (.returned id))
          have returnedOutcome := outcomes (.returned id)
          simp only [follows]
          grind
        evicts := fun id submitted remains => by
          have earlier := driven.evicts id submitted remains
          rw [reactions] at earlier
          simpa using earlier
        evicted := fun id gone => by
          have earlier := driven.evicted id gone
          have nextOutcome := outcomes (.next id)
          grind }
  | handle source handler listed settled outcomes reactions follows =>
      cases handler with
      | fn id =>
          dsimp only at effect
          generalize next.loop = loop at *
          subst effect
          have own : ∀ other, some id = some other → other ∈ state.called ++ [id] := by
            rintro _ ⟨⟩
            exact List.mem_append_right _ List.mem_cons_self
          refine driven.handled outcomes reactions follows rfl ?_ own (fun other called => ?_)
            (fun other remains => ⟨remains, by simp⟩) fun other gone => .inl gone
          · exact fun other called => List.mem_append_left _ called
          · exact (List.mem_append.mp called).imp (fun before => ⟨before, by simp [idle]⟩)
              fun now => congrArg some (List.mem_singleton.mp now).symm
      | evict id =>
          obtain ⟨rfl, submitted⟩ := wired.evict source id listed
          obtain ⟨key, keyed⟩ := Option.isSome_iff_exists.mp ((keyAt_length _ _).mpr submitted)
          replace effect := effect.trans (evict_eq keyed)
          generalize next.loop = loop at *
          subst effect
          refine driven.handled outcomes reactions follows rfl (fun _ called => called) driven.calling
            (fun other called => .inl ⟨called, fun calls => calls⟩) (fun other remains => ?_) fun other gone => ?_
          · rw [List.mem_append, not_or, List.mem_singleton] at remains
            exact ⟨remains.1, fun same => remains.2 (LockHandler.evict.inj same).symm⟩
          · exact (List.mem_append.mp gone).imp_right fun now => by rwa [List.mem_singleton.mp now]

theorem Chained.turn (chained : state.Chained) (wired : state.Wired) (driven : state.Driven)
    (taken : state.turn = some next) : next.Chained := by
  obtain ⟨idle, submissions, handler, turned, effect⟩ := turn_eq_some taken
  cases turned with
  | follow target source listed outcomes reactions follows =>
      generalize next.loop = loop at *
      subst effect
      exact chained.of_later rfl rfl (fun promise => by simp [outcomes]) (fun promise id => by simp [reactions]) rfl rfl
  | settle source target outcome listed settled outcomes reactions follows =>
      generalize next.loop = loop at *
      subst effect
      refine chained.of_later rfl rfl (fun promise settles => ?_) (fun promise id => by simp [reactions]) rfl rfl
      have outcome := outcomes promise
      grind
  | handle source handler listed settled outcomes reactions follows =>
      cases handler with
      | fn id =>
          have chain := wired.fn source id listed
          have submitted := (prevAt_length state.submissions id).mp (by rw [chain]; rfl)
          dsimp only at effect
          generalize next.loop = loop at *
          subst effect
          exact {
            submitted := fun other called => by
              rcases List.mem_append.mp called with before | now
              · exact chained.submitted other before
              · rwa [List.mem_singleton.mp now]
            once := fun other prev chained' => by
              have earlier := chained.once other prev chained'
              rw [reactions] at earlier
              simp only [List.count_append, List.count_singleton, beq_iff_eq]
              by_cases same : other = id
              · subst same
                cases chain.symm.trans chained'
                simpa [Nat.add_right_comm, Nat.add_assoc] using earlier
              · simpa [same, Ne.symm same] using earlier
            ready := fun other called prev chained' => by
              rw [outcomes]
              rcases List.mem_append.mp called with before | now
              · exact chained.ready other before prev chained'
              · rw [List.mem_singleton.mp now, chain] at chained'
                cases chained'
                exact settled
            first := by simpa only [outcomes] using chained.first
            behind := chained.behind
            locked := chained.locked
            free := by simpa only [outcomes] using chained.free }
      | evict id =>
          obtain ⟨rfl, submitted⟩ := wired.evict source id listed
          obtain ⟨key, keyed⟩ := Option.isSome_iff_exists.mp ((keyAt_length _ _).mpr submitted)
          have called := driven.called_of_next settled
          replace effect := effect.trans (evict_eq keyed)
          generalize next.loop = loop at *
          subst effect
          exact {
            submitted := chained.submitted
            once := fun other prev chain => by simpa [reactions] using chained.once other prev chain
            ready := by simpa only [outcomes] using chained.ready
            first := by simpa only [outcomes] using chained.first
            behind := chained.behind
            locked := fun name promise holds => by
              have old := chained.locked name promise
              dsimp only at holds ⊢
              by_cases same : name = key
              · subst same
                split at holds
                · rw [Function.update_self] at holds
                  cases holds
                · obtain ⟨last, rfl, lastKeyed, remains, newest⟩ := old holds
                  exact ⟨last, rfl, lastKeyed, by grind, newest⟩
              · have kept : state.taskWriteLocks name = some promise := by
                  split at holds
                  · rwa [Function.update_of_ne same] at holds
                  · exact holds
                obtain ⟨last, rfl, lastKeyed, remains, newest⟩ := old kept
                exact ⟨last, rfl, lastKeyed, by grind, newest⟩
            free := fun name unlocked other otherKeyed => by
              rw [outcomes]
              by_cases wasFree : state.taskWriteLocks name = none
              · exact chained.free name wasFree other otherKeyed
              · -- the entry has just been deleted: it was that of the last submission, which has settled
                have deleted : name = key ∧ state.taskWriteLocks key = some (.next id) := by
                  dsimp only at unlocked
                  split at unlocked
                  · refine ⟨?_, ‹_›⟩
                    by_contra differ
                    rw [Function.update_of_ne differ] at unlocked
                    exact wasFree unlocked
                  · exact absurd unlocked wasFree
                obtain ⟨rfl, holds⟩ := deleted
                obtain ⟨last, same, -, -, newest⟩ := chained.locked name _ holds
                cases same
                rcases Nat.lt_or_eq_of_le (newest other otherKeyed) with before | rfl
                · exact chained.earlier_settled driven called keyed before otherKeyed
                · exact settled }

end Turning

theorem Consistent.step (consistent : state.Consistent) {action : LockAction κ ν ε}
    (stepped : state.step action = some next) : next.Consistent := by
  obtain ⟨wired, driven, chained⟩ := consistent
  cases action with
  | submit key =>
      cases stepped
      exact ⟨wired.serializeByScope key, driven.serializeByScope key, chained.serializeByScope wired driven key⟩
  | turn => exact ⟨wired.turn stepped, driven.turn wired stepped, chained.turn wired driven stepped⟩
  | leave thrown =>
      have submitted : ∀ id, state.calling = some id → id < state.submissions.length := fun id calling =>
        chained.submitted id (driven.calling id calling)
      exact ⟨wired.leave submitted stepped, driven.leave stepped, chained.leave stepped⟩
  | complete id outcome =>
      have completed := driven.complete stepped
      obtain ⟨called, pending, rfl⟩ := complete_eq_some stepped
      exact {
        wired := wired.of_fewer rfl (settled_mono _ wired.resolved) (by simp) (by simp)
        driven := completed
        chained := chained.of_later rfl rfl (fun _ settled => settled_mono _ settled) (by simp) rfl rfl }

end WriteLocks

end A2A.Server
