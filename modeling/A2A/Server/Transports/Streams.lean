import A2A.Library.AsyncIteration

namespace A2A.Server

open Library

/-! How the SSE senders go through a stream: the first event is pulled by hand, and
`delegateAsyncIterator` hands out the rest.
-/

/-- Where the body of the generator is. -/
inductive DelegatePhase where
  | suspendedStart
  | suspendedYield
  | completed
deriving DecidableEq, Repr

structure Delegate where
  use : Use
  phase : DelegatePhase := .suspendedStart
deriving DecidableEq

section Delegating

variable {α : Type u} {ε : Type v} {β : Type w} (iterator : AsyncIterator α ε)

/-- `delegateAsyncIterator`.  Its `finally` closes the iterator, unless `next()` has rejected. -/
def delegateAsyncIterator : Iterable Delegate α ε where
  next delegate :=
    match delegate.phase with
    | .completed => (delegate, .done)
    | _ =>
        match iterator.pull delegate.use with
        | (use, .value value) => (⟨use, .suspendedYield⟩, .value value)
        | (use, .rejected error) => (⟨use, .completed⟩, .rejected error)
        | (use, .done) =>
            match iterator.shut use with
            | (use, none) => (⟨use, .completed⟩, .done)
            | (use, some error) => (⟨use, .completed⟩, .rejected error)
  close delegate :=
    match delegate.phase with
    -- only a body that is inside its `try` has a `finally` to run
    | .suspendedYield => (⟨(iterator.shut delegate.use).1, .completed⟩, (iterator.shut delegate.use).2)
    | _ => ({ delegate with phase := .completed }, none)

section Rounds

variable {iterator} {body : β → α → β × Verdict ε} {delegate : Delegate} (loop : β)

theorem delegate_next (live : delegate.phase ≠ .completed) :
    (delegateAsyncIterator iterator).next delegate =
      match iterator.pull delegate.use with
      | (use, .value value) => (⟨use, .suspendedYield⟩, .value value)
      | (use, .rejected error) => (⟨use, .completed⟩, .rejected error)
      | (use, .done) =>
          match iterator.shut use with
          | (use, none) => (⟨use, .completed⟩, .done)
          | (use, some error) => (⟨use, .completed⟩, .rejected error) := by
  obtain ⟨use, phase⟩ := delegate
  cases phase with
  | suspendedStart => rfl
  | suspendedYield => rfl
  | completed => exact absurd rfl live

theorem delegate_round_done (live : delegate.phase ≠ .completed)
    (through : iterator.next delegate.use.nexts = .done) :
    (delegateAsyncIterator iterator).round body delegate loop =
      let closed := iterator.shut { delegate.use with nexts := delegate.use.nexts + 1 }
      ⟨⟨closed.1, .completed⟩, loop,
        some (match closed.2 with
          | none => .finished
          | some error => .failed error)⟩ := by
  rw [Iterable.round, delegate_next live, AsyncIterator.pull, through]
  dsimp only
  obtain ⟨use, refused⟩ := iterator.shut { delegate.use with nexts := delegate.use.nexts + 1 }
  cases refused with
  | none => rfl
  | some error => rfl

theorem delegate_round_rejected {error : ε} (live : delegate.phase ≠ .completed)
    (rejects : iterator.next delegate.use.nexts = .rejected error) :
    (delegateAsyncIterator iterator).round body delegate loop =
      ⟨⟨{ delegate.use with nexts := delegate.use.nexts + 1 }, .completed⟩, loop, some (.failed error)⟩ := by
  rw [Iterable.round, delegate_next live, AsyncIterator.pull, rejects]

theorem delegate_round_value {value : α} (live : delegate.phase ≠ .completed)
    (yields : iterator.next delegate.use.nexts = .value value) :
    (delegateAsyncIterator iterator).round body delegate loop =
      let use := { delegate.use with nexts := delegate.use.nexts + 1 }
      match body loop value with
      | (loop, .proceed) => ⟨⟨use, .suspendedYield⟩, loop, none⟩
      | (loop, .leave) => ⟨⟨(iterator.shut use).1, .completed⟩, loop, some (.stopped (iterator.shut use).2)⟩
      | (loop, .raise error) => ⟨⟨(iterator.shut use).1, .completed⟩, loop, some (.stopped (some error))⟩ := by
  rw [Iterable.round, delegate_next live, AsyncIterator.pull, yields]
  rfl

end Rounds

/-- A loop over the generator has closed the iterator behind it when it has ended. -/
theorem delegate_forAwait_closed (source : AsyncGenerator α ε) (body : β → α → β × Verdict ε) (fuel : Nat)
    {delegate : Delegate} (loop : β) (live : delegate.phase ≠ .completed) :
    ((delegateAsyncIterator source.toAsyncIterator).forAwait body fuel delegate loop).Within
      (fun delegate _ => delegate.phase ≠ .completed) (fun delegate _ _ => source.Closed delegate.use) := by
  have round {delegate : Delegate} {loop : β} (live : delegate.phase ≠ .completed) :
      ((delegateAsyncIterator source.toAsyncIterator).round body delegate loop).Within
        (fun delegate _ => delegate.phase ≠ .completed) (fun delegate _ _ => source.Closed delegate.use) := by
    cases pulled : source.next delegate.use.nexts with
    | done =>
        rw [delegate_round_done loop live pulled]
        exact source.closed_shut _ source.closable
    | rejected error =>
        rw [delegate_round_rejected loop live pulled]
        exact source.closed_pull _ (by simp [pulled])
    | value value =>
        rw [delegate_round_value loop live pulled]
        dsimp only
        obtain ⟨loop, verdict⟩ := body loop value
        cases verdict with
        | proceed => exact DelegatePhase.noConfusion
        | leave => exact source.closed_shut _ source.closable
        | raise error => exact source.closed_shut _ source.closable
  exact @Iterable.forAwait_rule _ _ _ _ _ _ (fun _ delegate _ => delegate.phase ≠ .completed) _ (fun {_ _ _} => round)
    fuel 0 delegate loop live

/-- What a sender does behind the pull of the first event: it handles this event itself, and has
the generator made for the others. -/
def handleFirst (body : β → α → β × Verdict ε) (fuel : Nat) (use : Use) (first : Pulled α ε) (loop : β) :
    Iteration Delegate β ε :=
  let rest (loop : β) := (delegateAsyncIterator iterator).forAwait body fuel ⟨use, .suspendedStart⟩ loop
  match first with
  | .done => rest loop
  | .rejected error => ⟨⟨use, .suspendedStart⟩, loop, some (.failed error)⟩
  | .value value =>
      match body loop value with
      | (loop, .proceed) => rest loop
      | (loop, .leave) => ⟨⟨use, .suspendedStart⟩, loop, some (.stopped none)⟩
      | (loop, .raise error) => ⟨⟨use, .suspendedStart⟩, loop, some (.stopped (some error))⟩

end Delegating

end A2A.Server
