import Mathlib.Data.List.Basic

namespace A2A.Library

/-! Asynchronous iteration: iterators, and the loop that pulls one until it is told to stop.

What an iterator answers depends on how often it has been asked.  The loop is
cut into rounds, and runs for a number of them; a run that has no ending yet goes
on with the next round.
-/

/-- How a call of `next()` settles. -/
inductive Pulled (α : Type u) (ε : Type v) where
  | value (value : α)
  | done
  | rejected (error : ε)
deriving DecidableEq

structure AsyncIterator (α : Type u) (ε : Type v) where
  /-- The answer to each call of `next()`, by its number. -/
  next : Nat → Pulled α ε
  /-- `return()`, if there is one: what it rejects with, if it does, after so many calls of `next()`. -/
  close : Option (Nat → Option ε)
  doneForGood : ∀ {position later : Nat}, next position = .done → position ≤ later → next later = .done

/-- An iterator that can be told to return, as every generator can. -/
structure AsyncGenerator (α : Type u) (ε : Type v) extends AsyncIterator α ε where
  closable : close.isSome = true

/-- What has been asked of an iterator so far. -/
structure Use where
  nexts : Nat := 0
  returns : Nat := 0
deriving DecidableEq

namespace AsyncIterator

variable {α : Type u} {ε : Type v} (iterator : AsyncIterator α ε) (use : Use)

def pull : Use × Pulled α ε := ({ use with nexts := use.nexts + 1 }, iterator.next use.nexts)

/-- `iterator.return?.()` -/
def shut : Use × Option ε :=
  match iterator.close with
  | none => (use, none)
  | some refusal => ({ use with returns := use.returns + 1 }, refusal use.nexts)

/-- The iterator has said itself that it is over, or it has been told to return. -/
def Closed : Prop :=
  (∃ position < use.nexts, ∀ value, iterator.next position ≠ .value value) ∨ 0 < use.returns

theorem shut_returns (closable : iterator.close.isSome = true) :
    (iterator.shut use).1 = { use with returns := use.returns + 1 } := by
  unfold shut
  cases close : iterator.close with
  | none => rw [close] at closable; cases closable
  | some refusal => rfl

theorem closed_pull (ended : ∀ value, iterator.next use.nexts ≠ .value value) :
    iterator.Closed { use with nexts := use.nexts + 1 } :=
  .inl ⟨use.nexts, Nat.lt_succ_self _, ended⟩

theorem closed_shut (closable : iterator.close.isSome = true) : iterator.Closed (iterator.shut use).1 := by
  rw [shut_returns iterator use closable]
  exact .inr (Nat.succ_pos _)

/-- Where nothing but values came, an iterator is closed when it has been told to return. -/
theorem closed_iff_of_values {iterator : AsyncIterator α ε} {use : Use}
    (values : ∀ position < use.nexts, ∃ value, iterator.next position = .value value) :
    iterator.Closed use ↔ 0 < use.returns := by
  constructor
  · rintro (⟨position, asked, notValue⟩ | closed)
    · obtain ⟨value, yields⟩ := values position asked
      exact absurd yields (notValue value)
    · exact closed
  · exact .inr

end AsyncIterator

/-- What the body of a loop wants after a value. -/
inductive Verdict (ε : Type v) where
  | proceed
  | leave
  | raise (error : ε)
deriving DecidableEq

/-- How a loop ended: its iterator was through, or rejected, or the body stopped it; then it may
throw, what the body has raised or what `return()` rejects with. -/
inductive Ending (ε : Type v) where
  | finished
  | failed (error : ε)
  | stopped (thrown : Option ε)
deriving DecidableEq

/-- Where a loop is: the iterator, the variables of the body, and the ending, if it has come to one. -/
structure Iteration (σ : Type u) (β : Type v) (ε : Type w) where
  source : σ
  loop : β
  ending : Option (Ending ε)

/-- What holds of a loop while it runs, and what of each of its endings. -/
def Iteration.Within {σ : Type u} {β : Type v} {ε : Type w} (run : Iteration σ β ε)
    (Running : σ → β → Prop) (Ended : σ → β → Ending ε → Prop) : Prop :=
  match run.ending with
  | none => Running run.source run.loop
  | some ending => Ended run.source run.loop ending

/-- The two methods that a `for await` calls. -/
structure Iterable (σ : Type u) (α : Type v) (ε : Type w) where
  next : σ → σ × Pulled α ε
  close : σ → σ × Option ε

def AsyncIterator.iterable {α : Type u} {ε : Type v} (iterator : AsyncIterator α ε) : Iterable Use α ε where
  next := iterator.pull
  close := iterator.shut

namespace Iterable

variable {σ : Type u} {α : Type v} {ε : Type w} {β : Type z} (iterable : Iterable σ α ε)
  (body : β → α → β × Verdict ε)

/-- One round of `for await (const value of iterable) body`. -/
def round (source : σ) (loop : β) : Iteration σ β ε :=
  match iterable.next source with
  | (source, .done) => ⟨source, loop, some .finished⟩
  | (source, .rejected error) => ⟨source, loop, some (.failed error)⟩
  | (source, .value value) =>
      match body loop value with
      | (loop, .proceed) => ⟨source, loop, none⟩
      | (loop, .leave) => ⟨(iterable.close source).1, loop, some (.stopped (iterable.close source).2)⟩
      -- what the body has raised hides a rejection of `return()`
      | (loop, .raise error) => ⟨(iterable.close source).1, loop, some (.stopped (some error))⟩

def forAwait : Nat → σ → β → Iteration σ β ε
  | 0, source, loop => ⟨source, loop, none⟩
  | rounds + 1, source, loop =>
      let run := iterable.round body source loop
      match run.ending with
      | none => forAwait rounds run.source run.loop
      | some _ => run

variable {iterable body}

/-- The rule of the loop.  Its invariant may count the rounds. -/
theorem forAwait_rule {Running : Nat → σ → β → Prop} {Ended : σ → β → Ending ε → Prop}
    (keeps : ∀ {rounds source loop}, Running rounds source loop →
      (iterable.round body source loop).Within (Running (rounds + 1)) Ended)
    (fuel : Nat) {rounds : Nat} {source : σ} {loop : β} (holds : Running rounds source loop) :
    (iterable.forAwait body fuel source loop).Within (Running (rounds + fuel)) Ended := by
  induction fuel generalizing rounds source loop with
  | zero => exact holds
  | succ fuel ih =>
      have kept := keeps holds
      unfold forAwait
      unfold Iteration.Within at kept
      cases ending : (iterable.round body source loop).ending with
      | none =>
          rw [ending] at kept
          rw [← Nat.add_assoc, Nat.add_right_comm]
          simpa only [ending] using ih kept
      | some ended =>
          rw [ending] at kept
          simpa only [ending, Iteration.Within] using kept

end Iterable

/-- A loop that has ended leaves a closed generator behind. -/
theorem AsyncGenerator.forAwait_closed {α : Type u} {ε : Type v} {β : Type w} (generator : AsyncGenerator α ε)
    (body : β → α → β × Verdict ε) (fuel : Nat) (use : Use) (loop : β) :
    (generator.iterable.forAwait body fuel use loop).Within (fun _ _ => True)
      (fun use _ _ => generator.Closed use) := by
  have round (use : Use) (loop : β) :
      (generator.iterable.round body use loop).Within (fun _ _ => True) (fun use _ _ => generator.Closed use) := by
    unfold Iterable.round
    dsimp only [AsyncIterator.iterable, AsyncIterator.pull]
    cases pulled : generator.next use.nexts with
    | done => exact generator.closed_pull use (by simp [pulled])
    | rejected error => exact generator.closed_pull use (by simp [pulled])
    | value value =>
        dsimp only
        obtain ⟨loop, verdict⟩ := body loop value
        cases verdict with
        | proceed => exact trivial
        | leave => exact generator.closed_shut _ generator.closable
        | raise error => exact generator.closed_shut _ generator.closable
  exact @Iterable.forAwait_rule _ _ _ _ _ _ (fun _ _ _ => True) _ (fun {_ use loop} _ => round use loop) fuel 0 use loop
    trivial

end A2A.Library
