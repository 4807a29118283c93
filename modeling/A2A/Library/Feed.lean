import Mathlib.Logic.Function.Basic

namespace A2A.Library

/-! A value that several processes fold their queues into.

Whoever takes an item from its own queue applies it to the content.  An item that arrives in one
queue, while every other queue is empty, is applied once and in its turn.
-/

structure Feed (σ : Type u) (α : Type v) (π : Type w) where
  content : σ
  queues : π → List α
  arrived : List α

namespace Feed

section

variable {σ : Type u} {α : Type v} {π : Type w} [DecidableEq π] (apply : σ → α → σ)

inductive Step : Feed σ α π → Feed σ α π → Prop
  | idle {feed} : Step feed feed
  | take {feed process item rest} : feed.queues process = item :: rest →
      Step feed { feed with
        content := apply feed.content item
        queues := Function.update feed.queues process rest }
  | arrive {feed process} (item : α) : (∀ other, other ≠ process → feed.queues other = []) →
      Step feed { feed with
        queues := Function.update feed.queues process (feed.queues process ++ [item])
        arrived := feed.arrived ++ [item] }

/-- One process at most has items to take, and with them the content is what the arrived items
make of the start. -/
def Accounted (start : σ) (feed : Feed σ α π) : Prop :=
  ∃ process, (∀ other, other ≠ process → feed.queues other = []) ∧
    (feed.queues process).foldl apply feed.content = feed.arrived.foldl apply start

variable {apply} {start : σ} {feed next : Feed σ α π}

theorem Accounted.step (accounted : Accounted apply start feed) (stepped : Step apply feed next) :
    Accounted apply start next := by
  obtain ⟨owner, others, same⟩ := accounted
  cases stepped with
  | idle => exact ⟨owner, others, same⟩
  | @take process item rest waits =>
      have own : process = owner := by
        by_contra differ
        rw [others process differ] at waits
        cases waits
      subst own
      refine ⟨process, fun other differ => ?_, ?_⟩
      · exact (Function.update_of_ne differ rest feed.queues).trans (others other differ)
      · dsimp only
        rw [Function.update_self, ← same, waits]
        rfl
  | @arrive process item alone =>
      refine ⟨process, fun other differ => ?_, ?_⟩
      · exact (Function.update_of_ne differ _ feed.queues).trans (alone other differ)
      · dsimp only
        rw [Function.update_self, List.foldl_append, List.foldl_append, ← same]
        by_cases own : process = owner
        · rw [own]
        · rw [alone owner (Ne.symm own), others process own]

end

section

variable {σ : Type u} {α : Type v} {π : Type w} {apply : σ → α → σ} {start : σ} {feed : Feed σ α π}

/-- When nothing is left to take, every item has been applied once. -/
theorem Accounted.drained (accounted : Accounted apply start feed)
    (drained : ∀ process, feed.queues process = []) : feed.content = feed.arrived.foldl apply start := by
  obtain ⟨owner, _, same⟩ := accounted
  rw [drained owner] at same
  exact same

end

end Feed

end A2A.Library
