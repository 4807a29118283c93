import A2A.Library.Transition

namespace A2A.Library

namespace System

/-! Runs whose every step uses up some of the work that is left. -/

variable {σ : Type u} {ℓ : Type v} {system : System σ ℓ} {allowed : σ → ℓ → Prop} {invariant : σ → Prop}
  {work : σ → Nat} {start state : σ} {labels : List ℓ}

/-- A run takes no more steps than there was work. -/
theorem Runs.exhausts (runs : system.Runs allowed start labels state) (initially : invariant start)
    (preserved : ∀ {state label next}, invariant state → allowed state label →
      system.step state label = some next → invariant next ∧ work next < work state) :
    invariant state ∧ labels.length + work state ≤ work start := by
  induction runs with
  | refl => exact ⟨initially, by simp⟩
  | snoc _ permitted stepped ih =>
      obtain ⟨kept, fewer⟩ := preserved ih.1 permitted stepped
      refine ⟨kept, ?_⟩
      have counted := ih.2
      rw [List.length_append, List.length_singleton]
      omega

/-- No permitted step is left. -/
def Stuck (system : System σ ℓ) (allowed : σ → ℓ → Prop) (state : σ) : Prop :=
  ∀ label, allowed state label → system.step state label = none

/-- A run that goes on for as long as it can comes to its end. -/
theorem exists_stuck (initially : invariant start)
    (preserved : ∀ {state label next}, invariant state → allowed state label →
      system.step state label = some next → invariant next ∧ work next < work state) :
    ∃ labels state, system.Runs allowed start labels state ∧ system.Stuck allowed state := by
  induction left : work start using Nat.strongRecOn generalizing start with
  | ind amount ih =>
      by_cases ended : system.Stuck allowed start
      · exact ⟨[], start, .refl, ended⟩
      · simp only [Stuck, not_forall] at ended
        obtain ⟨label, permitted, moves⟩ := ended
        obtain ⟨next, stepped⟩ := Option.ne_none_iff_exists'.mp moves
        obtain ⟨kept, fewer⟩ := preserved initially permitted stepped
        obtain ⟨labels, state, runs, stuck⟩ := ih (work next) (by omega) kept rfl
        exact ⟨label :: labels, state, runs.cons permitted stepped, stuck⟩

end System

end A2A.Library
