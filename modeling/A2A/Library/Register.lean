import Mathlib.Logic.Function.Basic

namespace A2A.Library

/-! A register that is written through copies.

A process takes in hand the value that a write makes of the content, and puts
it back in a later step.  Between the two the content may change; when every
value is put back while no other process holds one, the register behaves as if
each write had been performed in one step.
-/

structure Register (σ : Type u) (ω : Type v) (π : Type w) where
  content : σ
  hands : π → Option (σ × ω)
  log : List ω

namespace Register

section

variable {σ : Type u} {ω : Type v} {π : Type w} [DecidableEq π]
  (enabled : σ → ω → Prop) (apply : σ → ω → σ)

/-- The steps under mutual exclusion. -/
inductive Step : Register σ ω π → Register σ ω π → Prop
  | idle {register} : Step register register
  | take {register process write} : enabled register.content write →
      Step register { register with
        hands := Function.update register.hands process (some (apply register.content write, write)) }
  | drop {register process} :
      Step register { register with hands := Function.update register.hands process none }
  | put {register process value write} : register.hands process = some (value, write) →
      (∀ other, other ≠ process → register.hands other = none) →
      Step register {
        content := value
        hands := Function.update register.hands process none
        log := register.log ++ [write] }

/-- The content is the log replayed, every write of it was enabled when it was performed,
and every value in hand is still current. -/
structure Serial (start : σ) (register : Register σ ω π) : Prop where
  content : register.content = register.log.foldl apply start
  logged : ∀ before write after, register.log = before ++ write :: after →
    enabled (before.foldl apply start) write
  hands : ∀ process value write, register.hands process = some (value, write) →
    enabled register.content write ∧ apply register.content write = value

variable {enabled apply} {start : σ} {register next : Register σ ω π}

theorem Serial.step (serial : Serial enabled apply start register)
    (stepped : Step enabled apply register next) : Serial enabled apply start next := by
  cases stepped with
  | idle => exact serial
  | @take process write permitted =>
      refine ⟨serial.content, serial.logged, ?_⟩
      intro other value held holds
      by_cases same : other = process
      · subst same
        simp only [Function.update_self, Option.some.injEq, Prod.mk.injEq] at holds
        obtain ⟨rfl, rfl⟩ := holds
        exact ⟨permitted, rfl⟩
      · exact serial.hands other value held (by simpa [Function.update_of_ne same] using holds)
  | @drop process =>
      refine ⟨serial.content, serial.logged, ?_⟩
      intro other value held holds
      by_cases same : other = process
      · subst same
        simp at holds
      · exact serial.hands other value held (by simpa [Function.update_of_ne same] using holds)
  | @put process value write held alone =>
      obtain ⟨permitted, current⟩ := serial.hands process value write held
      refine ⟨?_, ?_, ?_⟩
      · rw [List.foldl_append, ← serial.content]
        exact current.symm
      · intro before last after split
        rcases List.eq_nil_or_concat after with rfl | ⟨middle, final, rfl⟩
        · obtain ⟨rfl, same⟩ := List.append_inj' split rfl
          cases same
          rwa [← serial.content]
        · rw [List.concat_eq_append, ← List.cons_append, ← List.append_assoc] at split
          exact serial.logged before last middle (List.append_inj' split rfl).1
      · intro other present kept holds
        by_cases same : other = process
        · subst same
          simp at holds
        · simp [Function.update_of_ne same, alone other same] at holds

/-- A step changes the content by an enabled write or not at all. -/
theorem Serial.content_step (serial : Serial enabled apply start register)
    (stepped : Step enabled apply register next) :
    next.content = register.content ∨
      ∃ write, enabled register.content write ∧ next.content = apply register.content write := by
  cases stepped with
  | idle | take | drop => exact .inl rfl
  | put held =>
      obtain ⟨permitted, current⟩ := serial.hands _ _ _ held
      exact .inr ⟨_, permitted, current.symm⟩

end

end Register

end A2A.Library
