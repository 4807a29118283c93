import Mathlib.Data.List.Basic

namespace A2A.Library

/-! Services: machines that answer every operation at once.

`Simulates` carries the answers of one service over to another.  The
unwinding conditions say that the operations of a zone read and write what one
view shows, and that the others leave this view alone; a whole history then
answers a zone as if the other zones had asked for nothing.
-/

structure Service (σ : Type u) (ο : Type v) (ρ : Type w) where
  perform : σ → ο → σ × ρ

namespace Service

variable {σ : Type u} {σ' : Type u'} {ο : Type v} {ρ : Type w} {ζ : Type z} {τ : Type t}

/-- The operations of a history, each with its answer. -/
def answers (service : Service σ ο ρ) : σ → List ο → List (ο × ρ)
  | _, [] => []
  | state, operation :: rest =>
      (operation, (service.perform state operation).2) ::
        service.answers (service.perform state operation).1 rest

/-- The state behind a history. -/
def after (service : Service σ ο ρ) (state : σ) (operations : List ο) : σ :=
  operations.foldl (fun state operation => (service.perform state operation).1) state

theorem after_append (service : Service σ ο ρ) (state : σ) (operations more : List ο) :
    service.after state (operations ++ more) = service.after (service.after state operations) more :=
  List.foldl_append

/-- Two services answer alike in related states, and stay related. -/
structure Simulates (concrete : Service σ ο ρ) (abstract : Service σ' ο ρ)
    (represents : σ → σ' → Prop) : Prop where
  answer : ∀ {state model} (operation : ο), represents state model →
    (concrete.perform state operation).2 = (abstract.perform model operation).2
  next : ∀ {state model} (operation : ο), represents state model →
    represents (concrete.perform state operation).1 (abstract.perform model operation).1

theorem Simulates.answers_eq {concrete : Service σ ο ρ} {abstract : Service σ' ο ρ}
    {represents : σ → σ' → Prop} (simulates : concrete.Simulates abstract represents)
    {state : σ} {model : σ'} (related : represents state model) (operations : List ο) :
    concrete.answers state operations = abstract.answers model operations := by
  induction operations generalizing state model with
  | nil => rfl
  | cons operation rest ih =>
      rw [answers, answers, simulates.answer operation related, ih (simulates.next operation related)]

theorem Simulates.after {concrete : Service σ ο ρ} {abstract : Service σ' ο ρ}
    {represents : σ → σ' → Prop} (simulates : concrete.Simulates abstract represents)
    {state : σ} {model : σ'} (related : represents state model) (operations : List ο) :
    represents (concrete.after state operations) (abstract.after model operations) := by
  induction operations generalizing state model with
  | nil => exact related
  | cons operation rest ih => exact ih (simulates.next operation related)

/-- Two simulations, one behind the other. -/
theorem Simulates.trans {σ'' : Type u''} {concrete : Service σ ο ρ} {middle : Service σ' ο ρ}
    {abstract : Service σ'' ο ρ} {first : σ → σ' → Prop} {second : σ' → σ'' → Prop}
    (lower : concrete.Simulates middle first) (upper : middle.Simulates abstract second) :
    concrete.Simulates abstract (fun state model => ∃ between, first state between ∧ second between model) where
  answer operation := fun ⟨_, below, above⟩ =>
    (lower.answer operation below).trans (upper.answer operation above)
  next operation := fun ⟨_, below, above⟩ =>
    ⟨_, lower.next operation below, upper.next operation above⟩

/-- The unwinding conditions of a service whose operations belong to zones. -/
structure Unwinds (service : Service σ ο ρ) (zone : ο → ζ) (view : ζ → σ → τ) : Prop where
  answer : ∀ {state other} (operation : ο), view (zone operation) state = view (zone operation) other →
    (service.perform state operation).2 = (service.perform other operation).2
  next : ∀ {state other} (operation : ο), view (zone operation) state = view (zone operation) other →
    view (zone operation) (service.perform state operation).1 =
      view (zone operation) (service.perform other operation).1
  elsewhere : ∀ (state : σ) {operation : ο} {wanted : ζ}, zone operation ≠ wanted →
    view wanted (service.perform state operation).1 = view wanted state

/-- The answers a zone gets in a history are those of the history of its own operations. -/
theorem Unwinds.answers_filter [DecidableEq ζ] {service : Service σ ο ρ} {zone : ο → ζ}
    {view : ζ → σ → τ} (unwinds : service.Unwinds zone view) {wanted : ζ} {state other : σ}
    (agree : view wanted state = view wanted other) (operations : List ο) :
    (service.answers state operations).filter (fun entry => zone entry.1 = wanted) =
      service.answers other (operations.filter (fun operation => zone operation = wanted)) := by
  induction operations generalizing state other with
  | nil => rfl
  | cons operation rest ih =>
      by_cases own : zone operation = wanted
      · have same : view (zone operation) state = view (zone operation) other := by rw [own, agree]
        have onward := ih (own ▸ unwinds.next operation same)
        simp only [answers, List.filter_cons, own, decide_true, if_true]
        rw [onward, unwinds.answer operation same]
      · have onward := ih ((unwinds.elsewhere state own).trans agree)
        simp only [answers, List.filter_cons, own, decide_false]
        exact onward

end Service

end A2A.Library
