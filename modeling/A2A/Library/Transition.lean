import Mathlib.Data.List.Basic

namespace A2A.Library

/-! Labelled transition systems given by a partial step function.

A label carries every choice the environment makes in a step, so a list of
labels determines at most one run.  `Runs` is the inductive view of the same
runs, with a condition that every step has to meet; the invariant and
projection rules below are stated for it.
-/

structure System (σ : Type u) (ℓ : Type v) where
  step : σ → ℓ → Option σ

namespace System

variable {σ : Type u} {ℓ : Type v} (system : System σ ℓ)

def run : σ → List ℓ → Option σ
  | state, [] => some state
  | state, label :: rest => (system.step state label).bind (fun next => run next rest)

inductive Runs (allowed : σ → ℓ → Prop) (start : σ) : List ℓ → σ → Prop
  | refl : Runs allowed start [] start
  | snoc {labels : List ℓ} {state next : σ} {label : ℓ} :
      Runs allowed start labels state → allowed state label →
      system.step state label = some next → Runs allowed start (labels ++ [label]) next

/-- No step is excluded. -/
abbrev Reaches : σ → List ℓ → σ → Prop := system.Runs (fun _ _ => True)

variable {system} {allowed : σ → ℓ → Prop} {start state next : σ} {labels : List ℓ} {label : ℓ}

theorem run_append (first second : List ℓ) :
    system.run start (first ++ second) =
      (system.run start first).bind (fun middle => system.run middle second) := by
  induction first generalizing start with
  | nil => rfl
  | cons label rest ih =>
      simp only [List.cons_append, run]
      cases system.step start label with
      | none => rfl
      | some next => simpa using ih

theorem Runs.to_run (runs : system.Runs allowed start labels state) :
    system.run start labels = some state := by
  induction runs with
  | refl => rfl
  | snoc _ _ stepped ih => simp [run_append, ih, run, stepped]

theorem Runs.cons {middle : σ} (permitted : allowed start label)
    (stepped : system.step start label = some middle)
    (rest : system.Runs allowed middle labels state) :
    system.Runs allowed start (label :: labels) state := by
  induction rest with
  | refl => simpa using Runs.snoc .refl permitted stepped
  | snoc _ allowed stepped ih => exact .snoc ih allowed stepped

theorem Runs.trans {middle : σ} {more : List ℓ}
    (first : system.Runs allowed start labels middle)
    (second : system.Runs allowed middle more state) :
    system.Runs allowed start (labels ++ more) state := by
  induction second with
  | refl => simpa using first
  | snoc _ permitted stepped ih => rw [← List.append_assoc]; exact .snoc ih permitted stepped

theorem reaches_of_run (completed : system.run start labels = some state) :
    system.Reaches start labels state := by
  induction labels generalizing start with
  | nil => cases completed; exact .refl
  | cons label rest ih =>
      simp only [run, Option.bind_eq_some_iff] at completed
      obtain ⟨middle, stepped, continued⟩ := completed
      exact .cons trivial stepped (ih continued)

theorem Runs.mono {weaker : σ → ℓ → Prop} (runs : system.Runs allowed start labels state)
    (implies : ∀ state label, allowed state label → weaker state label) :
    system.Runs weaker start labels state := by
  induction runs with
  | refl => exact .refl
  | snoc _ permitted stepped ih => exact .snoc ih (implies _ _ permitted) stepped

/-- A run that stops at the first step an executable check refuses. -/
def checkedRun (system : System σ ℓ) (check : σ → ℓ → Bool) : σ → List ℓ → Option σ
  | state, [] => some state
  | state, label :: rest =>
      if check state label then
        (system.step state label).bind (fun next => checkedRun system check next rest)
      else none

theorem runs_of_checkedRun {check : σ → ℓ → Bool} {invariant : σ → Prop}
    (sound : ∀ state label, invariant state → check state label = true → allowed state label)
    (preserved : ∀ {state label next}, invariant state → check state label = true →
      system.step state label = some next → invariant next)
    (initially : invariant start) (completed : system.checkedRun check start labels = some state) :
    system.Runs allowed start labels state := by
  induction labels generalizing start with
  | nil => cases completed; exact .refl
  | cons label rest ih =>
      simp only [checkedRun] at completed
      split at completed
      · rename_i passed
        obtain ⟨middle, stepped, continued⟩ := Option.bind_eq_some_iff.mp completed
        exact .cons (sound _ _ initially passed) stepped
          (ih (preserved initially passed stepped) continued)
      · cases completed

/-- What holds at the start and is kept by every permitted step holds wherever a run ends. -/
theorem Runs.invariant (runs : system.Runs allowed start labels state) (invariant : σ → Prop)
    (initially : invariant start)
    (preserved : ∀ {state label next}, invariant state → allowed state label →
      system.step state label = some next → invariant next) :
    invariant state := by
  induction runs with
  | refl => exact initially
  | snoc _ permitted stepped ih => exact preserved ih permitted stepped

/-- The invariant rule for properties that also speak of the labels seen so far. -/
theorem Runs.history (runs : system.Runs allowed start labels state) (property : List ℓ → σ → Prop)
    (initially : property [] start)
    (preserved : ∀ {labels state label next}, property labels state → allowed state label →
      system.step state label = some next → property (labels ++ [label]) next) :
    property labels state := by
  induction runs with
  | refl => exact initially
  | snoc _ permitted stepped ih => exact preserved ih permitted stepped

/-- Deleting labels: when every kept step can be repeated on the projected state
and every other step leaves the projection alone, the kept labels are a run. -/
theorem Runs.project {invariant : σ → Prop} {keep : ℓ → Bool} {projection : σ → σ}
    (runs : system.Runs allowed start labels state) (initially : invariant start)
    (preserved : ∀ {state label next}, invariant state → allowed state label →
      system.step state label = some next → invariant next)
    (kept : ∀ {state label next}, invariant state → allowed state label →
      system.step state label = some next → keep label = true →
      system.step (projection state) label = some (projection next))
    (dropped : ∀ {state label next}, invariant state → allowed state label →
      system.step state label = some next → keep label = false →
      projection next = projection state) :
    system.run (projection start) (labels.filter keep) = some (projection state) := by
  induction runs with
  | refl => rfl
  | @snoc labels state next label earlier permitted stepped ih =>
      have holds := earlier.invariant invariant initially preserved
      rw [List.filter_append, run_append, ih]
      cases choice : keep label with
      | true =>
          simp [choice, run, kept holds permitted stepped choice]
      | false =>
          simp [choice, run, dropped holds permitted stepped choice]

/-- When every step can be repeated on a related state, possibly under another label, so can
the whole run. -/
theorem Runs.simulate {related : σ → σ → Prop} {relabel : ℓ → ℓ} {twin : σ}
    (runs : system.Runs allowed start labels state) (initially : related start twin)
    (repeated : ∀ {state twin label next}, related state twin → allowed state label →
      system.step state label = some next →
      ∃ after, system.step twin (relabel label) = some after ∧ related next after) :
    ∃ reached, system.run twin (labels.map relabel) = some reached ∧ related state reached := by
  induction runs with
  | refl => exact ⟨twin, rfl, initially⟩
  | snoc _ permitted stepped ih =>
      obtain ⟨middle, completed, alike⟩ := ih
      obtain ⟨after, again, kept⟩ := repeated alike permitted stepped
      refine ⟨after, ?_, kept⟩
      rw [List.map_append, run_append, completed]
      simp [run, again]

end System

end A2A.Library
