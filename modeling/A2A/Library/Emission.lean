import Mathlib.Data.List.Basic

namespace A2A.Library

/-! A reader that hands out results on the way, and that may fail for good.

`feed` reads item by item.  A reader that takes whole chunks, and does to each
what `feed` does to its items, cannot tell how its input was cut.
-/

/-- What a run has handed out, and the state or the failure that it ended with. -/
structure Emission (β : Type u) (ε : Type v) (σ : Type w) where
  emitted : List β
  ended : Except ε σ

namespace Emission

variable {α : Type u₁} {β : Type u} {ε : Type v} {σ : Type w} {τ υ : Type w}

def pure (state : σ) : Emission β ε σ := ⟨[], .ok state⟩

def fail (failure : ε) : Emission β ε σ := ⟨[], .error failure⟩

def bind (first : Emission β ε σ) (next : σ → Emission β ε τ) : Emission β ε τ :=
  match first.ended with
  | .ok state => ⟨first.emitted ++ (next state).emitted, (next state).ended⟩
  | .error failure => ⟨first.emitted, .error failure⟩

@[simp] theorem pure_bind (state : σ) (next : σ → Emission β ε τ) :
    (pure state).bind next = next state := by
  simp [pure, bind]

@[simp] theorem fail_bind (failure : ε) (next : σ → Emission β ε τ) :
    (fail failure : Emission β ε σ).bind next = fail failure := rfl

theorem ok_bind (emitted : List β) (state : σ) (next : σ → Emission β ε τ) :
    bind ⟨emitted, .ok state⟩ next = ⟨emitted ++ (next state).emitted, (next state).ended⟩ := rfl

@[simp] theorem bind_pure (first : Emission β ε σ) : first.bind pure = first := by
  obtain ⟨emitted, ended⟩ := first
  cases ended <;> simp [bind, pure]

theorem bind_assoc (first : Emission β ε σ) (second : σ → Emission β ε τ)
    (third : τ → Emission β ε υ) :
    (first.bind second).bind third = first.bind (fun state => (second state).bind third) := by
  obtain ⟨emitted, ended⟩ := first
  cases ended with
  | error failure => rfl
  | ok state =>
      simp only [bind]
      cases (second state).ended with
      | error failure => rfl
      | ok next => simp

theorem bind_congr {first : Emission β ε σ} {next other : σ → Emission β ε τ}
    (same : ∀ state, first.ended = .ok state → next state = other state) :
    first.bind next = first.bind other := by
  obtain ⟨emitted, ended⟩ := first
  cases ended with
  | error failure => rfl
  | ok state => simp [bind, same state rfl]

/-- A run that ends in a state has ended there in both of its halves. -/
theorem bind_ended {first : Emission β ε σ} {next : σ → Emission β ε τ} {state : τ}
    (ended : (first.bind next).ended = .ok state) :
    ∃ middle, first.ended = .ok middle ∧ (next middle).ended = .ok state := by
  obtain ⟨emitted, reached⟩ := first
  cases reached with
  | error failure => cases ended
  | ok middle => exact ⟨middle, rfl, ended⟩

/-- Hand out one result before anything else. -/
def emit (result : β) (rest : Emission β ε σ) : Emission β ε σ := ⟨result :: rest.emitted, rest.ended⟩

/-- The same run with every result tagged. -/
def mapEmitted {γ : Type u₂} (tag : β → γ) (run : Emission β ε σ) : Emission γ ε σ :=
  ⟨run.emitted.map tag, run.ended⟩

/-- The same run, of which only some results are seen. -/
def filterEmitted {γ : Type u₂} (seen : β → Option γ) (run : Emission β ε σ) : Emission γ ε σ :=
  ⟨run.emitted.filterMap seen, run.ended⟩

section Seen

variable {γ : Type u₂} {seen : β → Option γ}

theorem filterEmitted_bind (first : Emission β ε σ) (next : σ → Emission β ε τ) :
    (first.bind next).filterEmitted seen =
      (first.filterEmitted seen).bind fun state => (next state).filterEmitted seen := by
  obtain ⟨emitted, ended⟩ := first
  cases ended with
  | error failure => rfl
  | ok state => simp only [bind, filterEmitted, List.filterMap_append]

theorem filterEmitted_mapEmitted {tag : γ → β} (sees : ∀ result, seen (tag result) = some result)
    (run : Emission γ ε σ) : (run.mapEmitted tag).filterEmitted seen = run := by
  have same : seen ∘ tag = some := funext sees
  simp only [mapEmitted, filterEmitted, List.filterMap_map, same, List.filterMap_some]

theorem filterEmitted_emit_none {result : β} (unseen : seen result = none) (rest : Emission β ε σ) :
    (rest.emit result).filterEmitted seen = rest.filterEmitted seen := by
  simp only [emit, filterEmitted, List.filterMap_cons_none unseen]

end Seen

/-- What two runs hand out one after the other is handed out by the first, or by the second
behind the state that the first ends in. -/
theorem mem_bind {first : Emission β ε σ} {next : σ → Emission β ε τ} {result : β}
    (handed : result ∈ (first.bind next).emitted) :
    result ∈ first.emitted ∨ ∃ state, first.ended = .ok state ∧ result ∈ (next state).emitted := by
  obtain ⟨emitted, ended⟩ := first
  cases ended with
  | error failure => exact .inl handed
  | ok state => exact (List.mem_append.mp handed).imp_right fun later => ⟨state, rfl, later⟩

/-- A run that fails has failed in one of its halves. -/
theorem bind_failed {first : Emission β ε σ} {next : σ → Emission β ε τ} {failure : ε}
    (ended : (first.bind next).ended = .error failure) :
    first.ended = .error failure ∨ ∃ state, first.ended = .ok state ∧ (next state).ended = .error failure := by
  obtain ⟨emitted, reached⟩ := first
  cases reached with
  | error earlier =>
      cases ended
      exact .inl rfl
  | ok state => exact .inr ⟨state, rfl, ended⟩

/-- Every result of a run is as `each` says, and it ends as `failed` or `reached` say. -/
structure Meets (each : β → Prop) (failed : ε → Prop) (reached : σ → Prop)
    (run : Emission β ε σ) : Prop where
  results : ∀ result ∈ run.emitted, each result
  failure : ∀ failure, run.ended = .error failure → failed failure
  state : ∀ state, run.ended = .ok state → reached state

namespace Meets

variable {each : β → Prop} {failed : ε → Prop} {reached : σ → Prop}

theorem pure {state : σ} (holds : reached state) :
    (pure state : Emission β ε σ).Meets each failed reached where
  results := List.forall_mem_nil _
  failure _ ended := nomatch ended
  state _ ended := Except.ok.inj ended ▸ holds

theorem fail {failure : ε} (holds : failed failure) :
    (fail failure : Emission β ε σ).Meets each failed reached where
  results := List.forall_mem_nil _
  failure _ ended := Except.error.inj ended ▸ holds
  state _ ended := nomatch ended

/-- What the first run reaches is what the second may start from. -/
theorem bind {after : τ → Prop} {first : Emission β ε σ} {next : σ → Emission β ε τ}
    (opening : first.Meets each failed reached)
    (closing : ∀ state, reached state → (next state).Meets each failed after) :
    (first.bind next).Meets each failed after where
  results result handed := by
    cases mem_bind handed with
    | inl early => exact opening.results result early
    | inr late =>
        obtain ⟨state, ended, later⟩ := late
        exact (closing state (opening.state state ended)).results result later
  failure failure ended := by
    cases bind_failed ended with
    | inl early => exact opening.failure failure early
    | inr late =>
        obtain ⟨state, reached, later⟩ := late
        exact (closing state (opening.state state reached)).failure failure later
  state state ended := by
    obtain ⟨middle, first, last⟩ := bind_ended ended
    exact (closing middle (opening.state middle first)).state state last

theorem emit {result : β} {rest : Emission β ε σ} (holds : each result)
    (meets : rest.Meets each failed reached) :
    (rest.emit result).Meets each failed reached where
  results := List.forall_mem_cons.mpr ⟨holds, meets.results⟩
  failure := meets.failure
  state := meets.state

theorem mapEmitted {γ : Type u₂} {tagged : γ → Prop} {tag : β → γ} {run : Emission β ε σ}
    (meets : run.Meets each failed reached) (holds : ∀ result, each result → tagged (tag result)) :
    (run.mapEmitted tag).Meets tagged failed reached where
  results := List.forall_mem_map.mpr fun result handed => holds result (meets.results result handed)
  failure := meets.failure
  state := meets.state

end Meets

section Feed

variable (step : σ → α → Emission β ε σ)

def feed : σ → List α → Emission β ε σ
  | state, [] => pure state
  | state, item :: rest => (step state item).bind (fun next => feed next rest)

variable {step}

theorem feed_append (state : σ) (items more : List α) :
    feed step state (items ++ more) =
      (feed step state items).bind (fun next => feed step next more) := by
  induction items generalizing state with
  | nil => simp [feed]
  | cons item rest ih => simp only [List.cons_append, feed, ih, bind_assoc]

/-- What each item keeps is kept by a list of them. -/
theorem feed_invariant {invariant : σ → Prop} {items : List α} {state reached : σ}
    (kept : ∀ {state item next}, invariant state → (step state item).ended = .ok next →
      invariant next)
    (holds : invariant state) (ended : (feed step state items).ended = .ok reached) :
    invariant reached := by
  induction items generalizing state with
  | nil =>
      cases ended
      exact holds
  | cons item rest ih =>
      obtain ⟨next, stepped, continued⟩ := bind_ended ended
      exact ih (kept holds stepped) continued

/-- A reader of chunks that does what `step` does to their items reads the joined chunks. -/
theorem feed_flatten {push : σ → List α → Emission β ε σ} {invariant : σ → Prop}
    {permitted : List α → Prop} {state : σ} {chunks : List (List α)}
    (agrees : ∀ state chunk, invariant state → permitted chunk →
      push state chunk = feed step state chunk)
    (kept : ∀ {state item next}, invariant state → (step state item).ended = .ok next →
      invariant next)
    (holds : invariant state) (each : ∀ chunk ∈ chunks, permitted chunk) :
    feed push state chunks = feed step state chunks.flatten := by
  induction chunks generalizing state with
  | nil => rfl
  | cons chunk rest ih =>
      rw [List.forall_mem_cons] at each
      rw [List.flatten_cons, feed_append, feed, agrees state chunk holds each.1]
      refine bind_congr (fun next ended => ih (feed_invariant kept holds ended) each.2)

end Feed

end Emission

end A2A.Library
