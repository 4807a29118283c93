import Mathlib.Data.List.Infix

namespace A2A.Library

/-! A chain of stages: each rewrites the value at hand or fails, until one of them asks to stop. -/

variable {Stage Value State : Type}

/-- The turn of one stage: what it saw and what it left, which is nothing where it failed. -/
structure Visit (Stage Value : Type) where
  stage : Stage
  seen : Value
  left : Option Value

/-- The chain does not go on behind this turn. -/
def Visit.ends (halts : Value → Bool) (visit : Visit Stage Value) : Bool := visit.left.all halts

/-- A walk along a chain: the turns it took, and the value and the state it left. -/
structure Passage (Stage Value State : Type) where
  visits : List (Visit Stage Value)
  left : Option Value
  state : State

/-- A walk behind the turn of an earlier stage. -/
def Passage.after (visit : Visit Stage Value) (passage : Passage Stage Value State) :
    Passage Stage Value State :=
  { passage with visits := visit :: passage.visits }

def pass (act : Stage → Value → State → Option Value × State) (halts : Value → Bool) :
    List Stage → Value → State → Passage Stage Value State
  | [], value, state => ⟨[], some value, state⟩
  | stage :: rest, value, state =>
      match act stage value state with
      | (none, next) => ⟨[⟨stage, value, none⟩], none, next⟩
      | (some left, next) =>
          if halts left then ⟨[⟨stage, value, some left⟩], some left, next⟩
          else (pass act halts rest left next).after ⟨stage, value, some left⟩

/-- Each turn left what its stage makes of what it saw, in the state that the one before it left. -/
def Acted (act : Stage → Value → State → Option Value × State) :
    State → List (Visit Stage Value) → State → Prop
  | state, [], final => final = state
  | state, visit :: later, final =>
      ∃ next, act visit.stage visit.seen state = (visit.left, next) ∧ Acted act next later final

/-- The turns of a walk are those of a prefix of the stages, in their order; each saw what
the one before it left; and the walk broke off only behind a turn that ended it. -/
structure Follows (act : Stage → Value → State → Option Value × State) (halts : Value → Bool)
    (stages : List Stage) (start : Value) (state : State) (visits : List (Visit Stage Value))
    (left : Option Value) (final : State) : Prop where
  ordered : visits.map Visit.stage <+: stages
  acted : Acted act state visits final
  linked : some start :: visits.map Visit.left = visits.map (fun visit => some visit.seen) ++ [left]
  proceeding : ∀ visit ∈ visits.dropLast, visit.ends halts = false
  whole : visits.map Visit.stage = stages ∨ ∃ visit ∈ visits.getLast?, visit.ends halts = true

variable {act : Stage → Value → State → Option Value × State} {halts : Value → Bool}
  {stage : Stage} {rest : List Stage} {start left : Value} {state next final : State}

/-- A walk that ends with its first turn. -/
theorem Follows.single {left : Option Value} (acted : act stage start state = (left, next))
    (ends : left.all halts = true) :
    Follows act halts (stage :: rest) start state [⟨stage, start, left⟩] left next where
  ordered := List.cons_prefix_cons.mpr ⟨rfl, List.nil_prefix⟩
  acted := ⟨next, acted, rfl⟩
  linked := rfl
  proceeding := by simp
  whole := .inr ⟨_, rfl, ends⟩

/-- A turn that lets the chain go on, in front of a walk along the stages behind it. -/
theorem Follows.cons {visits : List (Visit Stage Value)} {last : Option Value}
    (acted : act stage start state = (some left, next)) (goes : halts left = false)
    (follows : Follows act halts rest left next visits last final) :
    Follows act halts (stage :: rest) start state (⟨stage, start, some left⟩ :: visits) last final where
  ordered := List.cons_prefix_cons.mpr ⟨rfl, follows.ordered⟩
  acted := ⟨next, acted, follows.acted⟩
  linked := by
    rw [List.map_cons, List.map_cons, List.cons_append, follows.linked]
  proceeding := by
    intro visit member
    cases visits with
    | nil => simp at member
    | cons next others =>
        rcases List.mem_cons.mp member with rfl | later
        · exact goes
        · exact follows.proceeding visit later
  whole := by
    rcases follows.whole with all | ⟨visit, last, ends⟩
    · exact .inl (by rw [List.map_cons, all])
    · refine .inr ⟨visit, ?_, ends⟩
      cases visits with
      | nil => simp at last
      | cons next others => simpa only [List.getLast?_cons_cons] using last

theorem pass_follows (stages : List Stage) (start : Value) (state : State) :
    Follows act halts stages start state (pass act halts stages start state).visits
      (pass act halts stages start state).left (pass act halts stages start state).state := by
  induction stages generalizing start state with
  | nil => exact ⟨List.prefix_refl _, rfl, rfl, by simp [pass], .inl rfl⟩
  | cons stage rest ih =>
      rcases turn : act stage start state with ⟨left, next⟩
      cases left with
      | none => simpa only [pass, turn] using Follows.single turn rfl
      | some left =>
          by_cases stops : halts left = true
          · simpa only [pass, turn, if_pos stops] using Follows.single turn stops
          · simpa only [pass, turn, if_neg stops, Passage.after] using
              Follows.cons turn (by simpa using stops) (ih left next)

/-- A walk that left a value which asks for no stop took the turn of every stage. -/
theorem Follows.all_stages {stages : List Stage} {visits : List (Visit Stage Value)}
    (follows : Follows act halts stages start state visits (some left) final) (goes : halts left = false) :
    visits.map Visit.stage = stages := by
  refine follows.whole.resolve_right ?_
  rintro ⟨visit, last, ends⟩
  have tails := congrArg List.getLast? follows.linked
  have left' : visit.left = some left := by
    obtain ⟨others, rfl⟩ := List.getLast?_eq_some_iff.mp last
    rw [List.map_append, List.map_singleton, ← List.cons_append, List.getLast?_concat,
      List.getLast?_concat] at tails
    exact Option.some.inj tails
  rw [Visit.ends, left'] at ends
  simp [goes] at ends

end A2A.Library
