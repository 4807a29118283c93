import A2A.Library.AsyncIteration

namespace A2A.Library

/-! Iterators by the values that they yield, and what ends them. -/

variable {α : Type u} {ε : Type v} {β : Type w}

/-- How the iterator answers behind its last value. -/
def Pulled.ending (failure : Option ε) : Pulled α ε :=
  match failure with
  | none => .done
  | some error => .rejected error

/-- How a loop ends that takes every value. -/
def Ending.ofFailure (failure : Option ε) : Ending ε :=
  match failure with
  | none => .finished
  | some error => .failed error

/-- From a position on, the iterator yields these values; then it is done, or rejects. -/
def AsyncIterator.ListsFrom (iterator : AsyncIterator α ε) (failure : Option ε) : Nat → List α → Prop
  | position, [] => iterator.next position = .ending failure
  | position, value :: rest =>
      iterator.next position = .value value ∧ iterator.ListsFrom failure (position + 1) rest

/-- The iterator yields these values and then ends, and its `return()` does not reject. -/
structure AsyncIterator.Lists (iterator : AsyncIterator α ε) (values : List α) (failure : Option ε) : Prop where
  yields : iterator.ListsFrom failure 0 values
  quiet : ∀ use, (iterator.shut use).2 = none

/-- The answer to one `next()` of the iterator of a list. -/
def Pulled.ofList (values : List α) (failure : Option ε) (position : Nat) : Pulled α ε :=
  match values[position]? with
  | some held => .value held
  | none => if position = values.length then .ending failure else .done

theorem Pulled.ofList_done {values : List α} {failure : Option ε} {position later : Nat}
    (through : Pulled.ofList values failure position = .done) (behind : position ≤ later) :
    Pulled.ofList values failure later = .done := by
  have past : values.length ≤ position := by
    by_contra within
    rw [Pulled.ofList, List.getElem?_eq_getElem (Nat.lt_of_not_le within)] at through
    cases through
  rw [Pulled.ofList, List.getElem?_eq_none past] at through
  rw [Pulled.ofList, List.getElem?_eq_none (Nat.le_trans past behind)]
  dsimp only at through ⊢
  split
  · rename_i atEnd
    have same : position = values.length := by omega
    rw [if_pos same] at through
    exact through
  · rfl

/-- The iterator of a list. -/
def AsyncIterator.ofList (values : List α) (failure : Option ε) : AsyncIterator α ε where
  next := Pulled.ofList values failure
  close := some fun _ => none
  doneForGood := Pulled.ofList_done

theorem AsyncIterator.ofList_listsFrom (values before : List α) (failure : Option ε) :
    (AsyncIterator.ofList (before ++ values) failure).ListsFrom failure before.length values := by
  induction values generalizing before with
  | nil => simp [ListsFrom, ofList, Pulled.ofList]
  | cons value rest ih =>
      refine ⟨by simp [ofList, Pulled.ofList], ?_⟩
      have shifted := ih (before ++ [value])
      rwa [List.append_assoc, List.singleton_append, List.length_append] at shifted

theorem AsyncIterator.ofList_lists (values : List α) (failure : Option ε) :
    (AsyncIterator.ofList values failure).Lists values failure where
  yields := ofList_listsFrom values [] failure
  quiet _ := rfl

end A2A.Library
