import Mathlib.Data.List.TakeWhile

namespace A2A.Library

/-! Printing that a reader can follow from left to right.

A value is readable when its text, with any permitted text behind it, leaves no
doubt about where it ends and what it says.  Sequences of readable values are
readable between their separators and in front of a closing mark.
-/

/-- No other value has a text that could be the beginning of this one's, with
`follows` saying what may stand behind a text. -/
def ReadableAt (print : α → List γ) (follows : List γ → Prop) (value : α) : Prop :=
  ∀ {other : α} {rest more : List γ}, follows rest → follows more →
    print value ++ rest = print other ++ more → value = other ∧ rest = more

def Readable (print : α → List γ) (follows : List γ → Prop) : Prop :=
  ∀ value, ReadableAt print follows value

/-- What any text may follow. -/
def anything : List γ → Prop := fun _ => True

/-- A text that does not go on with a character of `within`. -/
def Stops (within : γ → Prop) (text : List γ) : Prop := ∀ char, text.head? = some char → ¬ within char

theorem stops_nil (within : γ → Prop) : Stops within [] := fun _ found => nomatch found

theorem stops_cons {within : γ → Prop} {char : γ} (outside : ¬ within char) (rest : List γ) :
    Stops within (char :: rest) := by
  intro found same
  cases same
  exact outside

section Printing

variable {α : Type u} {β : Type v} {γ : Type w} {print : α → List γ} {follows : List γ → Prop}

/-- Texts within one class of characters end where the class ends. -/
theorem append_eq_append_of_stops {within : γ → Prop} {text other rest more : List γ}
    (inside : ∀ char ∈ text, within char) (insides : ∀ char ∈ other, within char)
    (stops : Stops within rest) (stopped : Stops within more) (same : text ++ rest = other ++ more) :
    text = other ∧ rest = more := by
  induction text generalizing other with
  | nil =>
      cases other with
      | nil => exact ⟨rfl, same⟩
      | cons char tail =>
          rw [List.nil_append] at same
          exact absurd (insides char List.mem_cons_self) (stops char (by rw [same]; rfl))
  | cons char tail ih =>
      rw [List.forall_mem_cons] at inside
      cases other with
      | nil =>
          rw [List.nil_append] at same
          exact absurd inside.1 (stopped char (by rw [← same]; rfl))
      | cons next others =>
          rw [List.forall_mem_cons] at insides
          rw [List.cons_append, List.cons_append, List.cons.injEq] at same
          obtain ⟨tails, rests⟩ := ih inside.2 insides.2 same.2
          exact ⟨by rw [same.1, tails], rests⟩

theorem readable_of_within {within : γ → Prop} (inside : ∀ value, ∀ char ∈ print value, within char)
    (injective : Function.Injective print) : Readable print (Stops within) := by
  intro value other rest more stops stopped same
  obtain ⟨printed, rests⟩ :=
    append_eq_append_of_stops (inside value) (inside other) stops stopped same
  exact ⟨injective printed, rests⟩

/-- A readable text is told apart from the others even with nothing behind it. -/
theorem Readable.injective (readable : Readable print follows) (empty : follows []) :
    Function.Injective print := by
  intro value other same
  exact (readable value empty empty (by rw [same])).1

/-- Values that one closing mark ends. -/
theorem ReadableAt.closed {close : γ} {values : List α}
    (each : ∀ value ∈ values, ReadableAt print anything value)
    (opens : ∀ value, ∃ char rest, print value = char :: rest ∧ char ≠ close) :
    ReadableAt (fun values => values.flatMap print ++ [close]) anything values := by
  intro others rest more _ _ same
  induction values generalizing others with
  | nil =>
      cases others with
      | nil => exact ⟨rfl, by simpa using same⟩
      | cons other tail =>
          obtain ⟨char, text, printed, differs⟩ := opens other
          simp only [List.flatMap_nil, List.nil_append, List.flatMap_cons, printed, List.cons_append,
            List.cons.injEq] at same
          exact absurd same.1.symm differs
  | cons value values ih =>
      rw [List.forall_mem_cons] at each
      cases others with
      | nil =>
          obtain ⟨char, text, printed, differs⟩ := opens value
          simp only [List.flatMap_nil, List.nil_append, List.flatMap_cons, printed, List.cons_append,
            List.cons.injEq] at same
          exact absurd same.1 differs
      | cons other tail =>
          simp only [List.flatMap_cons, List.append_assoc] at same
          obtain ⟨first, behind⟩ := each.1 trivial trivial same
          have closed : (values.flatMap print ++ [close]) ++ rest =
              (tail.flatMap print ++ [close]) ++ more := by
            simpa using behind
          obtain ⟨tails, rests⟩ := ih each.2 closed
          exact ⟨by rw [first, tails], rests⟩

/-- What stands behind the first of several separated values. -/
def trailing (separator close : γ) (print : α → List γ) : List α → List γ
  | [] => [close]
  | value :: rest => separator :: (print value ++ trailing separator close print rest)

theorem intercalate_close (separator close : γ) (print : α → List γ) (first : α) (values : List α) :
    [separator].intercalate ((first :: values).map print) ++ [close] =
      print first ++ trailing separator close print values := by
  induction values generalizing first with
  | nil => simp [trailing]
  | cons next rest ih =>
      have later := ih next
      rw [List.map_cons] at later
      rw [List.map_cons, List.map_cons, List.intercalate_cons_cons, List.append_assoc, later, trailing]
      simp

section Separated

variable {separator close : γ} (differs : separator ≠ close)
  (separates : ∀ rest, follows (separator :: rest)) (closes : ∀ rest, follows (close :: rest))

include separates closes in
theorem trailing_follows (values : List α) (rest : List γ) :
    follows (trailing separator close print values ++ rest) := by
  cases values with
  | nil => exact closes rest
  | cons value values => exact separates _

include differs separates closes in
theorem ReadableAt.trailing {values : List α}
    (each : ∀ value ∈ values, ReadableAt print follows value) :
    ReadableAt (trailing separator close print) anything values := by
  intro others rest more _ _ same
  induction values generalizing others with
  | nil =>
      cases others with
      | nil => exact ⟨rfl, by simpa [Library.trailing] using same⟩
      | cons other tail =>
          rw [Library.trailing, Library.trailing, List.cons_append, List.cons_append, List.cons.injEq] at same
          exact absurd same.1.symm differs
  | cons value values ih =>
      rw [List.forall_mem_cons] at each
      cases others with
      | nil =>
          rw [Library.trailing, Library.trailing, List.cons_append, List.cons_append, List.cons.injEq] at same
          exact absurd same.1 differs
      | cons other tail =>
          rw [Library.trailing, Library.trailing, List.cons_append, List.cons_append, List.cons.injEq,
            List.append_assoc, List.append_assoc] at same
          obtain ⟨first, behind⟩ := each.1 (trailing_follows separates closes values rest)
            (trailing_follows separates closes tail more) same.2
          obtain ⟨tails, rests⟩ := ih each.2 behind
          exact ⟨by rw [first, tails], rests⟩

include differs separates closes in
/-- Values between separators, with a closing mark behind them. -/
theorem ReadableAt.separated {values : List α}
    (each : ∀ value ∈ values, ReadableAt print follows value)
    (opens : ∀ value, ∃ char rest, print value = char :: rest ∧ char ≠ close) :
    ReadableAt (fun values => [separator].intercalate (values.map print) ++ [close]) anything values := by
  intro others rest more _ _ same
  have empty : ∀ {value : α} {values : List α} {before behind : List γ},
      [separator].intercalate ([].map print) ++ [close] ++ before ≠
        [separator].intercalate ((value :: values).map print) ++ [close] ++ behind := by
    intro value values before behind same
    obtain ⟨char, text, printed, other⟩ := opens value
    rw [intercalate_close, printed, List.map_nil, List.intercalate_nil, List.nil_append,
      List.cons_append, List.cons_append, List.cons_append, List.cons.injEq] at same
    exact other same.1.symm
  cases values with
  | nil =>
      cases others with
      | nil => exact ⟨rfl, by simpa using same⟩
      | cons other tail => exact absurd same empty
  | cons value values =>
      cases others with
      | nil => exact absurd same.symm empty
      | cons other tail =>
          rw [List.forall_mem_cons] at each
          simp only [intercalate_close, List.append_assoc] at same
          obtain ⟨first, behind⟩ := each.1 (trailing_follows separates closes values rest)
            (trailing_follows separates closes tail more) same
          obtain ⟨tails, rests⟩ :=
            ReadableAt.trailing differs separates closes each.2 trivial trivial behind
          exact ⟨by rw [first, tails], rests⟩

end Separated

end Printing

end A2A.Library
