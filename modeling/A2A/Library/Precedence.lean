import Mathlib.Data.List.Induction
import Mathlib.Data.List.Nodup
import Mathlib.Data.Set.List

namespace A2A.Library

/-! Which of two items comes first: in a list, in a part of it, and once it was sorted stably. -/

section Pairs

variable {α : Type} {items : List α} {first second last : α}

/-- A pair is in order in a list with one more element when it was before, or when the
new element comes second. -/
theorem pair_sublist_snoc : [first, second].Sublist (items ++ [last]) ↔
    [first, second].Sublist items ∨ second = last ∧ first ∈ items := by
  rw [← List.reverse_sublist]
  simp only [List.reverse_append, List.reverse_cons, List.reverse_nil, List.nil_append,
    List.singleton_append]
  rw [List.sublist_cons_iff]
  constructor
  · rintro (before | ⟨rest, parts, inside⟩)
    · exact .inl (List.reverse_sublist.mp (by simpa using before))
    · cases parts
      exact .inr ⟨rfl, by simpa using inside⟩
  · rintro (before | ⟨rfl, member⟩)
    · exact .inl (by simpa using List.reverse_sublist.mpr before)
    · exact .inr ⟨[first], rfl, by simpa using member⟩

theorem pair_sublist_total (one : first ∈ items) (two : second ∈ items) (differ : first ≠ second) :
    [first, second].Sublist items ∨ [second, first].Sublist items := by
  induction items using List.reverseRecOn with
  | nil => cases one
  | append_singleton items last ih =>
      rw [pair_sublist_snoc, pair_sublist_snoc]
      rw [List.mem_append, List.mem_singleton] at one two
      rcases one with one | rfl
      · rcases two with two | rfl
        · exact (ih one two).imp .inl .inl
        · exact .inl (.inr ⟨rfl, one⟩)
      · rcases two with two | rfl
        · exact .inr (.inr ⟨rfl, two⟩)
        · exact absurd rfl differ

theorem pair_sublist_asymm (distinct : items.Nodup) (pair : [first, second].Sublist items) :
    ¬ [second, first].Sublist items := by
  induction items using List.reverseRecOn with
  | nil => cases pair
  | append_singleton items last ih =>
      obtain ⟨before, -, apart⟩ := List.nodup_append.mp distinct
      have fresh : last ∉ items := fun member =>
        apart last member last (List.mem_singleton_self last) rfl
      rw [pair_sublist_snoc] at pair ⊢
      rintro (reversed | ⟨rfl, member⟩)
      · rcases pair with pair | ⟨rfl, _⟩
        · exact ih before pair reversed
        · exact fresh (reversed.subset List.mem_cons_self)
      · rcases pair with pair | ⟨rfl, _⟩
        · exact fresh (pair.subset List.mem_cons_self)
        · exact fresh member

/-- What comes after an item is what stands behind it. -/
theorem pair_sublist_append {passed rest : List α} (distinct : (passed ++ first :: rest).Nodup) :
    [first, second].Sublist (passed ++ first :: rest) ↔ second ∈ rest := by
  induction passed with
  | nil =>
      rw [List.nil_append, List.cons_sublist_cons, List.singleton_sublist]
  | cons other passed ih =>
      rw [List.cons_append, List.nodup_cons] at distinct
      rw [List.cons_append, ← ih distinct.2]
      constructor
      · intro pair
        cases pair with
        | cons _ inside => exact inside
        | cons_cons _ inside => exact absurd (by simp) distinct.1
      · exact fun inside => inside.cons other

/-- Items that a key tells apart stand in the order of their keys. -/
theorem pair_sublist_map {κ : Type} {keyOf : α → κ} (distinct : (items.map keyOf).Nodup)
    (one : first ∈ items) (two : second ∈ items) :
    [keyOf first, keyOf second].Sublist (items.map keyOf) ↔ [first, second].Sublist items := by
  constructor
  · intro pair
    obtain ⟨listed, inside, same⟩ := List.sublist_map_iff.mp pair
    obtain ⟨first', behind, rfl, key, same'⟩ := List.map_eq_cons_iff.mp same.symm
    obtain ⟨second', none, rfl, key', same''⟩ := List.map_eq_cons_iff.mp same'
    cases List.map_eq_nil_iff.mp same''
    have apart := List.inj_on_of_nodup_map distinct
    have here : first' ∈ items := inside.subset (by simp)
    have here' : second' ∈ items := inside.subset (by simp)
    rwa [apart here one key, apart here' two key'] at inside
  · exact fun pair => pair.map keyOf

end Pairs

/-- The comparator is a consistent order on the values that are admitted. -/
structure OrderedOn {α : Type} (admitted : α → Prop) (compares : α → α → Bool) : Prop where
  total : ∀ {first second}, admitted first → admitted second →
    compares first second || compares second first
  trans : ∀ {first second third}, admitted first → admitted second → admitted third →
    compares first second → compares second third → compares first third

section Sorting

variable {α : Type} {admitted : α → Prop} {compares : α → α → Bool} {items : List α}
  {first second : α}

/-- The comparator on the admitted values alone. -/
def onAdmitted (admitted : α → Prop) (compares : α → α → Bool)
    (first second : { item // admitted item }) : Bool :=
  compares first.val second.val

theorem mergeSort_map_val (compares : α → α → Bool) (items : List { item // admitted item }) :
    (items.map Subtype.val).mergeSort compares =
      (items.mergeSort (onAdmitted admitted compares)).map Subtype.val :=
  (List.map_mergeSort (f := Subtype.val) (fun _ _ _ _ => rfl)).symm

namespace OrderedOn

theorem onAdmitted_trans (ordered : OrderedOn admitted compares)
    (first second third : { item // admitted item }) :
    onAdmitted admitted compares first second → onAdmitted admitted compares second third →
      onAdmitted admitted compares first third :=
  ordered.trans first.2 second.2 third.2

theorem onAdmitted_total (ordered : OrderedOn admitted compares)
    (first second : { item // admitted item }) :
    onAdmitted admitted compares first second || onAdmitted admitted compares second first :=
  ordered.total first.2 second.2

theorem pairwise_sorted (ordered : OrderedOn admitted compares)
    (all : ∀ item ∈ items, admitted item) :
    (items.mergeSort compares).Pairwise (fun first second => compares first second) := by
  lift items to List { item // admitted item } using all
  rw [mergeSort_map_val, List.pairwise_map]
  exact List.pairwise_mergeSort ordered.onAdmitted_trans ordered.onAdmitted_total items

/-- The sort is stable: two items that are in order stay in order. -/
theorem pair_sorted (ordered : OrderedOn admitted compares) (all : ∀ item ∈ items, admitted item)
    (compared : compares first second) (pair : [first, second].Sublist items) :
    [first, second].Sublist (items.mergeSort compares) := by
  lift items to List { item // admitted item } using all
  obtain ⟨lifted, listed, same⟩ := List.sublist_map_iff.mp pair
  obtain ⟨first, behind, rfl, rfl, same'⟩ := List.map_eq_cons_iff.mp same.symm
  obtain ⟨second, none, rfl, rfl, same''⟩ := List.map_eq_cons_iff.mp same'
  cases List.map_eq_nil_iff.mp same''
  rw [mergeSort_map_val]
  exact (List.pair_sublist_mergeSort ordered.onAdmitted_trans ordered.onAdmitted_total compared
    listed).map Subtype.val

/-- Of two items the sort puts first the one that compares first, or, when they tie, the one
that came first. -/
theorem pair_sorted_iff (ordered : OrderedOn admitted compares)
    (all : ∀ item ∈ items, admitted item) (distinct : items.Nodup) (one : first ∈ items)
    (two : second ∈ items) (differ : first ≠ second) :
    [first, second].Sublist (items.mergeSort compares) ↔
      compares first second ∧ (compares second first → [first, second].Sublist items) := by
  have inOrder {first second : α} (pair : [first, second].Sublist (items.mergeSort compares)) :
      compares first second :=
    List.pairwise_iff_forall_sublist.mp (ordered.pairwise_sorted all) pair
  constructor
  · intro pair
    refine ⟨inOrder pair, fun ties => ?_⟩
    rcases pair_sublist_total one two differ with before | after
    · exact before
    · have reversed := ordered.pair_sorted all ties after
      have sorted := (List.mergeSort_perm items compares).nodup_iff.mpr distinct
      exact absurd reversed (pair_sublist_asymm sorted pair)
  · rintro ⟨compared, ties⟩
    rcases pair_sublist_total (List.mem_mergeSort.mpr one) (List.mem_mergeSort.mpr two) differ with
      sorted | reversed
    · exact sorted
    · exact ordered.pair_sorted all compared (ties (inOrder reversed))

end OrderedOn

end Sorting

end A2A.Library
