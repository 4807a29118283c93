import Mathlib.Data.String.Basic

namespace A2A.Library

open String

/-! Texts whose parts stand between separators, taken apart and put together again. -/

section Separator

variable (separator : Char)

theorem get_singleton : Pos.Raw.get (singleton separator) 0 = separator := by
  simpa using get_of_valid [] [separator]

theorem next_singleton : Pos.Raw.next (singleton separator) 0 = ⟨separator.utf8Size⟩ := by
  simpa using next_of_valid [] separator []

theorem atEnd_singleton : Pos.Raw.atEnd (singleton separator) ⟨separator.utf8Size⟩ = true := by
  simp [Pos.Raw.atEnd]

/-- The splitter has passed `passed`, and stands behind `part` of the part it is in. -/
theorem splitOnAux_singleton (passed part rest : List Char) (parts : List String) :
    splitOnAux (ofList (passed ++ part ++ rest)) (singleton separator) ⟨utf8Len passed⟩
        ⟨utf8Len passed + utf8Len part⟩ 0 parts =
      parts.reverse ++ (List.splitOnPPrepend (· == separator) rest part.reverse).map ofList := by
  induction rest generalizing passed part parts with
  | nil =>
      have atEnd := (atEnd_of_valid (passed ++ part) []).mpr rfl
      have taken := extract_of_valid passed part []
      rw [utf8Len_append] at atEnd
      rw [splitOnAux]
      simp only [atEnd, if_true, taken, List.splitOnPPrepend_nil, List.reverse_reverse,
        List.reverse_cons, List.map_cons, List.map_nil]
  | cons char rest ih =>
      have notEnd : ¬ Pos.Raw.atEnd (ofList (passed ++ part ++ char :: rest))
          ⟨utf8Len (passed ++ part)⟩ = true := by
        simp only [atEnd_of_valid, reduceCtorEq, not_false_eq_true]
      have found := get_of_valid (passed ++ part) (char :: rest)
      have moved := next_of_valid (passed ++ part) char rest
      rw [utf8Len_append] at notEnd found moved
      rw [splitOnAux, if_neg notEnd, found, get_singleton, List.headD_cons, moved, next_singleton]
      by_cases same : char = separator
      · subst same
        have back : Pos.Raw.unoffsetBy ⟨utf8Len passed + utf8Len part + char.utf8Size⟩
            ⟨char.utf8Size⟩ = ⟨utf8Len passed + utf8Len part⟩ := by
          simp [Pos.Raw.unoffsetBy]
        have later := ih (passed ++ part ++ [char]) [] (ofList part :: parts)
        rw [List.splitOnPPrepend_cons_pos (by simp)]
        simp only [beq_self_eq_true, if_true, atEnd_singleton, back,
          extract_of_valid passed part (char :: rest)]
        simpa [-ofList_append, Nat.add_assoc] using later
      · have back : Pos.Raw.unoffsetBy ⟨utf8Len passed + utf8Len part⟩ 0 =
            ⟨utf8Len passed + utf8Len part⟩ := rfl
        have later := ih passed (part ++ [char]) parts
        rw [List.splitOnPPrepend_cons_neg (by simpa using same)]
        simp only [beq_iff_eq, same, if_false, back, moved]
        simpa [-ofList_append, Nat.add_assoc] using later

theorem splitOn_singleton (text : String) :
    text.splitOn (singleton separator) = (text.toList.splitOn separator).map ofList := by
  have split := splitOnAux_singleton separator [] [] text.toList []
  have separates : (singleton separator == "") = false := by
    simp [← toList_inj]
  simpa [splitOn, separates, List.splitOn_eq_splitOnP] using split

variable {separator : Char} {head : String}

/-- A part without the separator is split off whole, and what follows it is put together again. -/
theorem splitOn_first (clear : separator ∉ head.toList) (tail : String) :
    ∃ part parts, (head ++ singleton separator ++ tail).splitOn (singleton separator) =
      head :: part :: parts ∧ (singleton separator).intercalate (part :: parts) = tail := by
  have split := List.splitOn_append_cons_self_of_not_mem clear tail.toList
  have joined : [separator].intercalate (tail.toList.splitOn separator) = tail.toList :=
    List.intercalate_splitOn separator
  cases parts : tail.toList.splitOn separator with
  | nil => exact absurd parts (List.splitOn_ne_nil separator tail.toList)
  | cons part rest =>
      refine ⟨ofList part, rest.map ofList, ?_, ?_⟩
      · rw [splitOn_singleton, toList_append, toList_append, toList_singleton, List.append_assoc,
          List.singleton_append, split, parts]
        simp
      · rw [← toList_inj, toList_intercalate, toList_singleton]
        rw [parts] at joined
        simpa [Function.comp_def] using joined

end Separator

end A2A.Library
