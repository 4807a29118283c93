import Mathlib.Data.List.Nodup

namespace A2A.Library

/-! A list laid over another one by key.

Every key is there once: those of the base in their places, then the new ones in the order in
which they first came.  The last item that came under a key stands for it.
-/

section EraseDups

variable {κ : Type u} [DecidableEq κ]

theorem nodup_eraseDups (keys : List κ) : keys.eraseDups.Nodup := by
  induction length : keys.length using Nat.strongRecOn generalizing keys with
  | ind size ih =>
      cases keys with
      | nil => exact List.nodup_nil
      | cons first rest =>
          rw [List.eraseDups_cons, List.nodup_cons, List.mem_eraseDups]
          refine ⟨by simp, ih _ ?_ _ rfl⟩
          have shorter := List.length_filter_le (fun key => !key == first) rest
          rw [List.length_cons] at length
          omega

/-- Only a list that repeats nothing is left as it is. -/
theorem eraseDups_eq_self {keys : List κ} : keys.eraseDups = keys ↔ keys.Nodup := by
  constructor
  · intro same
    exact same ▸ nodup_eraseDups keys
  · intro distinct
    induction keys with
    | nil => rfl
    | cons first rest ih =>
        obtain ⟨absent, others⟩ := List.nodup_cons.mp distinct
        have kept : rest.filter (fun key => !key == first) = rest := by
          refine List.filter_eq_self.mpr fun key member => ?_
          have apart : key ≠ first := fun same => absent (same ▸ member)
          simpa using apart
        rw [List.eraseDups_cons, kept, ih others]

end EraseDups

section Overlay

variable {α : Type u} {κ : Type v}

/-- No later item has the key of this one. -/
def Newest (keyOf : α → κ) (items : List α) (item : α) : Prop :=
  ∃ earlier later, items = earlier ++ item :: later ∧ ∀ other ∈ later, keyOf other ≠ keyOf item

variable [DecidableEq κ]

def newKeys (keyOf : α → κ) (base incoming : List α) : List κ :=
  (incoming.map keyOf).filter (· ∉ base.map keyOf)

structure Overlays (keyOf : α → κ) (base incoming merged : List α) : Prop where
  once : ∀ item ∈ base ++ incoming, (merged.map keyOf).count (keyOf item) = 1
  keys : merged.map keyOf = base.map keyOf ++ (newKeys keyOf base incoming).eraseDups
  newest : ∀ item ∈ merged,
    Newest keyOf incoming item ∨ item ∈ base ∧ ∀ other ∈ incoming, keyOf other ≠ keyOf item

variable {keyOf : α → κ} {base incoming merged : List α}

/-- Looking from the end finds the newest item. -/
theorem newest_of_find? {key : κ} {item : α}
    (found : incoming.reverse.find? (fun other => keyOf other = key) = some item) :
    Newest keyOf incoming item := by
  obtain ⟨named, after, before, whole, others⟩ := List.find?_eq_some_iff_append.mp found
  have cut := congrArg List.reverse whole
  rw [List.reverse_reverse, List.reverse_append, List.reverse_cons, List.append_assoc,
    List.singleton_append] at cut
  refine ⟨before.reverse, after.reverse, cut, fun other member => ?_⟩
  have apart := others other (List.mem_reverse.mp member)
  rw [of_decide_eq_true named]
  simpa using apart

theorem mem_newKeys {key : κ} :
    key ∈ newKeys keyOf base incoming ↔ key ∈ incoming.map keyOf ∧ key ∉ base.map keyOf := by
  rw [newKeys, List.mem_filter, decide_eq_true_iff]

/-- With the keys in their places each of them is there once. -/
theorem once_of_keys (distinct : (base.map keyOf).Nodup)
    (keys : merged.map keyOf = base.map keyOf ++ (newKeys keyOf base incoming).eraseDups) :
    ∀ item ∈ base ++ incoming, (merged.map keyOf).count (keyOf item) = 1 := by
  intro item member
  rw [keys]
  refine List.count_eq_one_of_mem (List.nodup_append.mpr ⟨distinct, nodup_eraseDups _, ?_⟩) ?_
  · intro key based other added same
    exact (mem_newKeys.mp (List.mem_eraseDups.mp added)).2 (same ▸ based)
  · rw [List.mem_append, List.mem_eraseDups, mem_newKeys]
    by_cases based : keyOf item ∈ base.map keyOf
    · exact .inl based
    · refine .inr ⟨?_, based⟩
      cases List.mem_append.mp member with
      | inl early => exact absurd (List.mem_map_of_mem early) based
      | inr late => exact List.mem_map_of_mem late

end Overlay

end A2A.Library
