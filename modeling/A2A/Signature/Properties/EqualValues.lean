import A2A.Signature.Properties.CanonicalForms

namespace A2A

open Library

/-! `jcsStringify` is canonical: a text stands for one value, whatever the order of its keys. -/

/-- A JSON value of the runtime, whose objects hold each key once. -/
structure ProperValue where
  value : JsonValue
  distinct : value.EveryObject List.Nodup

mutual

/-- Values that are equal up to the order of object keys. -/
inductive EqualValues : JsonValue → JsonValue → Prop
  | null : EqualValues .null .null
  | bool (value : Bool) : EqualValues (.bool value) (.bool value)
  | number (value : Rat) : EqualValues (.number value) (.number value)
  | string (value : String) : EqualValues (.string value) (.string value)
  | array {values others : List JsonValue} : EqualElements values others →
      EqualValues (.array values) (.array others)
  | object {fields moved others : List (String × JsonValue)} : EqualMembers fields moved →
      moved.Perm others → EqualValues (.object fields) (.object others)

inductive EqualElements : List JsonValue → List JsonValue → Prop
  | nil : EqualElements [] []
  | cons {value other : JsonValue} {rest more : List JsonValue} : EqualValues value other →
      EqualElements rest more → EqualElements (value :: rest) (other :: more)

inductive EqualMembers : List (String × JsonValue) → List (String × JsonValue) → Prop
  | nil : EqualMembers [] []
  | cons (key : String) {value other : JsonValue} {rest more : List (String × JsonValue)} :
      EqualValues value other → EqualMembers rest more →
        EqualMembers ((key, value) :: rest) ((key, other) :: more)

end

section Sorting

/-- Members with distinct keys have one sorted order. -/
theorem sortMembers_eq_of_perm {members others : List (String × α)}
    (distinct : (members.map Prod.fst).Nodup) (moved : members.Perm others) :
    sortMembers members = sortMembers others := by
  have sortedPerm : (sortMembers members).Perm (sortMembers others) :=
    ((sortMembers_perm members).trans moved).trans (sortMembers_perm others).symm
  have kept : ((sortMembers members).map Prod.fst).Nodup :=
    ((sortMembers_perm members).map Prod.fst).nodup_iff.mpr distinct
  have keepsOther : ((sortMembers others).map Prod.fst).Nodup :=
    (sortedPerm.map Prod.fst).nodup_iff.mp kept
  exact sorted_ext (sortMembers_sorted members) (sortMembers_sorted others) kept keepsOther
    (OrderedMap.lookup_perm kept sortedPerm)

theorem perm_of_sortMembers_eq {members others : List (String × α)}
    (same : sortMembers members = sortMembers others) : members.Perm others := by
  have sorted := (sortMembers_perm members).symm
  rw [same] at sorted
  exact sorted.trans (sortMembers_perm others)

/-- A rearranged image is the image of a rearranged list. -/
theorem exists_perm_of_perm_map {f : α → β} {images : List β} {sources : List α}
    (moved : images.Perm (sources.map f)) :
    ∃ rearranged : List α, rearranged.map f = images ∧ rearranged.Perm sources := by
  generalize mapped : sources.map f = target at moved
  induction moved generalizing sources with
  | nil => exact ⟨[], rfl, by rw [List.map_eq_nil_iff.mp mapped]⟩
  | cons image _ ih =>
      obtain ⟨source, rest, rfl, rfl, behind⟩ := List.map_eq_cons_iff.mp mapped
      obtain ⟨rearranged, images, back⟩ := ih behind
      exact ⟨source :: rearranged, by rw [List.map_cons, images], back.cons source⟩
  | swap image other _ =>
      obtain ⟨source, rest, rfl, rfl, behind⟩ := List.map_eq_cons_iff.mp mapped
      obtain ⟨next, more, rfl, rfl, rfl⟩ := List.map_eq_cons_iff.mp behind
      exact ⟨next :: source :: more, rfl, List.Perm.swap ..⟩
  | trans _ _ first second =>
      obtain ⟨between, images, back⟩ := second mapped
      obtain ⟨rearranged, targets, further⟩ := first images
      exact ⟨rearranged, targets, further.trans back⟩

end Sorting

section Ordering

theorem orderedMembers_eq (fields : List (String × JsonValue)) :
    orderedMembers fields = fields.map fun member => (member.1, ordered member.2) := by
  induction fields with
  | nil => rfl
  | cons member rest ih => rw [orderedMembers, ih, List.map_cons]

mutual

/-- The recursion is on the derivation: what is equal up to order has one ordered form. -/
theorem EqualValues.ordered_eq : ∀ {value other : JsonValue}, EqualValues value other →
    value.EveryObject List.Nodup → ordered value = ordered other
  | _, _, .null, _ | _, _, .bool _, _ | _, _, .number _, _ | _, _, .string _, _ => rfl
  | _, _, .array each, distinct => by
      rw [ordered, ordered, EqualElements.ordered_eq each distinct]
  | _, _, @EqualValues.object fields moved others each back, distinct => by
      have members := EqualMembers.ordered_eq each distinct.2
      have keys : ((orderedMembers fields).map Prod.fst).Nodup := by
        rw [orderedMembers_keys]
        exact distinct.1
      have movedBack : (orderedMembers moved).Perm (orderedMembers others) := by
        rw [orderedMembers_eq, orderedMembers_eq]
        exact back.map _
      rw [ordered, ordered, sortMembers_eq_of_perm keys (members ▸ movedBack)]

theorem EqualElements.ordered_eq : ∀ {values others : List JsonValue}, EqualElements values others →
    JsonValue.EveryElement List.Nodup values → orderedElements values = orderedElements others
  | _, _, .nil, _ => rfl
  | _, _, .cons first each, distinct => by
      rw [orderedElements, orderedElements, EqualValues.ordered_eq first distinct.1,
        EqualElements.ordered_eq each distinct.2]

theorem EqualMembers.ordered_eq : ∀ {fields others : List (String × JsonValue)},
    EqualMembers fields others → JsonValue.EveryMember List.Nodup fields →
      orderedMembers fields = orderedMembers others
  | _, _, .nil, _ => rfl
  | _, _, .cons key first each, distinct => by
      rw [orderedMembers, orderedMembers, EqualValues.ordered_eq first distinct.1,
        EqualMembers.ordered_eq each distinct.2]

end

mutual

/-- The recursion is on the first value: one ordered form is that of equal values only. -/
theorem equalValues_of_ordered : ∀ {value other : JsonValue}, ordered value = ordered other →
    EqualValues value other
  | .null, other, same => by
      cases other <;> simp only [ordered, reduceCtorEq] at same
      exact .null
  | .bool value, other, same => by
      cases other <;> simp only [ordered, reduceCtorEq, JsonValue.bool.injEq] at same
      exact same ▸ .bool value
  | .number value, other, same => by
      cases other <;> simp only [ordered, reduceCtorEq, JsonValue.number.injEq] at same
      exact same ▸ .number value
  | .string value, other, same => by
      cases other <;> simp only [ordered, reduceCtorEq, JsonValue.string.injEq] at same
      exact same ▸ .string value
  | .array values, other, same => by
      cases other <;> simp only [ordered, reduceCtorEq, JsonValue.array.injEq] at same
      exact .array (equalElements_of_ordered same)
  | .object fields, other, same => by
      cases other <;> simp only [ordered, reduceCtorEq, JsonValue.object.injEq] at same
      rename_i others
      have moved : (orderedMembers fields).Perm (orderedMembers others) := perm_of_sortMembers_eq same
      rw [orderedMembers_eq others] at moved
      obtain ⟨rearranged, images, back⟩ := exists_perm_of_perm_map moved
      rw [← orderedMembers_eq] at images
      exact .object (equalMembers_of_ordered images.symm) back

theorem equalElements_of_ordered : ∀ {values others : List JsonValue},
    orderedElements values = orderedElements others → EqualElements values others
  | [], [], _ => .nil
  | [], _ :: _, same => nomatch same
  | _ :: _, [], same => nomatch same
  | _ :: _, _ :: _, same =>
      .cons (equalValues_of_ordered (List.cons.inj same).1) (equalElements_of_ordered (List.cons.inj same).2)

theorem equalMembers_of_ordered : ∀ {fields others : List (String × JsonValue)},
    orderedMembers fields = orderedMembers others → EqualMembers fields others
  | [], [], _ => .nil
  | [], _ :: _, same => nomatch same
  | _ :: _, [], same => nomatch same
  | (key, value) :: rest, (otherKey, other) :: more, same => by
      rw [orderedMembers, orderedMembers, List.cons.injEq, Prod.mk.injEq] at same
      obtain ⟨⟨keys, values⟩, members⟩ := same
      subst keys
      exact .cons key (equalValues_of_ordered values) (equalMembers_of_ordered members)

end

end Ordering

/-- Equal texts are those of values that differ in the order of their keys at most. -/
theorem jcsStringify_canonical (format : NumberFormat) (value other : ProperValue) :
    jcsStringify format value.value = jcsStringify format other.value ↔
      EqualValues value.value other.value := by
  rw [jcsStringify_eq, jcsStringify_eq, (Json.stringify_injective format).eq_iff]
  exact ⟨equalValues_of_ordered, fun equal => equal.ordered_eq value.distinct⟩

end A2A
