import A2A.Json.Readable
import A2A.Signature.Base

namespace A2A

open Library

/-! The leaves of a JSON value, its filled values with the paths to them, and what
cleaning and ordering make of them. -/

section Leaves

mutual

/-- Whether there is anything within a value but empty texts, lists and objects. -/
def filled : JsonValue → Bool
  | .null => false
  | .bool _ | .number _ => true
  | .string value => value ≠ ""
  | .array values => filledElements values
  | .object fields => filledMembers fields

def filledElements : List JsonValue → Bool
  | [] => false
  | value :: rest => filled value || filledElements rest

def filledMembers : List (String × JsonValue) → Bool
  | [] => false
  | (_, value) :: rest => filled value || filledMembers rest

end

/-- A way from a value to one within it.  Positions count the filled elements. -/
inductive JsonStep where
  | key (name : String)
  | position (index : Nat)
deriving DecidableEq

/-- The filled text, number or truth value at the end of a path. -/
def leafAt : List JsonStep → JsonValue → Option JsonValue
  | [], .bool value => some (.bool value)
  | [], .number value => some (.number value)
  | [], .string value => if value = "" then none else some (.string value)
  | .key name :: path, .object fields => (OrderedMap.lookup fields name).bind (leafAt path)
  | .position index :: path, .array values => (values.filter filled)[index]?.bind (leafAt path)
  | _, _ => none

theorem filledElements_eq (values : List JsonValue) : filledElements values = values.any filled := by
  induction values with
  | nil => rfl
  | cons value rest ih => rw [filledElements, ih, List.any_cons]

theorem filledMembers_eq (fields : List (String × JsonValue)) :
    filledMembers fields = fields.any (fun member => filled member.2) := by
  induction fields with
  | nil => rfl
  | cons member rest ih => rw [filledMembers, ih, List.any_cons]

end Leaves

section Cleaning

/-- The keys of a JavaScript object that assignments made. -/
def OwnKeys (keys : List String) : Prop := keys.Nodup ∧ "__proto__" ∉ keys

theorem cleanEmpty_array (values : List JsonValue) :
    cleanEmpty (.array values) =
      if cleanElements values = [] then none else some (.array (cleanElements values)) := by
  rw [cleanEmpty]
  split
  · rename_i empty
    rw [if_pos empty]
  · rename_i filled
    rw [if_neg filled]

theorem cleanEmpty_object (fields : List (String × JsonValue)) :
    cleanEmpty (.object fields) =
      if cleanMembers fields = [] then none else some (.object (cleanMembers fields)) := by
  rw [cleanEmpty]
  split
  · rename_i empty
    rw [if_pos empty]
  · rename_i filled
    rw [if_neg filled]

theorem ownKeys_tail {member : String × JsonValue} {rest : List (String × JsonValue)}
    (own : OwnKeys ((member :: rest).map Prod.fst)) :
    member.1 ≠ "__proto__" ∧ member.1 ∉ rest.map Prod.fst ∧ OwnKeys (rest.map Prod.fst) := by
  obtain ⟨distinct, plain⟩ := own
  rw [List.map_cons, List.nodup_cons] at distinct
  rw [List.map_cons, List.mem_cons, not_or] at plain
  exact ⟨Ne.symm plain.1, distinct.1, distinct.2, plain.2⟩

/-- The cleaned object has the cleaned values of the object, under their own keys. -/
theorem lookup_cleanMembers {fields : List (String × JsonValue)} (own : OwnKeys (fields.map Prod.fst))
    (key : String) :
    OrderedMap.lookup (cleanMembers fields) key = (OrderedMap.lookup fields key).bind cleanEmpty := by
  induction fields with
  | nil => rfl
  | cons member rest ih =>
      obtain ⟨first, value⟩ := member
      obtain ⟨plain, fresh, others⟩ := ownKeys_tail own
      have later := ih others
      cases cleaned : cleanEmpty value with
      | none =>
          by_cases same : first = key
          · subst same
            have absent := OrderedMap.lookup_of_not_mem fresh
            simp [cleanMembers, cleaned, later, OrderedMap.lookup, absent]
          · simp [cleanMembers, cleaned, later, OrderedMap.lookup, same]
      | some cleanedValue =>
          by_cases same : first = key
          · subst same
            simp [cleanMembers, cleaned, if_neg plain, OrderedMap.lookup]
          · simp [cleanMembers, cleaned, if_neg plain, OrderedMap.lookup, same, later]

mutual

theorem isSome_cleanEmpty : ∀ value : JsonValue, value.EveryObject OwnKeys →
    (cleanEmpty value).isSome = filled value
  | .null, _ => rfl
  | .bool _, _ => rfl
  | .number _, _ => rfl
  | .string value, _ => by
      by_cases empty : value = "" <;> simp [cleanEmpty, filled, empty]
  | .array values, own => by
      have elements := cleanElements_filled values own
      rw [cleanEmpty_array, filled, ← elements]
      by_cases empty : cleanElements values = [] <;> simp [empty]
  | .object fields, own => by
      have members := cleanMembers_filled fields own.1 own.2
      rw [cleanEmpty_object, filled, ← members]
      by_cases empty : cleanMembers fields = [] <;> simp [empty]

theorem cleanElements_filled : ∀ values : List JsonValue, JsonValue.EveryElement OwnKeys values →
    (!(cleanElements values).isEmpty) = filledElements values
  | [], _ => rfl
  | value :: rest, own => by
      have first := isSome_cleanEmpty value own.1
      have others := cleanElements_filled rest own.2
      cases cleaned : cleanEmpty value <;>
        simp [cleanElements, filledElements, cleaned, ← first, ← others]

theorem cleanMembers_filled : ∀ fields : List (String × JsonValue), OwnKeys (fields.map Prod.fst) →
    JsonValue.EveryMember OwnKeys fields → (!(cleanMembers fields).isEmpty) = filledMembers fields
  | [], _, _ => rfl
  | (key, value) :: rest, own, owns => by
      have first := isSome_cleanEmpty value owns.1
      obtain ⟨plain, -, more⟩ := ownKeys_tail own
      have others := cleanMembers_filled rest more owns.2
      cases cleaned : cleanEmpty value <;>
        simp [cleanMembers, filledMembers, cleaned, if_neg plain, ← first, ← others]

end

theorem cleanMembers_sublist (fields : List (String × JsonValue)) :
    ((cleanMembers fields).map Prod.fst).Sublist (fields.map Prod.fst) := by
  induction fields with
  | nil => exact .slnil
  | cons member rest ih =>
      rw [cleanMembers]
      split
      · exact ih.cons _
      · split
        · exact ih.cons _
        · exact ih.cons_cons _

/-- What holds of a value as soon as it holds of the values in it, where these are
what cleaning leaves and `keysHold` tells of the keys that were there before. -/
structure CleanRule (keysHold : List String → Prop) (holds : JsonValue → Prop) : Prop where
  bool : ∀ value, holds (.bool value)
  number : ∀ value, holds (.number value)
  string : ∀ value, value ≠ "" → holds (.string value)
  array : ∀ values, values ≠ [] → (∀ value ∈ values, holds value) → holds (.array values)
  object : ∀ fields keys, fields ≠ [] → keysHold keys → (fields.map Prod.fst).Sublist keys →
    (∀ member ∈ fields, holds member.2) → holds (.object fields)

section Rule

variable {keysHold : List String → Prop} {holds : JsonValue → Prop}

mutual

theorem CleanRule.cleaned (rule : CleanRule keysHold holds) : ∀ value : JsonValue,
    value.EveryObject keysHold → ∀ cleaned, cleanEmpty value = some cleaned → holds cleaned
  | .null, _, _, cleans => nomatch cleans
  | .bool value, _, _, rfl => rule.bool value
  | .number value, _, _, rfl => rule.number value
  | .string value, _, _, cleans => by
      rw [cleanEmpty] at cleans
      split at cleans
      · cases cleans
      · rename_i filled
        cases cleans
        exact rule.string value filled
  | .array values, every, _, cleans => by
      have elements := rule.cleanedElements values every
      rw [cleanEmpty_array] at cleans
      split at cleans
      · cases cleans
      · rename_i filled
        cases cleans
        exact rule.array _ filled elements
  | .object fields, every, _, cleans => by
      have members := rule.cleanedMembers fields every.2
      rw [cleanEmpty_object] at cleans
      split at cleans
      · cases cleans
      · rename_i filled
        cases cleans
        exact rule.object _ _ filled every.1 (cleanMembers_sublist fields) members

theorem CleanRule.cleanedElements (rule : CleanRule keysHold holds) : ∀ values : List JsonValue,
    JsonValue.EveryElement keysHold values → ∀ cleaned ∈ cleanElements values, holds cleaned
  | [], _ => fun _ absent => absurd absent List.not_mem_nil
  | value :: rest, every => by
      have first := rule.cleaned value every.1
      have later := rule.cleanedElements rest every.2
      rw [cleanElements]
      split
      · exact later
      · rename_i cleaned cleans
        exact List.forall_mem_cons.mpr ⟨first cleaned cleans, later⟩

theorem CleanRule.cleanedMembers (rule : CleanRule keysHold holds) :
    ∀ fields : List (String × JsonValue), JsonValue.EveryMember keysHold fields →
      ∀ cleaned ∈ cleanMembers fields, holds cleaned.2
  | [], _ => fun _ absent => absurd absent List.not_mem_nil
  | (key, value) :: rest, every => by
      have first := rule.cleaned value every.1
      have later := rule.cleanedMembers rest every.2
      rw [cleanMembers]
      split
      · exact later
      · rename_i cleaned cleans
        split
        · exact later
        · exact List.forall_mem_cons.mpr ⟨first cleaned cleans, later⟩

end

end Rule

theorem filled_rule : CleanRule OwnKeys (fun cleaned => filled cleaned = true) where
  bool _ := rfl
  number _ := rfl
  string value nonempty := by simp [filled, nonempty]
  array values nonempty each := by
    rw [filled, filledElements_eq, List.any_eq_true]
    obtain ⟨value, member⟩ := List.exists_mem_of_ne_nil values nonempty
    exact ⟨value, member, each value member⟩
  object fields _ nonempty _ _ each := by
    rw [filled, filledMembers_eq, List.any_eq_true]
    obtain ⟨member, listed⟩ := List.exists_mem_of_ne_nil fields nonempty
    exact ⟨member, listed, each member listed⟩

/-- The filled elements of a list and of its cleaned list stand at the same positions. -/
theorem getElem?_cleanElements {values : List JsonValue} (own : JsonValue.EveryElement OwnKeys values)
    (index : Nat) :
    ((cleanElements values).filter filled)[index]? =
      (values.filter filled)[index]?.bind cleanEmpty := by
  rw [List.filter_eq_self.mpr (filled_rule.cleanedElements values own)]
  induction values generalizing index with
  | nil => simp [cleanElements]
  | cons value rest ih =>
      have known := isSome_cleanEmpty value own.1
      cases cleans : cleanEmpty value with
      | none =>
          rw [cleans, Option.isSome_none] at known
          rw [cleanElements, cleans, List.filter_cons_of_neg (by simp [← known])]
          exact ih own.2 index
      | some kept =>
          rw [cleans, Option.isSome_some] at known
          rw [cleanElements, cleans, List.filter_cons_of_pos known.symm]
          cases index with
          | zero => simp [cleans]
          | succ index => simpa using ih own.2 index

theorem lookup_everyMember {holds : List String → Prop} {fields : List (String × JsonValue)}
    {key : String} {value : JsonValue} (every : JsonValue.EveryMember holds fields)
    (found : OrderedMap.lookup fields key = some value) : value.EveryObject holds := by
  induction fields with
  | nil => cases found
  | cons member rest ih =>
      obtain ⟨first, content⟩ := member
      rw [OrderedMap.lookup] at found
      split at found
      · rw [← Option.some.inj found]
        exact every.1
      · exact ih every.2 found

theorem distinct_rule : CleanRule List.Nodup (JsonValue.EveryObject List.Nodup) where
  bool _ := trivial
  number _ := trivial
  string _ _ := trivial
  array _ _ each := JsonValue.everyElement_iff.mpr each
  object _ _ _ distinct kept each := ⟨kept.nodup distinct, JsonValue.everyMember_iff.mpr each⟩

theorem leafAt_found {path : List JsonStep} (found : Option JsonValue)
    (each : ∀ value ∈ found, (cleanEmpty value).bind (leafAt path) = leafAt path value) :
    (found.bind cleanEmpty).bind (leafAt path) = found.bind (leafAt path) := by
  cases found with
  | none => rfl
  | some value => exact each value rfl

/-- Cleaning a value keeps its leaves, at their paths. -/
theorem leafAt_cleanEmpty (path : List JsonStep) {value : JsonValue} (own : value.EveryObject OwnKeys) :
    (cleanEmpty value).bind (leafAt path) = leafAt path value := by
  induction path generalizing value with
  | nil =>
      cases value with
      | null | bool value | number value => rfl
      | string value => by_cases empty : value = "" <;> simp [cleanEmpty, leafAt, empty]
      | array values =>
          rw [cleanEmpty_array]
          split <;> rfl
      | object fields =>
          rw [cleanEmpty_object]
          split <;> rfl
  | cons step path ih =>
      cases value with
      | null | bool value | number value => cases step <;> rfl
      | string value => cases step <;> by_cases empty : value = "" <;> simp [cleanEmpty, leafAt, empty]
      | array values =>
          cases step with
          | key name =>
              rw [cleanEmpty_array]
              split <;> rfl
          | position index =>
              have elements := getElem?_cleanElements own index
              have kept := leafAt_found (values.filter filled)[index]? fun value found =>
                ih (JsonValue.everyElement_iff.mp own value
                  (List.mem_filter.mp (List.mem_of_getElem? found)).1)
              rw [leafAt, ← kept, ← elements, cleanEmpty_array]
              split
              · rename_i empty
                simp [empty]
              · rfl
      | object fields =>
          cases step with
          | key name =>
              have members := lookup_cleanMembers own.1 name
              have kept := leafAt_found (OrderedMap.lookup fields name) fun value found =>
                ih (lookup_everyMember own.2 found)
              rw [leafAt, ← kept, ← members, cleanEmpty_object]
              split
              · rename_i empty
                simp [empty, OrderedMap.lookup]
              · rfl
          | position index =>
              rw [cleanEmpty_object]
              split <;> rfl

end Cleaning

section Ordering

mutual

/-- A value whose members stand in the order of their keys, as its canonical text has them. -/
def ordered : JsonValue → JsonValue
  | .null => .null
  | .bool value => .bool value
  | .number value => .number value
  | .string value => .string value
  | .array values => .array (orderedElements values)
  | .object fields => .object (sortMembers (orderedMembers fields))

def orderedElements : List JsonValue → List JsonValue
  | [] => []
  | value :: rest => ordered value :: orderedElements rest

def orderedMembers : List (String × JsonValue) → List (String × JsonValue)
  | [] => []
  | (key, value) :: rest => (key, ordered value) :: orderedMembers rest

end

theorem orderedElements_eq (values : List JsonValue) : orderedElements values = values.map ordered := by
  induction values with
  | nil => rfl
  | cons value rest ih => rw [orderedElements, ih, List.map_cons]

theorem orderedMembers_keys (fields : List (String × JsonValue)) :
    (orderedMembers fields).map Prod.fst = fields.map Prod.fst := by
  induction fields with
  | nil => rfl
  | cons member rest ih => rw [orderedMembers, List.map_cons, ih, List.map_cons]

theorem mem_orderedMembers {fields : List (String × JsonValue)} {member : String × JsonValue}
    (listed : member ∈ orderedMembers fields) :
    ∃ source ∈ fields, member.2 = ordered source.2 := by
  induction fields with
  | nil => cases listed
  | cons first rest ih =>
      rcases List.mem_cons.mp listed with same | behind
      · exact ⟨first, List.mem_cons_self, by rw [same]⟩
      · obtain ⟨source, within, same⟩ := ih behind
        exact ⟨source, List.mem_cons_of_mem _ within, same⟩

theorem sortMembers_perm (members : List (String × α)) : (sortMembers members).Perm members :=
  List.mergeSort_perm members _

theorem map_sortMembers (text : α → β) (members : List (String × α)) :
    (sortMembers members).map (fun member => (member.1, text member.2)) =
      sortMembers (members.map fun member => (member.1, text member.2)) :=
  List.map_mergeSort fun _ _ _ _ => rfl

section Text

variable (format : NumberFormat)

mutual

/-- The canonical text is `JSON.stringify` of the ordered value. -/
theorem jcsStringify_eq : ∀ value, jcsStringify format value = Json.stringify format (ordered value)
  | .null | .bool _ | .number _ | .string _ => rfl
  | .array values => by
      rw [jcsStringify, jcsElements_eq values, ordered, Json.stringify, Json.stringifyAll_eq]
  | .object fields => by
      have parts := map_sortMembers (Json.stringify format) (orderedMembers fields)
      rw [jcsStringify, jcsMembers_eq fields, ← parts, ordered, Json.stringify,
        Json.stringifyMembers_eq, List.map_map]
      rfl

theorem jcsElements_eq : ∀ values, jcsElements format values =
    (orderedElements values).map (Json.stringify format)
  | [] => rfl
  | value :: rest => by
      rw [jcsElements, jcsStringify_eq value, jcsElements_eq rest, orderedElements, List.map_cons]

theorem jcsMembers_eq : ∀ fields, jcsMembers format fields =
    (orderedMembers fields).map fun member => (member.1, Json.stringify format member.2)
  | [] => rfl
  | (key, value) :: rest => by
      rw [jcsMembers, jcsStringify_eq value, jcsMembers_eq rest, orderedMembers, List.map_cons]

end

end Text

mutual

theorem filled_ordered : ∀ value, filled (ordered value) = filled value
  | .null | .bool _ | .number _ | .string _ => rfl
  | .array values => filled_orderedElements values
  | .object fields => by
      rw [ordered, filled, filled, filledMembers_eq, (sortMembers_perm _).any_eq, ← filledMembers_eq]
      exact filled_orderedMembers fields

theorem filled_orderedElements : ∀ values, filledElements (orderedElements values) = filledElements values
  | [] => rfl
  | value :: rest => by
      rw [orderedElements, filledElements, filledElements, filled_ordered value,
        filled_orderedElements rest]

theorem filled_orderedMembers : ∀ fields, filledMembers (orderedMembers fields) = filledMembers fields
  | [] => rfl
  | (_, value) :: rest => by
      rw [orderedMembers, filledMembers, filledMembers, filled_ordered value,
        filled_orderedMembers rest]

end

theorem lookup_orderedMembers (fields : List (String × JsonValue)) (key : String) :
    OrderedMap.lookup (orderedMembers fields) key = (OrderedMap.lookup fields key).map ordered := by
  induction fields with
  | nil => rfl
  | cons member rest ih =>
      obtain ⟨first, value⟩ := member
      rw [orderedMembers, OrderedMap.lookup, OrderedMap.lookup]
      split
      · rfl
      · exact ih

theorem filter_orderedElements (values : List JsonValue) :
    (orderedElements values).filter filled = (values.filter filled).map ordered := by
  rw [orderedElements_eq, List.filter_map]
  have same : (filled ∘ ordered) = filled := funext filled_ordered
  rw [same]

/-- Ordering the members keeps the leaves. -/
theorem leafAt_ordered (path : List JsonStep) {value : JsonValue}
    (distinct : value.EveryObject List.Nodup) : leafAt path (ordered value) = leafAt path value := by
  induction path generalizing value with
  | nil => cases value <;> rfl
  | cons step path ih =>
      cases value with
      | null | bool value | number value | string value => cases step <;> rfl
      | array values =>
          cases step with
          | key name => rfl
          | position index =>
              rw [ordered, leafAt, leafAt, filter_orderedElements, List.getElem?_map]
              cases found : (values.filter filled)[index]? with
              | none => rfl
              | some value =>
                  exact ih (JsonValue.everyElement_iff.mp distinct value
                    (List.mem_filter.mp (List.mem_of_getElem? found)).1)
      | object fields =>
          cases step with
          | position index => rfl
          | key name =>
              have keys : ((orderedMembers fields).map Prod.fst).Nodup := by
                rw [orderedMembers_keys]
                exact distinct.1
              have searched := OrderedMap.lookup_perm keys (sortMembers_perm _).symm name
              rw [ordered, leafAt, leafAt, ← searched, lookup_orderedMembers]
              cases found : OrderedMap.lookup fields name with
              | none => rfl
              | some value => exact ih (lookup_everyMember distinct.2 found)

end Ordering

end A2A
