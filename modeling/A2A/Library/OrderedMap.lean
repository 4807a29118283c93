import Mathlib.Data.List.Nodup

namespace A2A.Library

/-! A finite map that remembers the order in which its keys first arrived.

Overwriting a key keeps its place, a new key goes to the end.  The entry list
is the representation; distinct keys are part of the type, so a map with two
entries for one key cannot be built.
-/

structure OrderedMap (κ : Type u) (α : Type v) where
  entries : List (κ × α)
  distinct : (entries.map Prod.fst).Nodup

namespace OrderedMap

variable {κ : Type u} {α : Type v} [DecidableEq κ]

def empty : OrderedMap κ α := ⟨[], List.nodup_nil⟩

instance : Inhabited (OrderedMap κ α) := ⟨empty⟩

def lookup : List (κ × α) → κ → Option α
  | [], _ => none
  | (key, value) :: rest, wanted => if key = wanted then some value else lookup rest wanted

def assign : List (κ × α) → κ → α → List (κ × α)
  | [], key, value => [(key, value)]
  | (first, old) :: rest, key, value =>
      if first = key then (key, value) :: rest else (first, old) :: assign rest key value

def remove : List (κ × α) → κ → List (κ × α)
  | [], _ => []
  | (first, value) :: rest, key => if first = key then rest else (first, value) :: remove rest key

theorem mem_keys_assign {entries : List (κ × α)} {key other : κ} {value : α} :
    other ∈ (assign entries key value).map Prod.fst ↔ other = key ∨ other ∈ entries.map Prod.fst := by
  induction entries with
  | nil => simp [assign]
  | cons entry rest ih =>
      obtain ⟨first, old⟩ := entry
      by_cases same : first = key
      · subst same
        simp [assign]
      · simp only [assign, if_neg same, List.map_cons, List.mem_cons, ih]
        tauto

theorem assign_distinct {entries : List (κ × α)} (distinct : (entries.map Prod.fst).Nodup)
    (key : κ) (value : α) : ((assign entries key value).map Prod.fst).Nodup := by
  induction entries with
  | nil => simp [assign]
  | cons entry rest ih =>
      obtain ⟨first, old⟩ := entry
      simp only [List.map_cons, List.nodup_cons] at distinct
      by_cases same : first = key
      · subst same
        simpa [assign] using distinct
      · simp only [assign, if_neg same, List.map_cons, List.nodup_cons]
        refine ⟨fun member => ?_, ih distinct.2⟩
        rcases mem_keys_assign.mp member with equal | earlier
        · exact same equal
        · exact distinct.1 earlier

theorem remove_sublist (entries : List (κ × α)) (key : κ) :
    (remove entries key).Sublist entries := by
  induction entries with
  | nil => exact .slnil
  | cons entry rest ih =>
      obtain ⟨first, value⟩ := entry
      by_cases same : first = key
      · simp only [remove, if_pos same]
        exact List.sublist_cons_self _ _
      · simp only [remove, if_neg same]
        exact ih.cons_cons _

def get? (map : OrderedMap κ α) (key : κ) : Option α := lookup map.entries key

def set (map : OrderedMap κ α) (key : κ) (value : α) : OrderedMap κ α :=
  ⟨assign map.entries key value, assign_distinct map.distinct key value⟩

def erase (map : OrderedMap κ α) (key : κ) : OrderedMap κ α :=
  ⟨remove map.entries key, ((remove_sublist map.entries key).map Prod.fst).nodup map.distinct⟩

def values (map : OrderedMap κ α) : List α := map.entries.map Prod.snd

/-- Later entries override earlier ones, as when one object is spread into another. -/
def overlay (map other : OrderedMap κ α) : OrderedMap κ α :=
  other.entries.foldl (fun merged entry => merged.set entry.1 entry.2) map

@[simp] theorem get?_empty (key : κ) : (empty : OrderedMap κ α).get? key = none := rfl

theorem lookup_assign (entries : List (κ × α)) (key other : κ) (value : α) :
    lookup (assign entries key value) other =
      if key = other then some value else lookup entries other := by
  induction entries with
  | nil => simp [assign, lookup]
  | cons entry rest ih =>
      obtain ⟨first, old⟩ := entry
      by_cases same : first = key
      · subst same
        by_cases wanted : first = other <;> simp [assign, lookup, wanted]
      · simp only [assign, if_neg same, lookup, ih]
        by_cases wanted : first = other
        · subst wanted
          simp [Ne.symm same]
        · simp [wanted]

theorem get?_set (map : OrderedMap κ α) (key other : κ) (value : α) :
    (map.set key value).get? other = if key = other then some value else map.get? other :=
  lookup_assign map.entries key other value

@[simp] theorem get?_set_self (map : OrderedMap κ α) (key : κ) (value : α) :
    (map.set key value).get? key = some value := by
  simp [get?_set]

theorem isSome_lookup {entries : List (κ × α)} {key : κ} :
    (lookup entries key).isSome = true ↔ key ∈ entries.map Prod.fst := by
  induction entries with
  | nil => exact ⟨nofun, nofun⟩
  | cons entry rest ih =>
      obtain ⟨first, value⟩ := entry
      rw [lookup, List.map_cons, List.mem_cons]
      by_cases same : first = key
      · rw [if_pos same]
        exact ⟨fun _ => .inl same.symm, fun _ => rfl⟩
      · rw [if_neg same, ih]
        exact ⟨.inr, fun member => member.resolve_left (Ne.symm same)⟩

theorem mem_of_lookup {entries : List (κ × α)} {key : κ} {value : α}
    (found : lookup entries key = some value) : (key, value) ∈ entries := by
  induction entries with
  | nil => exact nomatch found
  | cons entry rest ih =>
      obtain ⟨first, held⟩ := entry
      rw [lookup] at found
      split at found
      · rename_i same
        rw [← same, ← Option.some.inj found]
        exact List.mem_cons_self
      · exact List.mem_cons_of_mem _ (ih found)

theorem lookup_of_not_mem {entries : List (κ × α)} {key : κ} (absent : key ∉ entries.map Prod.fst) :
    lookup entries key = none := by
  induction entries with
  | nil => rfl
  | cons entry rest ih =>
      simp only [List.map_cons, List.mem_cons, not_or] at absent
      rw [lookup, if_neg (Ne.symm absent.1), ih absent.2]

/-- A key of the first map is one of the overlaid map. -/
theorem isSome_get?_overlay (map other : OrderedMap κ α) {key : κ}
    (present : (map.get? key).isSome = true) : ((map.overlay other).get? key).isSome = true := by
  rw [overlay]
  induction other.entries generalizing map with
  | nil => exact present
  | cons entry rest ih =>
      refine ih (map.set entry.1 entry.2) ?_
      rw [get?_set]
      split
      · rfl
      · exact present

/-- The overlaid map reads the second map first. -/
theorem get?_overlay (map other : OrderedMap κ α) (key : κ) :
    (map.overlay other).get? key = (other.get? key <|> map.get? key) := by
  have folded : ∀ (entries : List (κ × α)) (map : OrderedMap κ α), (entries.map Prod.fst).Nodup →
      (entries.foldl (fun merged entry => merged.set entry.1 entry.2) map).get? key =
        (lookup entries key <|> map.get? key) := by
    intro entries
    induction entries with
    | nil => exact fun map _ => by simp [lookup]
    | cons entry rest ih =>
        intro map distinct
        simp only [List.map_cons, List.nodup_cons] at distinct
        rw [List.foldl_cons, ih _ distinct.2, get?_set, lookup]
        split
        · rename_i same
          rw [lookup_of_not_mem (same ▸ distinct.1)]
          rfl
        · rfl
  exact folded other.entries map other.distinct

theorem get?_set_of_ne (map : OrderedMap κ α) {key other : κ} (value : α) (differ : key ≠ other) :
    (map.set key value).get? other = map.get? other := by
  simp [get?_set, differ]

theorem lookup_eq_some_iff {entries : List (κ × α)} (distinct : (entries.map Prod.fst).Nodup)
    {key : κ} {value : α} : lookup entries key = some value ↔ (key, value) ∈ entries := by
  induction entries with
  | nil => simp [lookup]
  | cons entry rest ih =>
      obtain ⟨first, old⟩ := entry
      rw [List.map_cons, List.nodup_cons] at distinct
      rw [lookup, List.mem_cons, Prod.mk.injEq]
      split
      · rename_i same
        subst same
        have elsewhere : (first, value) ∉ rest := fun member =>
          distinct.1 (List.mem_map.mpr ⟨_, member, rfl⟩)
        simp [elsewhere, eq_comm]
      · rename_i differ
        simp [ih distinct.2, Ne.symm differ]

/-- The order of the entries does not matter to a search. -/
theorem lookup_perm {entries others : List (κ × α)} (distinct : (entries.map Prod.fst).Nodup)
    (moved : entries.Perm others) (key : κ) : lookup entries key = lookup others key := by
  have kept : (others.map Prod.fst).Nodup := (moved.map Prod.fst).nodup_iff.mp distinct
  refine Option.ext fun value => ?_
  rw [lookup_eq_some_iff distinct, lookup_eq_some_iff kept, moved.mem_iff]

theorem get?_eq_some_iff (map : OrderedMap κ α) {key : κ} {value : α} :
    map.get? key = some value ↔ (key, value) ∈ map.entries :=
  lookup_eq_some_iff map.distinct

/-- What is left after a key is taken out was there before. -/
theorem get?_of_erase (map : OrderedMap κ α) {key other : κ} {value : α}
    (found : (map.erase key).get? other = some value) : map.get? other = some value :=
  map.get?_eq_some_iff.mpr ((remove_sublist map.entries key).mem ((map.erase key).get?_eq_some_iff.mp found))

theorem mem_values (map : OrderedMap κ α) {key : κ} {value : α}
    (found : map.get? key = some value) : value ∈ map.values :=
  List.mem_map.mpr ⟨(key, value), map.get?_eq_some_iff.mp found, rfl⟩

theorem exists_key (map : OrderedMap κ α) {value : α} (member : value ∈ map.values) :
    ∃ key, map.get? key = some value := by
  obtain ⟨⟨key, value⟩, listed, rfl⟩ := List.mem_map.mp member
  exact ⟨key, map.get?_eq_some_iff.mpr listed⟩

theorem remove_append_of_not_mem {entries : List (κ × α)} {key : κ}
    (absent : key ∉ entries.map Prod.fst) (more : List (κ × α)) :
    remove (entries ++ more) key = entries ++ remove more key := by
  induction entries with
  | nil => rfl
  | cons entry rest ih =>
      rw [List.map_cons, List.mem_cons, not_or] at absent
      rw [List.cons_append, remove, if_neg (Ne.symm absent.1), ih absent.2, List.cons_append]

theorem remove_assign {entries : List (κ × α)} {key : κ} (absent : lookup entries key = none)
    (value : α) : remove (assign entries key value) key = entries := by
  induction entries with
  | nil => simp [assign, remove]
  | cons entry rest ih =>
      obtain ⟨first, old⟩ := entry
      by_cases same : first = key
      · simp [lookup, same] at absent
      · simp only [lookup, if_neg same] at absent
        simp only [assign, if_neg same, remove, ih absent]

/-- A key that was not there is taken out again without a trace. -/
theorem erase_set (map : OrderedMap κ α) {key : κ} (absent : map.get? key = none) (value : α) :
    (map.set key value).erase key = map := by
  obtain ⟨entries, distinct⟩ := map
  simp only [set, erase, remove_assign absent value]

theorem not_mem_keys_remove {entries : List (κ × α)} (distinct : (entries.map Prod.fst).Nodup) (key : κ) :
    key ∉ (remove entries key).map Prod.fst := by
  induction entries with
  | nil => exact List.not_mem_nil
  | cons entry rest ih =>
      obtain ⟨first, value⟩ := entry
      rw [List.map_cons, List.nodup_cons] at distinct
      rw [remove]
      split
      · rename_i same
        exact same ▸ distinct.1
      · rename_i differ
        rw [List.map_cons, List.mem_cons, not_or]
        exact ⟨Ne.symm differ, ih distinct.2⟩

@[simp] theorem get?_erase_self (map : OrderedMap κ α) (key : κ) : (map.erase key).get? key = none :=
  lookup_of_not_mem (not_mem_keys_remove map.distinct key)

theorem lookup_append (entries more : List (κ × α)) (key : κ) :
    lookup (entries ++ more) key = (lookup entries key <|> lookup more key) := by
  induction entries with
  | nil => simp [lookup]
  | cons entry rest ih =>
      rw [List.cons_append, lookup, lookup, ih]
      split <;> rfl

theorem get?_erase (map : OrderedMap κ α) (key other : κ) :
    (map.erase key).get? other = if key = other then none else map.get? other := by
  split
  · rename_i same
    rw [← same, get?_erase_self]
  · rename_i differ
    have removed : ∀ entries : List (κ × α), lookup (remove entries key) other = lookup entries other := by
      intro entries
      induction entries with
      | nil => rfl
      | cons entry rest ih =>
          obtain ⟨first, value⟩ := entry
          rw [remove]
          split
          · rename_i found
            rw [lookup, if_neg (found ▸ differ)]
          · rw [lookup, lookup, ih]
    exact removed map.entries

/-- A write moves no key: it overwrites in place, or adds at the end. -/
theorem keys_set (map : OrderedMap κ α) (key : κ) (value : α) :
    (map.entries.map Prod.fst).Sublist ((map.set key value).entries.map Prod.fst) := by
  have assigned (entries : List (κ × α)) :
      (entries.map Prod.fst).Sublist ((assign entries key value).map Prod.fst) := by
    induction entries with
    | nil => exact List.nil_sublist _
    | cons entry rest ih =>
        obtain ⟨first, old⟩ := entry
        by_cases same : first = key
        · simp [assign, same]
        · simpa only [assign, if_neg same, List.map_cons] using ih.cons_cons first
  exact assigned map.entries

/-- Where a value tells its own key, the values' keys are the map's. -/
theorem values_keys (map : OrderedMap κ α) {keyOf : α → κ}
    (keyed : ∀ {key : κ} {value : α}, map.get? key = some value → keyOf value = key) :
    map.values.map keyOf = map.entries.map Prod.fst := by
  rw [values, List.map_map]
  exact List.map_congr_left fun entry listed => keyed (map.get?_eq_some_iff.mpr listed)

end OrderedMap

end A2A.Library
