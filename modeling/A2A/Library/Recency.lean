import A2A.Library.OrderedMap

namespace A2A.Library

/-! Ordered maps whose keys stand in the order of their last writes.

A run of edits on such a map leaves its live writes: those that no later edit
of the same key follows, in the order in which they were made.
-/

inductive Edit (κ : Type u) (α : Type v) where
  | renew (key : κ) (value : α)
  | erase (key : κ)

namespace Edit

variable {κ : Type u} {α : Type v}

def key : Edit κ α → κ
  | .renew key _ => key
  | .erase key => key

variable [DecidableEq κ]

/-- The edit touches no other key than its own, so these are the keys a run leaves alone. -/
def untouched (edits : List (Edit κ α)) (key : κ) : Bool := edits.all (fun edit => edit.key ≠ key)

/-- The writes of a run that no later edit of their key follows. -/
def live : List (Edit κ α) → List (κ × α)
  | [] => []
  | .renew key value :: later => if untouched later key then (key, value) :: live later else live later
  | .erase _ :: later => live later

/-- What is live has been written. -/
theorem renew_mem_of_live {edits : List (Edit κ α)} {entry : κ × α} (listed : entry ∈ live edits) :
    .renew entry.1 entry.2 ∈ edits := by
  induction edits with
  | nil => exact nomatch listed
  | cons edit later ih =>
      cases edit with
      | erase key => exact List.mem_cons_of_mem _ (ih listed)
      | renew key value =>
          rw [live] at listed
          split at listed
          · cases List.mem_cons.mp listed with
            | inl same => exact same ▸ List.mem_cons_self
            | inr after => exact List.mem_cons_of_mem _ (ih after)
          · exact List.mem_cons_of_mem _ (ih listed)

theorem untouched_cons (edit : Edit κ α) (later : List (Edit κ α)) (key : κ) :
    untouched (edit :: later) key = (decide (key ≠ edit.key) && untouched later key) := by
  simp [untouched, eq_comm]

end Edit

namespace OrderedMap

variable {κ : Type u} {α : Type v} [DecidableEq κ]

/-- Writes a key at the end of the map, wherever it stood before. -/
def renew (map : OrderedMap κ α) (key : κ) (value : α) : OrderedMap κ α := (map.erase key).set key value

def edit (map : OrderedMap κ α) : Edit κ α → OrderedMap κ α
  | .renew key value => map.renew key value
  | .erase key => map.erase key

theorem assign_of_not_mem {entries : List (κ × α)} {key : κ} (absent : key ∉ entries.map Prod.fst) (value : α) :
    assign entries key value = entries ++ [(key, value)] := by
  induction entries with
  | nil => rfl
  | cons entry rest ih =>
      rw [List.map_cons, List.mem_cons, not_or] at absent
      rw [assign, if_neg (Ne.symm absent.1), ih absent.2, List.cons_append]

theorem remove_eq_filter {entries : List (κ × α)} (distinct : (entries.map Prod.fst).Nodup) (key : κ) :
    remove entries key = entries.filter (fun entry => entry.1 ≠ key) := by
  induction entries with
  | nil => rfl
  | cons entry rest ih =>
      rw [List.map_cons, List.nodup_cons] at distinct
      rw [remove, List.filter_cons]
      split
      · rename_i same
        subst same
        have elsewhere : ∀ other ∈ rest, decide (other.1 ≠ entry.1) = true := fun other member =>
          decide_eq_true fun equal => distinct.1 (equal ▸ List.mem_map_of_mem member)
        rw [List.filter_eq_self.mpr elsewhere]
        simp
      · rename_i differ
        rw [ih distinct.2, if_pos (decide_eq_true differ)]

theorem entries_erase (map : OrderedMap κ α) (key : κ) :
    (map.erase key).entries = map.entries.filter (fun entry => entry.1 ≠ key) :=
  remove_eq_filter map.distinct key

theorem entries_renew (map : OrderedMap κ α) (key : κ) (value : α) :
    (map.renew key value).entries = map.entries.filter (fun entry => entry.1 ≠ key) ++ [(key, value)] := by
  rw [← entries_erase]
  exact assign_of_not_mem (not_mem_keys_remove map.distinct key) value

/-- A run of edits keeps the entries it leaves alone, and behind them its live writes. -/
theorem entries_foldl_edit (map : OrderedMap κ α) (edits : List (Edit κ α)) :
    (edits.foldl edit map).entries =
      map.entries.filter (fun entry => Edit.untouched edits entry.1) ++ Edit.live edits := by
  induction edits generalizing map with
  | nil => simp [Edit.untouched, Edit.live]
  | cons first later ih =>
      have kept : (map.entries.filter (fun entry => entry.1 ≠ first.key)).filter
            (fun entry => Edit.untouched later entry.1) =
          map.entries.filter (fun entry => Edit.untouched (first :: later) entry.1) := by
        rw [List.filter_filter]
        exact List.filter_congr fun entry _ => by rw [Edit.untouched_cons, Bool.and_comm]
      rw [List.foldl_cons, ih]
      cases first with
      | renew key value =>
          rw [edit, entries_renew, List.filter_append]
          rw [show (Edit.renew key value).key = key from rfl] at kept
          rw [kept, List.append_assoc]
          congr 1
          rw [Edit.live, List.filter_singleton]
          cases Edit.untouched later key <;> rfl
      | erase key =>
          rw [edit, entries_erase]
          exact congrArg (· ++ Edit.live later) kept

/-- From the empty map on, a run of edits leaves its live writes. -/
theorem entries_run (edits : List (Edit κ α)) : (edits.foldl edit empty).entries = Edit.live edits :=
  entries_foldl_edit empty edits

/-- A key that was not there is written behind everything else. -/
theorem entries_renew_of_absent (map : OrderedMap κ α) {key : κ} (absent : key ∉ map.entries.map Prod.fst)
    (value : α) : (map.renew key value).entries = map.entries ++ [(key, value)] := by
  have kept : ∀ entry ∈ map.entries, decide (entry.1 ≠ key) = true := fun entry listed =>
    decide_eq_true fun same => absent (same ▸ List.mem_map_of_mem listed)
  rw [entries_renew, List.filter_eq_self.mpr kept]

theorem values_erase (map : OrderedMap κ α) {keyOf : α → κ}
    (keyed : ∀ entry ∈ map.entries, keyOf entry.2 = entry.1) (key : κ) :
    (map.erase key).values = map.values.filter (fun value => keyOf value ≠ key) := by
  rw [values, entries_erase, values, List.filter_map]
  congr 1
  refine List.filter_congr fun entry listed => ?_
  rw [Function.comp_apply, keyed entry listed]

/-- Where a value tells its own key, searching the values is searching the keys. -/
theorem eraseP_values (map : OrderedMap κ α) {keyOf : α → κ}
    (keyed : ∀ entry ∈ map.entries, keyOf entry.2 = entry.1) (key : κ) :
    map.values.eraseP (fun value => keyOf value = key) = (map.erase key).values := by
  have removed : ∀ entries : List (κ × α), (∀ entry ∈ entries, keyOf entry.2 = entry.1) →
      (entries.map Prod.snd).eraseP (fun value => keyOf value = key) = (remove entries key).map Prod.snd := by
    intro entries keyed
    induction entries with
    | nil => rfl
    | cons entry rest ih =>
        have own := keyed entry List.mem_cons_self
        have others := ih fun other member => keyed other (List.mem_cons_of_mem entry member)
        rw [List.map_cons, List.eraseP_cons, remove, own]
        by_cases same : entry.1 = key
        · simp [same]
        · simpa [same] using others
  exact removed map.entries keyed

end OrderedMap

end A2A.Library
