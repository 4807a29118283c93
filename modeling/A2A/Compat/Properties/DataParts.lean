import A2A.Compat.Properties.CoreRoundTrips
import A2A.Compat.Properties.PartContents

namespace A2A.Compat

open Library

/-! A data part's value and metadata through v0.3 and back. -/

/-- What the metadata holds under the key that marks a wrapped value. -/
def flagOf (metadata : Option Metadata) : Option JsonValue :=
  metadata.bind (·.get? dataPartCompatFlag)

/-- The part comes back as a data part with the same value and metadata. -/
def DataPartKeeps (value : JsonValue) (metadata : Option Metadata) (part : A2A.Part) : Prop :=
  ∃ back, jsonRpcWire { part with content := some (.data (some value)), metadata := metadata } = .ok back ∧
    back.content = some (.data (some value)) ∧
    back.metadata.getD .empty = metadata.getD .empty

theorem getD_unlessEmpty (metadata : Metadata) : (unlessEmpty metadata).getD .empty = metadata := by
  obtain ⟨entries, distinct⟩ := metadata
  cases entries <;> rfl

theorem get?_getD_empty (metadata : Option Metadata) :
    (metadata.getD .empty).get? dataPartCompatFlag = flagOf metadata := by
  cases metadata <;> rfl

/-- Taking the flag off leaves what was there before exactly when it was not there before. -/
theorem erase_set_eq_iff (metadata : Metadata) :
    (metadata.set dataPartCompatFlag (.bool true)).erase dataPartCompatFlag = metadata ↔
      metadata.get? dataPartCompatFlag = none := by
  constructor
  · intro same
    rw [← same]
    exact OrderedMap.get?_erase_self _ _
  · intro absent
    exact OrderedMap.erase_set metadata absent _

/-- What v0.3 holds as it is, today's side takes for a wrapper when the flag says so. -/
theorem object_keeps_iff (fields : JsonObject) (metadata : Option Metadata) (part : A2A.Part) :
    DataPartKeeps (.object fields) metadata part ↔ isTrue (flagOf metadata) = false := by
  have sent : jsonRpcWire
      { part with content := some (.data (some (.object fields))), metadata := metadata } =
        toCorePart (.data fields metadata) := rfl
  rw [DataPartKeeps, sent]
  cases metadata with
  | none => exact ⟨fun _ => rfl, fun _ => ⟨_, rfl, rfl, rfl⟩⟩
  | some given =>
      cases flagged : isTrue (given.get? dataPartCompatFlag) with
      | false =>
          have kept : toCorePart (.data fields (some given)) =
              .ok ⟨some (.data (some (.object fields))), some given, "", ""⟩ := by
            simp [toCorePart, flagged]
          exact ⟨fun _ => flagged, fun _ => ⟨_, kept, rfl, rfl⟩⟩
      | true =>
          have stripped : toCorePart (.data fields (some given)) =
              .ok ⟨some (.data (some ((OrderedMap.lookup fields "value").getD (.object fields)))),
                unlessEmpty (given.erase dataPartCompatFlag), "", ""⟩ := by
            simp [toCorePart, flagged, unlessEmpty]
          constructor
          · rintro ⟨back, returned, _, same⟩
            rw [stripped] at returned
            cases returned
            rw [getD_unlessEmpty, Option.getD_some] at same
            rw [← same, OrderedMap.get?_erase_self] at flagged
            cases flagged
          · intro unflagged
            exact absurd (unflagged.symm.trans flagged) Bool.false_ne_true

/-- A wrapped value comes back with its metadata exactly when the flag was free. -/
theorem wrapped_keeps_iff {value : JsonValue} (wrappable : isObject value = false)
    (metadata : Option Metadata) (part : A2A.Part) :
    DataPartKeeps value metadata part ↔ flagOf metadata = none := by
  have sent : jsonRpcWire { part with content := some (.data (some value)), metadata := metadata } =
      toCorePart (.data [("value", value)]
        (some ((metadata.getD .empty).set dataPartCompatFlag (.bool true)))) := by
    cases value with
    | object fields => exact nomatch wrappable
    | _ => rfl
  rw [DataPartKeeps, sent, wrapper_returns, ← get?_getD_empty, ← erase_set_eq_iff]
  constructor
  · rintro ⟨back, returned, _, same⟩
    cases returned
    rwa [getD_unlessEmpty] at same
  · intro same
    exact ⟨_, rfl, rfl, by rw [getD_unlessEmpty, same]⟩

/-- An object must not carry the flag of a wrapper, and a wrapped value no flag at all. -/
theorem data_part_keeps_iff (value : JsonValue) (metadata : Option Metadata) (part : A2A.Part) :
    DataPartKeeps value metadata part ↔
      (isObject value = true → isTrue (flagOf metadata) = false) ∧
        (isObject value = false → flagOf metadata = none) := by
  cases shape : isObject value with
  | true =>
      cases value with
      | object fields =>
          rw [object_keeps_iff]
          exact ⟨fun kept => ⟨fun _ => kept, nofun⟩, fun conditions => conditions.1 rfl⟩
      | _ => exact nomatch shape
  | false =>
      rw [wrapped_keeps_iff shape]
      exact ⟨fun kept => ⟨nofun, fun _ => kept⟩, fun conditions => conditions.2 rfl⟩

/-- A boolean whose metadata holds the reserved key comes back without it. -/
theorem data_part_loses_flag :
    ¬DataPartKeeps (.bool false)
      (some (OrderedMap.empty.set dataPartCompatFlag (.string "kept"))) ⟨none, none, "", ""⟩ := by
  rw [wrapped_keeps_iff rfl]
  exact nofun

end A2A.Compat
