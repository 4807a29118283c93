import A2A.Library.OrderedMap
import Mathlib.Data.List.Basic

namespace A2A.Library

/-! A decoder followed by an encoder, on one value.

`Keeps` names what the pair leaves of a value.  The rules build it for options,
lists and further steps, so a record's converter is treated field by field.
-/

def Keeps {ε : Type u} {α β : Type v} (decode : α → Except ε β) (encode : β → Except ε α) (value kept : α) :
    Prop :=
  ∃ decoded, decode value = .ok decoded ∧ encode decoded = .ok kept

namespace Keeps

variable {ε : Type u} {α β : Type v} {decode : α → Except ε β} {encode : β → Except ε α}

theorem bind_eq {value kept : α} (keeps : Keeps decode encode value kept) :
    (decode value >>= encode) = .ok kept := by
  obtain ⟨decoded, read, written⟩ := keeps
  rw [read]
  exact written

/-- A value comes back as it was exactly when nothing of it is left out. -/
theorem bind_eq_self_iff {value kept : α} (keeps : Keeps decode encode value kept) :
    (decode value >>= encode) = .ok value ↔ kept = value := by
  rw [keeps.bind_eq]
  exact Except.ok.injEq kept value ▸ Iff.rfl

theorem mapM {kept : α → α} (values : List α)
    (each : ∀ value ∈ values, Keeps decode encode value (kept value)) :
    Keeps (List.mapM decode) (List.mapM encode) values (values.map kept) := by
  induction values with
  | nil => exact ⟨[], rfl, rfl⟩
  | cons value rest ih =>
      rw [List.forall_mem_cons] at each
      obtain ⟨decoded, read, written⟩ := each.1
      obtain ⟨others, readRest, writtenRest⟩ := ih each.2
      refine ⟨decoded :: others, ?_, ?_⟩
      · rw [List.mapM_cons, read, readRest]
        rfl
      · rw [List.mapM_cons, written, writtenRest]
        rfl

theorem mapM_self (values : List α)
    (each : ∀ value ∈ values, Keeps decode encode value value) :
    Keeps (List.mapM decode) (List.mapM encode) values values := by
  have keeps := @mapM ε α β decode encode id values each
  rwa [List.map_id] at keeps

end Keeps

/-- A sequence of two steps succeeds where both do. -/
theorem bind_eq_ok {ε : Type u} {α : Type v} {β : Type v} {first : Except ε α} {next : α → Except ε β}
    {result : β} : (first >>= next) = .ok result ↔ ∃ value, first = .ok value ∧ next value = .ok result := by
  cases first with
  | error failure => exact ⟨nofun, nofun⟩
  | ok value =>
      refine ⟨fun same => ⟨value, rfl, same⟩, ?_⟩
      rintro ⟨other, same, continued⟩
      cases same
      exact continued

theorem length_of_mapM_ok {ε : Type u} {α : Type w} {β : Type v} {f : α → Except ε β} {values : List α}
    {images : List β} (mapped : values.mapM f = .ok images) : images.length = values.length := by
  induction values generalizing images with
  | nil =>
      cases mapped
      rfl
  | cons value rest ih =>
      rw [List.mapM_cons, bind_eq_ok] at mapped
      obtain ⟨image, _, continued⟩ := mapped
      obtain ⟨others, mappedRest, same⟩ := bind_eq_ok.mp continued
      cases same
      simp [ih mappedRest]

/-- A list comes back where each of its values that could be decoded does. -/
theorem mapM_returns {ε : Type u} {ε' : Type w} {α β : Type v} {decode : α → Except ε β}
    {encode : β → Except ε' α} (each : ∀ value decoded, decode value = .ok decoded → encode decoded = .ok value)
    {values : List α} {images : List β} (mapped : values.mapM decode = .ok images) :
    images.mapM encode = .ok values := by
  induction values generalizing images with
  | nil =>
      cases mapped
      rfl
  | cons value rest ih =>
      rw [List.mapM_cons, bind_eq_ok] at mapped
      obtain ⟨image, decoded, continued⟩ := mapped
      obtain ⟨others, mappedRest, same⟩ := bind_eq_ok.mp continued
      cases same
      rw [List.mapM_cons, each value image decoded, ih mappedRest]
      rfl

/-- A list is its own image exactly when each of its elements is. -/
theorem map_eq_self_iff {α : Type u} {kept : α → α} {values : List α} :
    values.map kept = values ↔ ∀ value ∈ values, kept value = value := by
  induction values with
  | nil => simp
  | cons value rest ih => simp [ih]

namespace OrderedMap

variable {κ α β γ : Type u} {ε : Type v} {ε' : Type w}

def mapValues (map : OrderedMap κ α) (f : α → β) : OrderedMap κ β :=
  ⟨map.entries.map (fun entry => (entry.1, f entry.2)), by
    simpa only [List.map_map, Function.comp_def] using map.distinct⟩

theorem mapValues_mapValues (map : OrderedMap κ α) {f : α → β} {g : β → α} (back : ∀ value, g (f value) = value) :
    (map.mapValues f).mapValues g = map := by
  simp [mapValues, Function.comp_def, back]

/-- The images of the entries' values, unless one of them has none. -/
def traverseEntries (f : α → Except ε β) : List (κ × α) → Except ε (List (κ × β))
  | [] => .ok []
  | (key, value) :: rest => do
      let image ← f value
      let images ← traverseEntries f rest
      return (key, image) :: images

theorem traverseEntries_cons_eq_ok {f : α → Except ε β} {key : κ} {value : α} {rest : List (κ × α)}
    {result : List (κ × β)} :
    traverseEntries f ((key, value) :: rest) = .ok result ↔
      ∃ image images, f value = .ok image ∧ traverseEntries f rest = .ok images ∧
        result = (key, image) :: images := by
  simp only [traverseEntries, bind_eq_ok]
  constructor
  · rintro ⟨image, first, images, others, same⟩
    cases same
    exact ⟨image, images, first, others, rfl⟩
  · rintro ⟨image, images, first, others, rfl⟩
    exact ⟨image, first, images, others, rfl⟩

theorem keys_traverseEntries {f : α → Except ε β} {entries : List (κ × α)} {images : List (κ × β)}
    (traversed : traverseEntries f entries = .ok images) :
    images.map Prod.fst = entries.map Prod.fst := by
  induction entries generalizing images with
  | nil =>
      cases traversed
      rfl
  | cons entry rest ih =>
      obtain ⟨image, others, -, traversedRest, rfl⟩ := traverseEntries_cons_eq_ok.mp traversed
      rw [List.map_cons, List.map_cons, ih traversedRest]

def traverse (map : OrderedMap κ α) (f : α → Except ε β) : Except ε (OrderedMap κ β) :=
  match traversed : traverseEntries f map.entries with
  | .error failure => .error failure
  | .ok images => .ok ⟨images, by rw [keys_traverseEntries traversed]; exact map.distinct⟩

theorem traverse_eq_ok_iff {map : OrderedMap κ α} {f : α → Except ε β} {result : OrderedMap κ β} :
    map.traverse f = .ok result ↔ traverseEntries f map.entries = .ok result.entries := by
  unfold traverse
  split
  · rename_i failure failed
    simp [failed]
  · rename_i images traversed
    constructor
    · intro same
      cases same
      exact traversed
    · intro whole
      have same := Except.ok.inj (traversed.symm.trans whole)
      subst same
      rfl

theorem keys_traverse {map : OrderedMap κ α} {f : α → Except ε β} {result : OrderedMap κ β}
    (traversed : map.traverse f = .ok result) :
    result.entries.map Prod.fst = map.entries.map Prod.fst :=
  keys_traverseEntries (traverse_eq_ok_iff.mp traversed)

/-- A second traversal goes through exactly where it does on each value's image. -/
theorem traverse_traverse_iff {map : OrderedMap κ α} {f : α → Except ε β} {g : β → Except ε' γ}
    {goes : α → Prop} (each : ∀ value image, f value = .ok image → ((∃ next, g image = .ok next) ↔ goes value))
    {images : OrderedMap κ β} (traversed : map.traverse f = .ok images) :
    (∃ next, images.traverse g = .ok next) ↔ ∀ value ∈ map.values, goes value := by
  have entries : ∀ {source : List (κ × α)} {target : List (κ × β)}, traverseEntries f source = .ok target →
      ((∃ next, traverseEntries g target = .ok next) ↔ ∀ value ∈ source.map Prod.snd, goes value) := by
    intro source target traversed
    induction source generalizing target with
    | nil =>
        cases traversed
        simp [traverseEntries]
    | cons entry rest ih =>
        obtain ⟨image, others, first, traversedRest, rfl⟩ := traverseEntries_cons_eq_ok.mp traversed
        rw [List.map_cons, List.forall_mem_cons, ← each _ _ first, ← ih traversedRest]
        simp only [traverseEntries_cons_eq_ok]
        constructor
        · rintro ⟨_, next, nexts, firstNext, others, rfl⟩
          exact ⟨⟨next, firstNext⟩, nexts, others⟩
        · rintro ⟨⟨next, firstNext⟩, nexts, others⟩
          exact ⟨_, next, nexts, firstNext, others, rfl⟩
  rw [values, ← entries (traverse_eq_ok_iff.mp traversed)]
  constructor
  · rintro ⟨next, through⟩
    exact ⟨next.entries, traverse_eq_ok_iff.mp through⟩
  · rintro ⟨nexts, through⟩
    have distinct : (nexts.map Prod.fst).Nodup := by
      rw [keys_traverseEntries through]
      exact images.distinct
    exact ⟨⟨nexts, distinct⟩, traverse_eq_ok_iff.mpr through⟩

end OrderedMap

end A2A.Library
