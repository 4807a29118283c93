import A2A.Compat.Cards

namespace A2A.Compat

open Library Card

/-! What `duplicateInterfacesForLegacy` adds to the interfaces of a card. -/

/-- The interface is one for v0.3, or leaves its version open. -/
def ServesLegacy (intf : AgentInterface) : Prop :=
  (intf.protocolVersion = "" || isLegacyVersion intf.protocolVersion) = true

/-- The interfaces have one for this binding. -/
def Declares (interfaces : List AgentInterface) (binding : String) : Prop :=
  ∃ intf ∈ interfaces, intf.protocolBinding = binding

/-- The interfaces have one for this binding that serves v0.3. -/
def DeclaresLegacy (interfaces : List AgentInterface) (binding : String) : Prop :=
  ∃ intf ∈ interfaces, intf.protocolBinding = binding ∧ ServesLegacy intf

/-- The entry that a round of the loop adds. -/
def mirror (source : List AgentInterface) (binding : String) : Option AgentInterface :=
  if source.any (fun intf =>
      intf.protocolBinding = binding && (intf.protocolVersion = "" || isLegacyVersion intf.protocolVersion)) then
    none
  else (source.find? (fun intf => intf.protocolBinding = binding)).map mirrored

section Mirror

variable (source : List AgentInterface) (binding : String)

theorem any_legacy_iff :
    source.any (fun intf =>
        intf.protocolBinding = binding && (intf.protocolVersion = "" || isLegacyVersion intf.protocolVersion)) = true ↔
      DeclaresLegacy source binding := by
  simp only [List.any_eq_true, Bool.and_eq_true, decide_eq_true_eq, DeclaresLegacy, ServesLegacy]

theorem mirrored_servesLegacy (template : AgentInterface) : ServesLegacy (mirrored template) := by
  have legacy : isLegacyVersion "0.3" = true := by decide +kernel
  rw [ServesLegacy, mirrored, legacy, Bool.or_true]

variable {source binding}

theorem mirror_isSome_iff : (mirror source binding).isSome = true ↔
    Declares source binding ∧ ¬ DeclaresLegacy source binding := by
  rw [mirror, ← any_legacy_iff]
  split
  · rename_i legacy
    exact ⟨nofun, fun both => absurd legacy both.2⟩
  · rename_i lacking
    rw [Option.isSome_map, List.find?_isSome, and_iff_left lacking]
    exact exists_congr fun intf => and_congr_right fun _ => decide_eq_true_iff

theorem mirror_eq_some {intf : AgentInterface} (added : mirror source binding = some intf) :
    intf.protocolBinding = binding ∧ ServesLegacy intf := by
  rw [mirror] at added
  split at added
  · exact nomatch added
  · obtain ⟨template, found, rfl⟩ := Option.map_eq_some_iff.mp added
    have own := List.find?_some found
    exact ⟨of_decide_eq_true own, mirrored_servesLegacy template⟩

/-- The loop keeps what it has, and adds the mirrors of the names behind it. -/
theorem foldl_addMirror (result : List AgentInterface) (bindings : List String) :
    bindings.foldl (addMirror source) result = result ++ bindings.filterMap (mirror source) := by
  induction bindings generalizing result with
  | nil => simp
  | cons first rest ih =>
      have round : addMirror source result first = result ++ (mirror source first).toList := by
        unfold addMirror mirror
        dsimp only
        split
        · simp
        · cases source.find? (fun intf => intf.protocolBinding = first) <;> simp
      rw [List.foldl_cons, ih, round]
      cases added : mirror source first with
      | none => rw [List.filterMap_cons_none added, Option.toList_none, List.append_nil]
      | some intf => rw [List.filterMap_cons_some added, Option.toList_some, List.append_assoc]; rfl

/-- A name is mirrored as often as it is listed. -/
theorem countP_mirrors (bindings : List String) :
    (bindings.filterMap (mirror source)).countP (fun intf => intf.protocolBinding = binding) =
      if (mirror source binding).isSome then bindings.count binding else 0 := by
  induction bindings with
  | nil => simp
  | cons first rest ih =>
      cases added : mirror source first with
      | none =>
          rw [List.filterMap_cons_none added, ih, List.count_cons]
          by_cases same : first = binding
          · rw [← same, added]
            rfl
          · simp [same]
      | some intf =>
          have own := (mirror_eq_some added).1
          rw [List.filterMap_cons_some added, List.countP_cons, ih, List.count_cons, own]
          by_cases same : first = binding
          · rw [← same, added]
            simp
          · simp [same]

end Mirror

/-- What is promised of the augmented list. -/
structure WellMirrored (interfaces : Option (List AgentInterface)) (bindings : List String) : Prop where
  kept : interfaces.getD [] <+: duplicateInterfacesForLegacy interfaces bindings
  covered : ∀ binding ∈ bindings, Declares (interfaces.getD []) binding →
    DeclaresLegacy (duplicateInterfacesForLegacy interfaces bindings) binding
  single : ∀ binding,
    ((duplicateInterfacesForLegacy interfaces bindings).drop (interfaces.getD []).length).countP
      (fun intf => intf.protocolBinding = binding) ≤ 1
  lacking : ∀ intf ∈ (duplicateInterfacesForLegacy interfaces bindings).drop (interfaces.getD []).length,
    intf.protocolBinding ∈ bindings ∧ ¬ DeclaresLegacy (interfaces.getD []) intf.protocolBinding
  idempotent : duplicateInterfacesForLegacy (some (duplicateInterfacesForLegacy interfaces bindings)) bindings =
    duplicateInterfacesForLegacy interfaces bindings

section Duplicate

variable (interfaces : Option (List AgentInterface)) (bindings : List String)

theorem duplicate_eq : duplicateInterfacesForLegacy interfaces bindings =
    interfaces.getD [] ++ bindings.filterMap (mirror (interfaces.getD [])) :=
  foldl_addMirror _ bindings

theorem duplicate_covers {binding : String} (listed : binding ∈ bindings)
    (declared : Declares (interfaces.getD []) binding) :
    DeclaresLegacy (duplicateInterfacesForLegacy interfaces bindings) binding := by
  rw [duplicate_eq]
  by_cases legacy : DeclaresLegacy (interfaces.getD []) binding
  · obtain ⟨intf, member, serves⟩ := legacy
    exact ⟨intf, List.mem_append_left _ member, serves⟩
  · obtain ⟨intf, added⟩ := Option.isSome_iff_exists.mp (mirror_isSome_iff.mpr ⟨declared, legacy⟩)
    exact ⟨intf, List.mem_append_right _ (List.mem_filterMap.mpr ⟨binding, listed, added⟩), mirror_eq_some added⟩

/-- Only what was declared before is declared in the augmented list. -/
theorem declares_of_duplicate {binding : String}
    (declared : Declares (duplicateInterfacesForLegacy interfaces bindings) binding) :
    Declares (interfaces.getD []) binding := by
  obtain ⟨intf, member, rfl⟩ := declared
  rw [duplicate_eq, List.mem_append] at member
  cases member with
  | inl old => exact ⟨intf, old, rfl⟩
  | inr new =>
      obtain ⟨name, -, added⟩ := List.mem_filterMap.mp new
      rw [(mirror_eq_some added).1]
      exact (mirror_isSome_iff.mp (added ▸ rfl)).1

theorem duplicate_idempotent :
    duplicateInterfacesForLegacy (some (duplicateInterfacesForLegacy interfaces bindings)) bindings =
      duplicateInterfacesForLegacy interfaces bindings := by
  have nothing : ∀ binding ∈ bindings, mirror (duplicateInterfacesForLegacy interfaces bindings) binding = none := by
    intro binding listed
    rw [← Option.not_isSome_iff_eq_none, mirror_isSome_iff]
    exact fun both => both.2 (duplicate_covers interfaces bindings listed
      (declares_of_duplicate interfaces bindings both.1))
  rw [duplicate_eq (some _), Option.getD_some, List.filterMap_eq_nil_iff.mpr nothing, List.append_nil]

/-- All is as promised exactly where no name is listed twice that lacks an entry for v0.3. -/
theorem legacyInterfaces_iff :
    WellMirrored interfaces bindings ↔
      ∀ binding, Declares (interfaces.getD []) binding → ¬ DeclaresLegacy (interfaces.getD []) binding →
        bindings.count binding ≤ 1 := by
  have added : (duplicateInterfacesForLegacy interfaces bindings).drop (interfaces.getD []).length =
      bindings.filterMap (mirror (interfaces.getD [])) := by
    rw [duplicate_eq, List.drop_left]
  constructor
  · intro mirrored binding declared lacking
    have single := mirrored.single binding
    rwa [added, countP_mirrors, if_pos (mirror_isSome_iff.mpr ⟨declared, lacking⟩)] at single
  · intro unrepeated
    refine ⟨?_, fun binding => duplicate_covers interfaces bindings, fun binding => ?_, fun intf new => ?_,
      duplicate_idempotent interfaces bindings⟩
    · rw [duplicate_eq]
      exact List.prefix_append _ _
    · rw [added, countP_mirrors]
      split
      · rename_i mirrors
        obtain ⟨declared, lacking⟩ := mirror_isSome_iff.mp mirrors
        exact unrepeated binding declared lacking
      · exact Nat.zero_le _
    · rw [added] at new
      obtain ⟨binding, listed, mirrors⟩ := List.mem_filterMap.mp new
      rw [(mirror_eq_some mirrors).1]
      exact ⟨listed, (mirror_isSome_iff.mp (mirrors ▸ rfl)).2⟩

end Duplicate

/-- A name that is given twice is mirrored twice. -/
theorem repeatedBinding_mirrored_twice :
    ¬ WellMirrored (some [⟨"/jsonrpc", "JSONRPC", "", "1.0"⟩]) ["JSONRPC", "JSONRPC"] := by
  intro mirrored
  have single := mirrored.single "JSONRPC"
  exact absurd single (by decide +kernel)

end A2A.Compat
