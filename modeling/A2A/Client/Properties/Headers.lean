import A2A.Client.ServiceParameters
import Mathlib.Data.List.Induction

namespace A2A.Client

open Library

/-! The headers of a call, whatever the caller's spelling of their names. -/

section Collecting

/-- The entries under any spelling of a header. -/
def spellings (header : String) (entries : List (String × String)) : List (String × String) :=
  entries.filter fun entry => toLowerCase entry.1 = toLowerCase header

/-- The value under the exact spelling, or else under the last other one. -/
def preferred (header : String) (entries : List (String × String)) : Option String :=
  OrderedMap.lookup entries header <|> (spellings header entries).getLast?.map Prod.snd

/-- What the loop has collected for a header behind some entries. -/
def collect (header : String) (entries : List (String × String)) : Collected :=
  ⟨preferred header entries, (OrderedMap.lookup entries header).isSome⟩

variable {header key : String} {entries : List (String × String)} (value : String)

theorem collect_snoc (spelled : toLowerCase key = toLowerCase header) (fresh : key ∉ entries.map Prod.fst) :
    (collect header entries).see header key (some value) = collect header (entries ++ [(key, value)]) := by
  have spellingsLast : spellings header (entries ++ [(key, value)]) = spellings header entries ++ [(key, value)] := by
    simp [spellings, spelled]
  have looked := OrderedMap.lookup_append entries [(key, value)] header
  unfold Collected.see
  split
  · rename_i exact
    subst exact
    rw [OrderedMap.lookup_of_not_mem fresh] at looked
    simp [collect, preferred, looked, OrderedMap.lookup]
  · rename_i other
    have same : OrderedMap.lookup (entries ++ [(key, value)]) header = OrderedMap.lookup entries header := by
      rw [looked]
      cases OrderedMap.lookup entries header <;> simp [OrderedMap.lookup, other]
    cases exact : OrderedMap.lookup entries header with
    | none => simp [collect, preferred, same, exact, spellingsLast]
    | some seen => simp [collect, preferred, same, exact]

theorem collect_snoc_other (other : toLowerCase key ≠ toLowerCase header) :
    collect header (entries ++ [(key, value)]) = collect header entries := by
  have differ : key ≠ header := fun same => other (by rw [same])
  have same : OrderedMap.lookup (entries ++ [(key, value)]) header = OrderedMap.lookup entries header := by
    rw [OrderedMap.lookup_append]
    cases OrderedMap.lookup entries header <;> simp [OrderedMap.lookup, differ]
  have spelled : spellings header (entries ++ [(key, value)]) = spellings header entries := by
    simp [spellings, other]
  simp only [collect, preferred, same, spelled]

/-- A parameter of another name does not matter to a header. -/
theorem preferred_assign (other : toLowerCase key ≠ toLowerCase header) :
    preferred header (OrderedMap.assign entries key value) = preferred header entries := by
  have differ : key ≠ header := fun same => other (by rw [same])
  have spelled : spellings header (OrderedMap.assign entries key value) = spellings header entries := by
    unfold spellings
    induction entries with
    | nil => simp [OrderedMap.assign, other]
    | cons entry rest ih =>
        rw [OrderedMap.assign]
        split
        · rename_i same
          have otherEntry : toLowerCase entry.1 ≠ toLowerCase header := by rw [same]; exact other
          rw [List.filter_cons_of_neg (by simpa using other), List.filter_cons_of_neg (by simpa using otherEntry)]
        · rw [List.filter_cons, List.filter_cons, ih]
  rw [preferred, preferred, OrderedMap.lookup_assign, if_neg differ, spelled]

end Collecting

section Loop

variable {canonical aliasName : String} {start : ServiceParameters}

/-- Whether a key is one of the two extensions headers. -/
def NamesExtensions (canonical aliasName key : String) : Prop :=
  toLowerCase key = toLowerCase canonical ∨ toLowerCase key = toLowerCase aliasName

instance (canonical aliasName key : String) : Decidable (NamesExtensions canonical aliasName key) :=
  inferInstanceAs (Decidable (_ ∨ _))

/-- What the loop has done behind some of the entries. -/
structure Processed (canonical aliasName : String) (start : ServiceParameters)
    (done : List (String × String)) (state : NormalizedHeaders) : Prop where
  collected : state.canonical = collect canonical done
  collectedAlias : state.aliased = collect aliasName done
  parameters : ∀ key, state.serviceParameters.get? key =
    if key ∈ done.map Prod.fst ∧ NamesExtensions canonical aliasName key then none else start.get? key

theorem mem_keys_snoc {done : List (String × String)} {key other : String} (value : String) (apart : other ≠ key) :
    other ∈ (done ++ [(key, value)]).map Prod.fst ↔ other ∈ done.map Prod.fst := by
  rw [List.map_append, List.mem_append]
  exact or_iff_left fun last => apart (List.mem_singleton.mp last)

/-- One round, for the entry behind those that are done. -/
theorem Processed.next (apart : toLowerCase canonical ≠ toLowerCase aliasName) {done : List (String × String)}
    {state : NormalizedHeaders} (processed : Processed canonical aliasName start done state)
    {key value : String} (fresh : key ∉ done.map Prod.fst) (held : start.get? key = some value) :
    Processed canonical aliasName start (done ++ [(key, value)]) (state.round canonical aliasName key) := by
  have read : state.serviceParameters.get? key = some value := by
    rw [processed.parameters, if_neg fun both => fresh both.1, held]
  have erased (names : NamesExtensions canonical aliasName key) (other : String) :
      (state.serviceParameters.erase key).get? other =
        if other ∈ (done ++ [(key, value)]).map Prod.fst ∧ NamesExtensions canonical aliasName other then none
        else start.get? other := by
    rw [OrderedMap.get?_erase, processed.parameters]
    by_cases same : key = other
    · subst same
      simp [names]
    · rw [if_neg same]
      simp only [mem_keys_snoc value (Ne.symm same)]
  unfold NormalizedHeaders.round
  rw [read]
  by_cases isCanonical : toLowerCase key = toLowerCase canonical
  · have notAlias : toLowerCase key ≠ toLowerCase aliasName := fun same => apart (isCanonical.symm.trans same)
    simp only [if_pos isCanonical]
    exact {
      collected := by rw [processed.collected, collect_snoc value isCanonical fresh]
      collectedAlias := by rw [processed.collectedAlias, collect_snoc_other value notAlias]
      parameters := erased (.inl isCanonical) }
  · simp only [if_neg isCanonical]
    by_cases isAlias : toLowerCase key = toLowerCase aliasName
    · simp only [if_pos isAlias]
      exact {
        collected := by rw [processed.collected, collect_snoc_other value isCanonical]
        collectedAlias := by rw [processed.collectedAlias, collect_snoc value isAlias fresh]
        parameters := erased (.inr isAlias) }
    · simp only [if_neg isAlias]
      exact {
        collected := by rw [processed.collected, collect_snoc_other value isCanonical]
        collectedAlias := by rw [processed.collectedAlias, collect_snoc_other value isAlias]
        parameters := fun other => by
          rw [processed.parameters]
          by_cases same : other = key
          · subst same
            have plain : ¬ NamesExtensions canonical aliasName other := not_or.mpr ⟨isCanonical, isAlias⟩
            rw [if_neg fun both => plain both.2, if_neg fun both => plain both.2]
          · simp only [mem_keys_snoc value same] }

/-- All rounds: the induction is on the entries that are done. -/
theorem processed_all (apart : toLowerCase canonical ≠ toLowerCase aliasName) (start : ServiceParameters) :
    Processed canonical aliasName start start.entries
      ((start.entries.map Prod.fst).foldl (NormalizedHeaders.round canonical aliasName)
        { serviceParameters := start }) := by
  have prefixes : ∀ done rest : List (String × String), start.entries = done ++ rest →
      Processed canonical aliasName start done ((done.map Prod.fst).foldl
        (NormalizedHeaders.round canonical aliasName) { serviceParameters := start }) := by
    intro done
    induction done using List.reverseRecOn with
    | nil =>
        intro rest _
        exact ⟨rfl, rfl, fun key => by simp⟩
    | append_singleton done entry ih =>
        intro rest whole
        obtain ⟨key, value⟩ := entry
        have earlier := ih ((key, value) :: rest) (by rw [whole, List.append_assoc, List.singleton_append])
        have distinct := start.distinct
        rw [whole, List.map_append, List.map_append] at distinct
        have fresh : key ∉ done.map Prod.fst := by
          intro member
          have parts := (List.nodup_append.mp (List.nodup_append.mp distinct).1).2.2
          exact parts key member key (by simp) rfl
        have held : start.get? key = some value := by
          rw [start.get?_eq_some_iff, whole]
          simp
        rw [List.map_append, List.foldl_append]
        exact earlier.next apart fresh held
  exact prefixes start.entries [] (List.append_nil _).symm

/-- The rebuilt parameters, key by key. -/
theorem Processed.rebuilt_get? {state : NormalizedHeaders}
    (processed : Processed canonical aliasName start start.entries state) (key : String) :
    (state.rebuilt canonical).get? key =
      if key = canonical then preferred canonical start.entries <|> preferred aliasName start.entries
      else if NamesExtensions canonical aliasName key then none
      else start.get? key := by
  have kept : state.serviceParameters.get? key =
      if NamesExtensions canonical aliasName key then none else start.get? key := by
    rw [processed.parameters]
    by_cases names : NamesExtensions canonical aliasName key
    · by_cases present : key ∈ start.entries.map Prod.fst
      · simp [names, present]
      · have absent : start.get? key = none := OrderedMap.lookup_of_not_mem present
        simp [names, present, absent]
    · simp [names]
  have first : state.canonical.value = preferred canonical start.entries := by rw [processed.collected]; rfl
  have second : state.aliased.value = preferred aliasName start.entries := by rw [processed.collectedAlias]; rfl
  unfold NormalizedHeaders.rebuilt
  rw [first, second]
  by_cases same : key = canonical
  · subst same
    have emptied : state.serviceParameters.get? key = none := by rw [kept, if_pos (.inl rfl)]
    cases preferred key start.entries with
    | some value => simp
    | none => cases preferred aliasName start.entries <;> simp [emptied]
  · have apart : canonical ≠ key := Ne.symm same
    rw [if_neg same, ← kept]
    cases preferred canonical start.entries with
    | some value => exact OrderedMap.get?_set_of_ne _ _ apart
    | none =>
        cases preferred aliasName start.entries with
        | some value => exact OrderedMap.get?_set_of_ne _ _ apart
        | none => rfl

end Loop

section Normalizing

variable (protocolVersion : String)

theorem headers_apart :
    toLowerCase (canonicalHeader protocolVersion) ≠ toLowerCase (aliasHeader protocolVersion) := by
  unfold canonicalHeader aliasHeader
  cases Compat.isLegacyVersion protocolVersion <;> decide +kernel

theorem version_no_extension {key : String} (version : toLowerCase key = toLowerCase a2aVersionHeader) :
    ¬ NamesExtensions (canonicalHeader protocolVersion) (aliasHeader protocolVersion) key := by
  unfold NamesExtensions canonicalHeader aliasHeader
  rw [version]
  cases Compat.isLegacyVersion protocolVersion <;> decide +kernel

/-- Both extensions headers under the canonical spelling, the version under its own, all else as given. -/
theorem withNormalizedHeaders_get? (given : Option ServiceParameters) (key : String) :
    (withNormalizedHeaders protocolVersion given).get? key =
      if key = canonicalHeader protocolVersion then
        preferred (canonicalHeader protocolVersion) (given.getD .empty).entries <|>
          preferred (aliasHeader protocolVersion) (given.getD .empty).entries
      else if NamesExtensions (canonicalHeader protocolVersion) (aliasHeader protocolVersion) key then none
      else if a2aVersionHeader = key then some protocolVersion
      else (given.getD .empty).get? key := by
  have noExtension := @version_no_extension protocolVersion a2aVersionHeader rfl
  have processed := processed_all (headers_apart protocolVersion)
    ((given.getD .empty).set a2aVersionHeader protocolVersion)
  have canonical : preferred (canonicalHeader protocolVersion)
      ((given.getD .empty).set a2aVersionHeader protocolVersion).entries =
      preferred (canonicalHeader protocolVersion) (given.getD .empty).entries :=
    preferred_assign protocolVersion fun same => noExtension (.inl same)
  have aliased : preferred (aliasHeader protocolVersion)
      ((given.getD .empty).set a2aVersionHeader protocolVersion).entries =
      preferred (aliasHeader protocolVersion) (given.getD .empty).entries :=
    preferred_assign protocolVersion fun same => noExtension (.inr same)
  have rebuilt := processed.rebuilt_get? key
  rw [canonical, aliased, OrderedMap.get?_set] at rebuilt
  exact rebuilt

/-- One entry for each header, under its own spelling, and every other parameter as it was. -/
structure Normalized (given out : ServiceParameters) : Prop where
  version : ∃ key, toLowerCase key = toLowerCase a2aVersionHeader ∧ out.get? key = some protocolVersion ∧
    ∀ other, toLowerCase other = toLowerCase a2aVersionHeader → (out.get? other).isSome = true → other = key
  noAlias : ∀ key, toLowerCase key = toLowerCase (aliasHeader protocolVersion) → out.get? key = none
  spelled : ∀ key, toLowerCase key = toLowerCase (canonicalHeader protocolVersion) →
    key ≠ canonicalHeader protocolVersion → out.get? key = none
  extensions : out.get? (canonicalHeader protocolVersion) =
    (preferred (canonicalHeader protocolVersion) given.entries <|>
      preferred (aliasHeader protocolVersion) given.entries)
  unchanged : ∀ key, toLowerCase key ≠ toLowerCase a2aVersionHeader →
    ¬ NamesExtensions (canonicalHeader protocolVersion) (aliasHeader protocolVersion) key →
    out.get? key = given.get? key

/-- A caller may spell the version's header in one way only. -/
def VersionSpelled (given : ServiceParameters) : Prop :=
  ∀ key, toLowerCase key = toLowerCase a2aVersionHeader → (given.get? key).isSome = true → key = a2aVersionHeader

/-- The extensions headers are always normalised, the version's when the caller spells it exactly or not at all. -/
theorem withNormalizedHeaders_normalized_iff (given : Option ServiceParameters) :
    Normalized protocolVersion (given.getD .empty) (withNormalizedHeaders protocolVersion given) ↔
      VersionSpelled (given.getD .empty) := by
  have read := withNormalizedHeaders_get? protocolVersion given
  have versionHeld (key : String) (version : toLowerCase key = toLowerCase a2aVersionHeader) :
      (withNormalizedHeaders protocolVersion given).get? key =
        if a2aVersionHeader = key then some protocolVersion else (given.getD .empty).get? key := by
    have noExtension := version_no_extension protocolVersion version
    have notCanonical : key ≠ canonicalHeader protocolVersion := fun same => noExtension (.inl (by rw [same]))
    rw [read, if_neg notCanonical, if_neg noExtension]
  have held := versionHeld a2aVersionHeader rfl
  rw [if_pos rfl] at held
  constructor
  · rintro ⟨⟨_, _, _, only⟩, _, _, _, _⟩ key version present
    by_contra differ
    have kept : ((withNormalizedHeaders protocolVersion given).get? key).isSome = true := by
      rw [versionHeld key version, if_neg (Ne.symm differ)]
      exact present
    have first := only a2aVersionHeader rfl (by rw [held]; rfl)
    exact differ ((only key version kept).trans first.symm)
  · intro spelled
    exact {
      version := ⟨a2aVersionHeader, rfl, held, fun other version present => by
        rw [versionHeld other version] at present
        split at present
        · rename_i same
          exact same.symm
        · exact spelled other version present⟩
      noAlias := fun key aliased => by
        have notCanonical : key ≠ canonicalHeader protocolVersion := by
          intro same
          rw [same] at aliased
          exact headers_apart protocolVersion aliased
        rw [read, if_neg notCanonical, if_pos (.inr aliased)]
      spelled := fun key canonical differ => by rw [read, if_neg differ, if_pos (.inl canonical)]
      extensions := by rw [read, if_pos rfl]
      unchanged := fun key notVersion noExtension => by
        have notCanonical : key ≠ canonicalHeader protocolVersion := fun same => noExtension (.inl (by rw [same]))
        have differ : a2aVersionHeader ≠ key := fun same => notVersion (by rw [same])
        rw [read, if_neg notCanonical, if_neg noExtension, if_neg differ] }

/-- A version in lower case stays beside the transport's. -/
theorem withNormalizedHeaders_two_versions :
    ¬ Normalized "1.0" (OrderedMap.empty.set "a2a-version" "0.3")
      (withNormalizedHeaders "1.0" (some (OrderedMap.empty.set "a2a-version" "0.3"))) := by
  rintro ⟨⟨key, _, _, only⟩, _, _, _, _⟩
  have lower := only "a2a-version" (by decide +kernel) (by decide +kernel)
  have canonical := only a2aVersionHeader rfl (by decide +kernel)
  exact absurd (lower.trans canonical.symm) (by decide +kernel)

end Normalizing

end A2A.Client
