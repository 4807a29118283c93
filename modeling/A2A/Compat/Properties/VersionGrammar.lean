import Mathlib.Data.Prod.Lex
import A2A.Compat.RestHandler

namespace A2A.Compat

open Library

/-! Which strings are read as a version of the legacy range, and which of them have the form of one. -/

def compareVersions (a b : Int × Int) : Int := if a.1 ≠ b.1 then a.1 - b.1 else a.2 - b.2

/-- The segments of a version, which is trimmed first. -/
def segments (version : String) : List (List Char) := (trimmed version).splitOn '.'

/-- A segment that is a non-empty run of decimal digits. -/
def IsNumeral (segment : List Char) : Prop := segment ≠ [] ∧ ∀ char ∈ segment, char.isDigit = true

def numeral (segment : List Char) : Nat := Nat.ofDigitChars 10 segment 0

/-- `Major[.Minor[.Patch...]]`, at least 0.3 and less than 1.0, or nothing. -/
def InGrammar (version : String) : Prop :=
  trimmed version = [] ∨
    (∀ segment ∈ segments version, IsNumeral segment) ∧
      ∃ major rest, segments version = major :: rest ∧
        toLex (0, 3) ≤ toLex (numeral major, (rest.head?.map numeral).getD 0) ∧
        toLex (numeral major, (rest.head?.map numeral).getD 0) < toLex (1, 0)

/-- `Number.parseInt` reads 0 off the first segment and the given number, 3 or more, off the second. -/
def ReadsLegacy (version : String) (minor : Int) : Prop :=
  ∃ first second rest, segments version = first :: second :: rest ∧
    Decimal.parseInt (String.ofList first) = some 0 ∧
    Decimal.parseInt (String.ofList second) = some minor ∧ 3 ≤ minor

theorem parseVersionPart_eq_some {text : String} {value : Int} :
    parseVersionPart text = some value ↔
      Decimal.parseInt text = some value ∧ isFiniteInteger value = true ∧ 0 ≤ value := by
  rw [parseVersionPart, Option.filter_eq_some_iff, Bool.and_eq_true, decide_eq_true_eq]

theorem parseVersion_nonneg {version : String} {major minor : Int}
    (parsed : parseVersion version = some (major, minor)) : 0 ≤ major ∧ 0 ≤ minor := by
  unfold parseVersion at parsed
  split at parsed
  · exact nomatch parsed
  · split at parsed
    · exact nomatch parsed
    · obtain ⟨value, part, same⟩ := Option.map_eq_some_iff.mp parsed
      cases same
      exact ⟨(parseVersionPart_eq_some.mp part).2.2, Int.le_refl 0⟩
    · obtain ⟨first, part, parsed⟩ := Option.bind_eq_some_iff.mp parsed
      obtain ⟨second, minorPart, same⟩ := Option.bind_eq_some_iff.mp parsed
      cases same
      exact ⟨(parseVersionPart_eq_some.mp part).2.2, (parseVersionPart_eq_some.mp minorPart).2.2⟩

/-- The range of `isLegacyVersion` lies between the two versions of the source. -/
theorem isLegacyVersion_eq_compare (version : String) :
    isLegacyVersion version = (trimmed version = [] ||
      match parseVersion version, parseVersion "0.3", parseVersion "1.0" with
      | some v, some lower, some upper => 0 ≤ compareVersions v lower && compareVersions v upper < 0
      | _, _, _ => false) := by
  have lower : parseVersion "0.3" = some (0, 3) := by decide +kernel
  have upper : parseVersion "1.0" = some (1, 0) := by decide +kernel
  rw [isLegacyVersion, lower, upper]
  cases parsed : parseVersion version with
  | none => rfl
  | some v =>
      obtain ⟨major, minor⟩ := v
      have nonnegative := parseVersion_nonneg parsed
      have range : major = 0 ∧ 3 ≤ minor ↔
          0 ≤ compareVersions (major, minor) (0, 3) ∧ compareVersions (major, minor) (1, 0) < 0 := by
        simp only [compareVersions]
        split <;> split <;> omega
      simp only [← Bool.decide_and, range]

/-- A version that is not blank is taken as legacy when its first two segments read so, and the
second is no infinity. -/
theorem isLegacyVersion_iff {version : String} (filled : trimmed version ≠ []) :
    isLegacyVersion version = true ↔ ∃ minor, ReadsLegacy version minor ∧ isFiniteInteger minor = true := by
  rw [isLegacyVersion, decide_eq_false filled, Bool.false_or, parseVersion, if_neg filled]
  unfold ReadsLegacy segments
  cases split : (trimmed version).splitOn '.' with
  | nil => simp
  | cons first rest =>
      cases rest with
      | nil =>
          -- a missing minor counts as 0
          cases major : parseVersionPart (String.ofList first) with
          | none => simp [major]
          | some value => simp [major]
      | cons second rest =>
          constructor
          · intro taken
            simp only [] at taken
            split at taken
            · exact nomatch taken
            · rename_i major minor parsed
              obtain ⟨whole, firstPart, parsed⟩ := Option.bind_eq_some_iff.mp parsed
              obtain ⟨part, secondPart, same⟩ := Option.bind_eq_some_iff.mp parsed
              cases same
              obtain ⟨rfl, least⟩ : major = 0 ∧ 3 ≤ minor := by simpa using taken
              obtain ⟨readsMajor, -, -⟩ := parseVersionPart_eq_some.mp firstPart
              obtain ⟨readsMinor, finite, -⟩ := parseVersionPart_eq_some.mp secondPart
              exact ⟨minor, ⟨first, second, rest, rfl, readsMajor, readsMinor, least⟩, finite⟩
          · rintro ⟨minor, ⟨_, _, _, same, readsMajor, readsMinor, least⟩, finite⟩
            cases same
            have major := parseVersionPart_eq_some.mpr ⟨readsMajor, by decide +kernel, Int.le_refl 0⟩
            have minorPart := parseVersionPart_eq_some.mpr ⟨readsMinor, finite, by omega⟩
            simp [major, minorPart, least]

theorem ReadsLegacy.unique {version : String} {minor other : Int} (reads : ReadsLegacy version minor)
    (readsOther : ReadsLegacy version other) : minor = other := by
  obtain ⟨first, second, rest, split, -, readsMinor, -⟩ := reads
  obtain ⟨first', second', rest', split', -, readsOther, -⟩ := readsOther
  obtain ⟨rfl, rfl, rfl⟩ : first = first' ∧ second = second' ∧ rest = rest' := by
    simpa using split.symm.trans split'
  exact Option.some.inj (readsMinor.symm.trans readsOther)

theorem ReadsLegacy.filled {version : String} {minor : Int} (reads : ReadsLegacy version minor) :
    trimmed version ≠ [] := by
  intro blank
  obtain ⟨first, second, rest, split, -⟩ := reads
  rw [segments, blank] at split
  cases split

theorem legacyRange_iff (major minor : Nat) :
    toLex (0, 3) ≤ toLex (major, minor) ∧ toLex (major, minor) < toLex (1, 0) ↔ major = 0 ∧ 3 ≤ minor := by
  rw [Prod.Lex.toLex_le_toLex, Prod.Lex.toLex_lt_toLex]
  dsimp only
  omega

theorem IsNumeral.parseInt {segment : List Char} (numeric : IsNumeral segment) :
    Decimal.parseInt (String.ofList segment) = some (numeral segment : Int) :=
  Decimal.parseInt_digits numeric.1 numeric.2

/-- In the grammar, what is read is what the digits say. -/
theorem inGrammar_iff {version : String} (filled : trimmed version ≠ []) :
    InGrammar version ↔ (∀ segment ∈ segments version, IsNumeral segment) ∧ ∃ minor, ReadsLegacy version minor := by
  unfold InGrammar
  rw [or_iff_right filled]
  refine and_congr_right fun numeric => ?_
  constructor
  · rintro ⟨first, rest, split, range⟩
    obtain ⟨major, minor⟩ := (legacyRange_iff _ _).mp range
    cases rest with
    | nil => exact absurd minor (by decide)
    | cons second rest =>
        rw [split] at numeric
        have readsMajor := (numeric first (by simp)).parseInt
        rw [major] at readsMajor
        exact ⟨numeral second, first, second, rest, split, readsMajor, (numeric second (by simp)).parseInt,
          by exact_mod_cast minor⟩
  · rintro ⟨minor, first, second, rest, split, readsMajor, readsMinor, least⟩
    refine ⟨first, second :: rest, split, (legacyRange_iff _ _).mpr ?_⟩
    rw [split] at numeric
    have major := Option.some.inj ((numeric first (by simp)).parseInt.symm.trans readsMajor)
    have same := Option.some.inj ((numeric second (by simp)).parseInt.symm.trans readsMinor)
    have unsigned : 3 ≤ numeral second := by omega
    exact ⟨by exact_mod_cast major, unsigned⟩

/-- Detection goes by the grammar exactly for the versions that do not read as one of the range
unless they have its form, their minor no infinity. -/
theorem isLegacyVersion_inGrammar_iff (version : String) :
    (isLegacyVersion version = true ↔ InGrammar version) ↔
      ∀ minor, ReadsLegacy version minor →
        ((∀ segment ∈ segments version, IsNumeral segment) ↔ isFiniteInteger minor = true) := by
  by_cases blank : trimmed version = []
  · have legacy : isLegacyVersion version = true := by rw [isLegacyVersion, decide_eq_true blank, Bool.true_or]
    exact iff_of_true (iff_of_true legacy (.inl blank)) fun minor reads => absurd blank reads.filled
  · rw [isLegacyVersion_iff blank, inGrammar_iff blank]
    constructor
    · intro agree minor reads
      constructor
      · intro numeric
        obtain ⟨other, readsOther, finite⟩ := agree.mpr ⟨numeric, minor, reads⟩
        rwa [reads.unique readsOther]
      · intro finite
        exact (agree.mp ⟨minor, reads, finite⟩).1
    · intro agree
      constructor
      · rintro ⟨minor, reads, finite⟩
        exact ⟨(agree minor reads).mpr finite, minor, reads⟩
      · rintro ⟨numeric, minor, reads⟩
        exact ⟨minor, reads, (agree minor reads).mp numeric⟩

/-- What follows the digits of a segment is passed over. -/
theorem suffixedVersion_taken : ¬ (isLegacyVersion "0.3-beta" = true ↔ InGrammar "0.3-beta") := by
  intro agree
  have filled : trimmed "0.3-beta" ≠ [] := by decide +kernel
  have form := ((inGrammar_iff filled).mp (agree.mp (by decide +kernel))).1
  have split : segments "0.3-beta" = [['0'], ['3', '-', 'b', 'e', 't', 'a']] := by decide +kernel
  rw [split] at form
  exact absurd ((form _ (.tail _ (.head _))).2 '-' (by decide)) (by decide)

end A2A.Compat
