import Mathlib.Data.List.Basic

namespace A2A.Library

/-! Base64.  Three bytes are four sextets, a sextet is a letter.

The decoder is lenient: it takes both alphabets, passes over characters of
neither, and stops at the padding.
-/

namespace Base64

def letters : List Char :=
  "ABCDEFGHIJKLMNOPQRSTUVWXYZabcdefghijklmnopqrstuvwxyz0123456789+/".toList

def letter (sextet : Nat) : Char := letters.getD sextet 'A'

def sextet? (char : Char) : Option Nat :=
  if char = '-' then some 62
  else if char = '_' then some 63
  else letters.findIdx? (· == char)

def toSextets : List UInt8 → List Nat
  | [] => []
  | [first] => [first.toNat / 4, first.toNat % 4 * 16]
  | [first, second] =>
      [first.toNat / 4, first.toNat % 4 * 16 + second.toNat / 16, second.toNat % 16 * 4]
  | first :: second :: third :: rest =>
      first.toNat / 4 :: (first.toNat % 4 * 16 + second.toNat / 16) ::
        (second.toNat % 16 * 4 + third.toNat / 64) :: third.toNat % 64 :: toSextets rest

def ofSextets : List Nat → List UInt8
  | [] => []
  | [_] => []
  | [first, second] => [UInt8.ofNat (first * 4 + second / 16)]
  | [first, second, third] =>
      [UInt8.ofNat (first * 4 + second / 16), UInt8.ofNat (second % 16 * 16 + third / 4)]
  | first :: second :: third :: fourth :: rest =>
      UInt8.ofNat (first * 4 + second / 16) :: UInt8.ofNat (second % 16 * 16 + third / 4) ::
        UInt8.ofNat (third % 4 * 64 + fourth) :: ofSextets rest

def padding (length : Nat) : List Char :=
  match length % 3 with
  | 1 => ['=', '=']
  | 2 => ['=']
  | _ => []

def encode (bytes : List UInt8) : String :=
  String.ofList ((toSextets bytes).map letter ++ padding bytes.length)

def decode (text : String) : List UInt8 :=
  ofSextets ((text.toList.takeWhile (· ≠ '=')).filterMap sextet?)

/-- Every letter is read back; the second alphabet has its own two, and neither has these others. -/
theorem sextet?_letters : (∀ sextet < 64, sextet? (letter sextet) = some sextet) ∧
    sextet? '=' = none ∧ sextet? '{' = none ∧ sextet? '-' = sextet? '+' ∧ sextet? '_' = sextet? '/' := by
  decide +kernel

theorem sextet?_letter (sextet : Nat) (bound : sextet < 64) : sextet? (letter sextet) = some sextet :=
  sextet?_letters.1 sextet bound

theorem letter_ne_padding (sextet : Nat) (bound : sextet < 64) : letter sextet ≠ '=' := by
  intro same
  have read := sextet?_letter sextet bound
  rw [same, sextet?_letters.2.1] at read
  cases read

theorem toSextets_lt (bytes : List UInt8) : ∀ sextet ∈ toSextets bytes, sextet < 64 := by
  induction bytes using toSextets.induct with
  | case1 => simp [toSextets]
  | case2 first =>
      have bound : first.toNat < 256 := first.toNat_lt_size
      simp only [toSextets, List.forall_mem_cons, List.not_mem_nil, false_imp_iff, implies_true,
        and_true]
      omega
  | case3 first second =>
      have bound : first.toNat < 256 := first.toNat_lt_size
      have bound' : second.toNat < 256 := second.toNat_lt_size
      simp only [toSextets, List.forall_mem_cons, List.not_mem_nil, false_imp_iff, implies_true,
        and_true]
      omega
  | case4 first second third rest ih =>
      have bound : first.toNat < 256 := first.toNat_lt_size
      have bound' : second.toNat < 256 := second.toNat_lt_size
      have bound'' : third.toNat < 256 := third.toNat_lt_size
      simp only [toSextets, List.forall_mem_cons]
      refine ⟨by omega, by omega, by omega, by omega, ih⟩

theorem ofSextets_toSextets (bytes : List UInt8) : ofSextets (toSextets bytes) = bytes := by
  induction bytes using toSextets.induct with
  | case1 => rfl
  | case2 first =>
      have bound : first.toNat < 256 := first.toNat_lt_size
      simp only [toSextets, ofSextets,
        show first.toNat / 4 * 4 + first.toNat % 4 * 16 / 16 = first.toNat by omega, UInt8.ofNat_toNat]
  | case3 first second =>
      have bound' : second.toNat < 256 := second.toNat_lt_size
      simp only [toSextets, ofSextets,
        show first.toNat / 4 * 4 + (first.toNat % 4 * 16 + second.toNat / 16) / 16 = first.toNat by omega,
        show (first.toNat % 4 * 16 + second.toNat / 16) % 16 * 16 + second.toNat % 16 * 4 / 4 =
          second.toNat by omega, UInt8.ofNat_toNat]
  | case4 first second third rest ih =>
      have bound' : second.toNat < 256 := second.toNat_lt_size
      have bound'' : third.toNat < 256 := third.toNat_lt_size
      simp only [toSextets, ofSextets, ih,
        show first.toNat / 4 * 4 + (first.toNat % 4 * 16 + second.toNat / 16) / 16 = first.toNat by omega,
        show (first.toNat % 4 * 16 + second.toNat / 16) % 16 * 16 +
          (second.toNat % 16 * 4 + third.toNat / 64) / 4 = second.toNat by omega,
        show (second.toNat % 16 * 4 + third.toNat / 64) % 4 * 64 + third.toNat % 64 = third.toNat by omega,
        UInt8.ofNat_toNat]

/-- The letters end where the padding starts. -/
theorem takeWhile_padded {sextets : List Nat} (bounded : ∀ sextet ∈ sextets, sextet < 64) (length : Nat) :
    (sextets.map letter ++ padding length).takeWhile (· ≠ '=') = sextets.map letter := by
  rw [List.takeWhile_append_of_pos]
  · have none : (padding length).takeWhile (· ≠ '=') = [] := by
      unfold padding
      split <;> rfl
    rw [none, List.append_nil]
  · intro char member
    obtain ⟨sextet, listed, rfl⟩ := List.mem_map.mp member
    exact decide_eq_true (letter_ne_padding sextet (bounded sextet listed))

theorem filterMap_letters {sextets : List Nat} (bounded : ∀ sextet ∈ sextets, sextet < 64) :
    (sextets.map letter).filterMap sextet? = sextets := by
  induction sextets with
  | nil => rfl
  | cons sextet rest ih =>
      rw [List.forall_mem_cons] at bounded
      rw [List.map_cons, List.filterMap_cons_some (sextet?_letter sextet bounded.1), ih bounded.2]

@[simp] theorem decode_encode (bytes : List UInt8) : decode (encode bytes) = bytes := by
  have bounded := toSextets_lt bytes
  rw [decode, encode, String.toList_ofList, takeWhile_padded bounded, filterMap_letters bounded,
    ofSextets_toSextets]

section Url

/-- The letters of the alphabet for URLs and file names. -/
def urlLetter (sextet : Nat) : Char :=
  match letter sextet with
  | '+' => '-'
  | '/' => '_'
  | other => other

/-- The encoding for URLs, which has no padding. -/
def encodeUrl (bytes : List UInt8) : List Char := (toSextets bytes).map urlLetter

theorem sextet?_urlLetter (sextet : Nat) (bound : sextet < 64) :
    sextet? (urlLetter sextet) = some sextet := by
  rw [← sextet?_letter sextet bound, urlLetter]
  split
  · rename_i same
    rw [same, sextet?_letters.2.2.2.1]
  · rename_i same
    rw [same, sextet?_letters.2.2.2.2]
  · rfl

theorem urlLetter_plain (sextet : Nat) (bound : sextet < 64) : urlLetter sextet ≠ '{' := by
  intro same
  have read := sextet?_urlLetter sextet bound
  rw [same, sextet?_letters.2.2.1] at read
  cases read

theorem encodeUrl_plain (bytes : List UInt8) : '{' ∉ encodeUrl bytes := by
  intro member
  obtain ⟨sextet, listed, same⟩ := List.mem_map.mp member
  exact urlLetter_plain sextet (toSextets_lt bytes sextet listed) same

theorem encodeUrl_injective : Function.Injective encodeUrl := by
  have sextets : ∀ {sextets : List Nat}, (∀ sextet ∈ sextets, sextet < 64) →
      (sextets.map urlLetter).filterMap sextet? = sextets := by
    intro sextets bounded
    induction sextets with
    | nil => rfl
    | cons sextet rest ih =>
        rw [List.forall_mem_cons] at bounded
        rw [List.map_cons, List.filterMap_cons_some (sextet?_urlLetter sextet bounded.1), ih bounded.2]
  intro bytes others same
  have read := congrArg (List.filterMap sextet?) same
  simp only [encodeUrl, sextets (toSextets_lt bytes), sextets (toSextets_lt others)] at read
  rw [← ofSextets_toSextets bytes, read, ofSextets_toSextets]

end Url

end Base64

end A2A.Library
