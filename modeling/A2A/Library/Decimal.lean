import Mathlib.Data.List.TakeWhile

namespace A2A.Library

/-! Reading an integer off the front of a text, as `parseInt(text, 10)` does. -/

namespace Decimal

/-- The characters that are skipped in front of a number. -/
def isWhiteSpace (char : Char) : Bool :=
  char.toNat ∈ [0x9, 0xA, 0xB, 0xC, 0xD, 0x20, 0xA0, 0x1680, 0x2028, 0x2029, 0x202F, 0x205F, 0x3000, 0xFEFF] ||
    (0x2000 ≤ char.toNat && char.toNat ≤ 0x200A)

/-- Whether a minus sign stands in front, and what stands behind the sign. -/
def sign : List Char → Bool × List Char
  | '-' :: rest => (true, rest)
  | '+' :: rest => (false, rest)
  | chars => (false, chars)

/-- There is no value where `parseInt` gives `NaN`. -/
def parseInt (text : String) : Option Int :=
  let (negative, unsigned) := sign (text.toList.dropWhile isWhiteSpace)
  let digits := unsigned.takeWhile Char.isDigit
  if digits.isEmpty then none
  else
    let value : Int := Nat.ofDigitChars 10 digits 0
    some (if negative then -value else value)

theorem digit_bounds {char : Char} (digit : char.isDigit = true) :
    48 ≤ char.toNat ∧ char.toNat ≤ 57 := by
  simpa [Char.isDigit, UInt32.le_iff_toNat_le] using digit

theorem isWhiteSpace_digit {char : Char} (digit : char.isDigit = true) : isWhiteSpace char = false := by
  have bounds := digit_bounds digit
  simp only [isWhiteSpace, Bool.or_eq_false_iff, decide_eq_false_iff_not, Bool.and_eq_false_iff,
    List.mem_cons, List.not_mem_nil, or_false]
  omega

theorem sign_digit {char : Char} (digit : char.isDigit = true) (rest : List Char) :
    sign (char :: rest) = (false, char :: rest) := by
  have bounds := digit_bounds digit
  unfold sign
  split
  · rename_i same
    cases same
    simp at bounds
  · rename_i same
    cases same
    simp at bounds
  · rfl

/-- A run of digits is read as a whole. -/
theorem parseInt_digits {digits : List Char} (filled : digits ≠ []) (run : ∀ char ∈ digits, char.isDigit = true) :
    parseInt (String.ofList digits) = some (Nat.ofDigitChars 10 digits 0 : Int) := by
  have taken := List.takeWhile_eq_self_iff.mpr run
  cases digits with
  | nil => exact absurd rfl filled
  | cons first rest =>
      have digit : first.isDigit = true := run first List.mem_cons_self
      have skipped : (first :: rest).dropWhile isWhiteSpace = first :: rest :=
        List.dropWhile_cons_of_neg (by simp [isWhiteSpace_digit digit])
      simp only [parseInt, String.toList_ofList, skipped, sign_digit digit, taken]
      simp

/-- A natural number is read back from its decimal digits. -/
theorem parseInt_toString (value : Nat) : parseInt (toString value) = some (value : Int) := by
  have digits : (toString value).toList = Nat.toDigits 10 value := Nat.toList_repr
  have run : ∀ char ∈ Nat.toDigits 10 value, char.isDigit = true := fun char member =>
    Nat.isDigit_of_mem_toDigits (by omega) (by omega) member
  have read := parseInt_digits Nat.toDigits_ne_nil run
  rwa [← digits, String.ofList_toList, digits, Nat.ofDigitChars_ten_toDigits] at read

theorem parseInt_toString_int (value : Int) : parseInt (toString value) = some value := by
  cases value with
  | ofNat value => exact parseInt_toString value
  | negSucc value =>
      have text : (toString (Int.negSucc value)).toList = '-' :: (toString (value + 1)).toList := by
        rw [show toString (Int.negSucc value) = "-" ++ toString (value + 1) from rfl, String.toList_append]
        rfl
      have digits : (toString (value + 1)).toList = Nat.toDigits 10 (value + 1) := Nat.toList_repr
      have allDigits : ∀ char ∈ Nat.toDigits 10 (value + 1), char.isDigit = true := fun char member =>
        Nat.isDigit_of_mem_toDigits (by omega) (by omega) member
      have skipped : ('-' :: Nat.toDigits 10 (value + 1)).dropWhile isWhiteSpace =
          '-' :: Nat.toDigits 10 (value + 1) := List.dropWhile_cons_of_neg (by decide)
      simp only [parseInt, text, digits, skipped, sign, List.takeWhile_eq_self_iff.mpr allDigits,
        List.isEmpty_iff, Nat.toDigits_ne_nil, if_false, if_true, Nat.ofDigitChars_ten_toDigits]
      rfl

theorem toString_injective {first second : Int} (same : toString first = toString second) : first = second := by
  have read := parseInt_toString_int first
  rw [same, parseInt_toString_int] at read
  exact (Option.some.inj read).symm

end Decimal

end A2A.Library
