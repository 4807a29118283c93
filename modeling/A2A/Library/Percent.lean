import Mathlib.Data.List.Basic

namespace A2A.Library

/-! Percent escapes: a character that is not kept is written as its bytes, two digits each. -/

namespace Percent

def digits : List Char := "0123456789ABCDEF".toList

def digit (value : Nat) : Char := digits.getD value '0'

/-- The value of a digit in either case. -/
def digit? (char : Char) : Option Nat := digits.findIdx? (· == char.toUpper)

def escapeByte (byte : UInt8) : List Char := ['%', digit (byte.toNat / 16), digit (byte.toNat % 16)]

def escapeChar (kept : Char → Bool) (char : Char) : List Char :=
  if kept char then [char] else (String.utf8EncodeChar char).flatMap escapeByte

def escape (kept : Char → Bool) (text : List Char) : List Char := text.flatMap (escapeChar kept)

/-- The bytes that a text stands for, unless a percent sign has no two digits behind it. -/
def unescape : List Char → Option (List UInt8)
  | [] => some []
  | char :: rest =>
      if char = '%' then
        match rest with
        | high :: low :: more =>
            match digit? high, digit? low with
            | some high, some low => (unescape more).map (UInt8.ofNat (high * 16 + low) :: ·)
            | _, _ => none
        | _ => none
      else (unescape rest).map (String.utf8EncodeChar char ++ ·)

attribute [local simp] unescape

def decode (text : List Char) : Option (List Char) :=
  (unescape text).bind (fun bytes => bytes.toByteArray.utf8Decode?.map Array.toList)

theorem digit?_digit : ∀ value < 16, digit? (digit value) = some value := by
  decide +kernel

theorem unescape_escapeByte (byte : UInt8) (rest : List Char) :
    unescape (escapeByte byte ++ rest) = (unescape rest).map (byte :: ·) := by
  have bound : byte.toNat < 256 := byte.toNat_lt_size
  have same : byte.toNat / 16 * 16 + byte.toNat % 16 = byte.toNat := by omega
  have high := digit?_digit (byte.toNat / 16) (by omega)
  have low := digit?_digit (byte.toNat % 16) (by omega)
  simp only [escapeByte, List.cons_append, List.nil_append]
  rw [unescape, if_pos rfl]
  simp only [high, low, same, UInt8.ofNat_toNat]

theorem unescape_escapeBytes (bytes : List UInt8) (rest : List Char) :
    unescape (bytes.flatMap escapeByte ++ rest) = (unescape rest).map (bytes ++ ·) := by
  induction bytes with
  | nil => simp
  | cons byte bytes ih =>
      rw [List.flatMap_cons, List.append_assoc, unescape_escapeByte, ih, Option.map_map]
      rfl

theorem unescape_cons {char : Char} (plain : char ≠ '%') (rest : List Char) :
    unescape (char :: rest) = (unescape rest).map (String.utf8EncodeChar char ++ ·) := by
  rw [unescape.eq_def]
  simp only [if_neg plain]

variable {kept : Char → Bool}

theorem unescape_escape (escapes : kept '%' = false) (text rest : List Char) :
    unescape (escape kept text ++ rest) =
      (unescape rest).map (text.flatMap String.utf8EncodeChar ++ ·) := by
  induction text with
  | nil => simp [escape]
  | cons char text ih =>
      have first : ∀ more, unescape (escapeChar kept char ++ more) =
          (unescape more).map (String.utf8EncodeChar char ++ ·) := by
        intro more
        unfold escapeChar
        split
        · rename_i keeps
          have plain : char ≠ '%' := by
            intro same
            rw [same, escapes] at keeps
            exact absurd keeps (by decide)
          exact unescape_cons plain more
        · exact unescape_escapeBytes (String.utf8EncodeChar char) more
      rw [escape, List.flatMap_cons, List.append_assoc, first]
      rw [escape] at ih
      rw [ih, Option.map_map, List.flatMap_cons]
      congr 1
      funext bytes
      simp

/-- A text without percent signs stands for itself. -/
theorem unescape_plain {text : List Char} (plain : '%' ∉ text) :
    unescape text = some (text.flatMap String.utf8EncodeChar) := by
  induction text with
  | nil => rfl
  | cons char text ih =>
      rw [List.mem_cons, not_or] at plain
      rw [unescape_cons (Ne.symm plain.1), ih plain.2]
      rfl

/-- Escaped text is read back, also with plain text behind it. -/
theorem decode_escape_append (escapes : kept '%' = false) (text : List Char) {more : List Char}
    (plain : '%' ∉ more) : decode (escape kept text ++ more) = some (text ++ more) := by
  have bytes : (text.flatMap String.utf8EncodeChar ++ more.flatMap String.utf8EncodeChar).toByteArray =
      (text ++ more).utf8Encode := by
    rw [← List.flatMap_append, List.utf8Encode]
  rw [decode, unescape_escape escapes, unescape_plain plain, Option.map_some, Option.bind_some, bytes,
    List.utf8Decode?_utf8Encode]
  simp

theorem mem_escape {char : Char} {text : List Char} (member : char ∈ escape kept text) :
    kept char = true ∨ char = '%' ∨ char ∈ digits := by
  obtain ⟨source, _, written⟩ := List.mem_flatMap.mp member
  unfold escapeChar at written
  split at written
  · rename_i keeps
    rw [List.mem_singleton] at written
    exact .inl (written ▸ keeps)
  · obtain ⟨byte, _, escaped⟩ := List.mem_flatMap.mp written
    have listed : ∀ value < 16, digit value ∈ digits := by decide +kernel
    have bound : byte.toNat < 256 := byte.toNat_lt_size
    rw [escapeByte, List.mem_cons, List.mem_cons, List.mem_singleton] at escaped
    rcases escaped with same | same | same
    · exact .inr (.inl same)
    · exact .inr (.inr (same ▸ listed _ (by omega)))
    · exact .inr (.inr (same ▸ listed _ (by omega)))

/-- What is kept throughout is not changed. -/
theorem escape_kept {text : List Char} (keeps : ∀ char ∈ text, kept char = true) :
    escape kept text = text := by
  induction text with
  | nil => rfl
  | cons char text ih =>
      rw [List.forall_mem_cons] at keeps
      rw [escape, List.flatMap_cons, escapeChar, if_pos keeps.1]
      exact congrArg (char :: ·) (ih keeps.2)

/-- What is changed has a percent sign afterwards. -/
theorem percent_mem_escape {char : Char} {text : List Char} (member : char ∈ text)
    (escapes : kept char = false) : '%' ∈ escape kept text := by
  refine List.mem_flatMap.mpr ⟨char, member, ?_⟩
  cases bytes : String.utf8EncodeChar char with
  | nil => exact absurd bytes String.utf8EncodeChar_ne_nil
  | cons byte rest => simp [escapeChar, escapes, bytes, escapeByte]

theorem escape_ne_nil {text : List Char} (given : text ≠ []) : escape kept text ≠ [] := by
  cases text with
  | nil => exact absurd rfl given
  | cons char text =>
      cases keeps : kept char with
      | true => simp [escape, escapeChar, keeps]
      | false => exact List.ne_nil_of_mem (percent_mem_escape List.mem_cons_self keeps)

theorem unescape_ne_nil {text : List Char} {bytes : List UInt8} (given : text ≠ [])
    (read : unescape text = some bytes) : bytes ≠ [] := by
  cases text with
  | nil => exact absurd rfl given
  | cons char rest =>
      rw [unescape.eq_def] at read
      dsimp only at read
      split at read
      · split at read
        · split at read
          · obtain ⟨others, _, rfl⟩ := Option.map_eq_some_iff.mp read
            exact List.cons_ne_nil _ _
          · exact nomatch read
        · exact nomatch read
      · obtain ⟨others, _, rfl⟩ := Option.map_eq_some_iff.mp read
        intro empty
        exact String.utf8EncodeChar_ne_nil (List.append_eq_nil_iff.mp empty).1

/-- Only the empty text is decoded to the empty text. -/
theorem decode_ne_nil {text value : List Char} (given : text ≠ []) (decoded : decode text = some value) :
    value ≠ [] := by
  obtain ⟨bytes, read, chars⟩ := Option.bind_eq_some_iff.mp decoded
  obtain ⟨array, found, rfl⟩ := Option.map_eq_some_iff.mp chars
  intro empty
  have encoded : array.toList.utf8Encode = bytes.toByteArray := by
    have round := @ByteArray.utf8Encode_get_utf8Decode? bytes.toByteArray (by rw [found]; rfl)
    simpa only [found, Option.get_some] using round
  rw [empty, List.utf8Encode_nil] at encoded
  refine unescape_ne_nil given read ?_
  have sizes := congrArg ByteArray.size encoded
  simpa using sizes.symm

section Component

/-- What `encodeURIComponent` keeps. -/
def unreserved (char : Char) : Bool := char.isAlphanum || "-_.!~*'()".toList.contains char

def encodeURIComponent (text : List Char) : List Char := escape unreserved text

theorem mem_encodeURIComponent {char : Char} {text : List Char}
    (member : char ∈ encodeURIComponent text) : unreserved char = true ∨ char = '%' := by
  have listed : digits.all unreserved = true := by decide +kernel
  rcases mem_escape member with kept | percent | digit
  · exact .inl kept
  · exact .inr percent
  · exact .inl (List.all_eq_true.mp listed char digit)

/-- Reserved characters do not get into the result. -/
theorem not_mem_encodeURIComponent {char : Char} (reserved : unreserved char = false)
    (other : char ≠ '%') (text : List Char) : char ∉ encodeURIComponent text := by
  intro member
  rcases mem_encodeURIComponent member with kept | percent
  · rw [reserved] at kept
    exact absurd kept (by decide)
  · exact other percent

end Component

end Percent

end A2A.Library
