import Mathlib.Algebra.GroupWithZero.Nat
import A2A.Types
import A2A.Library.Decimal

namespace A2A

open Library

/-! `JSON.stringify` on JSON values. -/

/-- A text by its characters.  JSON quoting and `TextDecoderStream` both let no
lone surrogate through. -/
abbrev Text := List Char

/-- The `length` of a JavaScript string. -/
def Text.codeUnits (text : Text) : Nat :=
  (text.map (fun char => if char.toNat < 0x10000 then 1 else 2)).sum

section Objects

variable (holds : List String → Prop)

mutual

/-- The keys of every object within a value are as they should be. -/
def JsonValue.EveryObject : JsonValue → Prop
  | .array values => JsonValue.EveryElement values
  | .object fields => holds (fields.map Prod.fst) ∧ JsonValue.EveryMember fields
  | _ => True

def JsonValue.EveryElement : List JsonValue → Prop
  | [] => True
  | value :: rest => value.EveryObject ∧ JsonValue.EveryElement rest

def JsonValue.EveryMember : List (String × JsonValue) → Prop
  | [] => True
  | (_, value) :: rest => value.EveryObject ∧ JsonValue.EveryMember rest

end

variable {holds}

theorem JsonValue.everyElement_iff {values : List JsonValue} :
    JsonValue.EveryElement holds values ↔ ∀ value ∈ values, value.EveryObject holds := by
  induction values with
  | nil => simp [JsonValue.EveryElement]
  | cons value rest ih => rw [JsonValue.EveryElement, ih, List.forall_mem_cons]

theorem JsonValue.everyMember_iff {fields : List (String × JsonValue)} :
    JsonValue.EveryMember holds fields ↔ ∀ member ∈ fields, member.2.EveryObject holds := by
  induction fields with
  | nil => simp [JsonValue.EveryMember]
  | cons member rest ih => rw [JsonValue.EveryMember, ih, List.forall_mem_cons]

mutual

theorem JsonValue.EveryObject.and {more : List String → Prop} : ∀ {value : JsonValue},
    value.EveryObject holds → value.EveryObject more →
      value.EveryObject (fun keys => holds keys ∧ more keys)
  | .null, _, _ | .bool _, _, _ | .number _, _, _ | .string _, _, _ => trivial
  | .array _, each, others => JsonValue.EveryElement.and each others
  | .object _, each, others => ⟨⟨each.1, others.1⟩, JsonValue.EveryMember.and each.2 others.2⟩

theorem JsonValue.EveryElement.and {more : List String → Prop} : ∀ {values : List JsonValue},
    JsonValue.EveryElement holds values → JsonValue.EveryElement more values →
      JsonValue.EveryElement (fun keys => holds keys ∧ more keys) values
  | [], _, _ => trivial
  | _ :: _, each, others =>
      ⟨JsonValue.EveryObject.and each.1 others.1, JsonValue.EveryElement.and each.2 others.2⟩

theorem JsonValue.EveryMember.and {more : List String → Prop} : ∀ {fields : List (String × JsonValue)},
    JsonValue.EveryMember holds fields → JsonValue.EveryMember more fields →
      JsonValue.EveryMember (fun keys => holds keys ∧ more keys) fields
  | [], _, _ => trivial
  | (_, _) :: _, each, others =>
      ⟨JsonValue.EveryObject.and each.1 others.1, JsonValue.EveryMember.and each.2 others.2⟩

end

end Objects

/-- The runtime's `Number::toString` on finite numbers: digits, signs, a point
and an exponent, and different texts for different numbers. -/
structure NumberFormat where
  print : Rat → Text
  filled : ∀ value, print value ≠ []
  plain : ∀ {value char}, char ∈ print value → char.isDigit = true ∨ char ∈ ['-', '+', '.', 'e']
  injective : Function.Injective print

namespace Json

/-- The characters that have a short escape, with its letter. -/
def shortEscapes : List (Char × Char) :=
  [('\x08', 'b'), ('\t', 't'), ('\n', 'n'), ('\x0c', 'f'), ('\r', 'r'), ('"', '"'), ('\\', '\\')]

def escape (char : Char) : Text :=
  match OrderedMap.lookup shortEscapes char with
  | some letter => ['\\', letter]
  | none =>
      if char.toNat < 0x20 then
        ['\\', 'u', '0', '0', Nat.digitChar (char.toNat / 16), Nat.digitChar (char.toNat % 16)]
      else [char]

def quote (text : String) : Text := '"' :: text.toList.flatMap escape ++ ['"']

section Stringify

variable (format : NumberFormat)

mutual

def stringify : JsonValue → Text
  | .null => "null".toList
  | .bool value => (if value then "true" else "false").toList
  | .number value => format.print value
  | .string value => quote value
  | .array values => '[' :: [','].intercalate (stringifyAll values) ++ [']']
  | .object fields => '{' :: [','].intercalate (stringifyMembers fields) ++ ['}']

def stringifyAll : List JsonValue → List Text
  | [] => []
  | value :: rest => stringify value :: stringifyAll rest

def stringifyMembers : List (String × JsonValue) → List Text
  | [] => []
  | (key, value) :: rest => (quote key ++ ':' :: stringify value) :: stringifyMembers rest

end

end Stringify

theorem mem_shortEscapes {char letter : Char}
    (found : OrderedMap.lookup shortEscapes char = some letter) : (char, letter) ∈ shortEscapes :=
  (OrderedMap.lookup_eq_some_iff (by decide)).mp found

/-- The characters below the blank, which a JSON text spells out. -/
def IsControl (char : Char) : Prop := char.toNat < 0x20

instance : DecidablePred IsControl := fun char => inferInstanceAs (Decidable (char.toNat < 0x20))

/-- A text that stays on its line. -/
def Plain (text : Text) : Prop := ∀ char ∈ text, ¬ IsControl char

instance : DecidablePred Plain :=
  fun text => List.decidableBAll (fun char => ¬ IsControl char) text

theorem Plain.append {text more : Text} (plain : Plain text) (others : Plain more) :
    Plain (text ++ more) :=
  List.forall_mem_append.mpr ⟨plain, others⟩

theorem Plain.cons {char : Char} {text : Text} (printed : ¬ IsControl char) (plain : Plain text) :
    Plain (char :: text) :=
  List.forall_mem_cons.mpr ⟨printed, plain⟩

theorem Plain.singleton {char : Char} (printed : ¬ IsControl char) : Plain [char] :=
  .cons printed (fun _ absent => absurd absent List.not_mem_nil)

theorem digitChar_plain : ∀ digit < 16, ¬ IsControl (Nat.digitChar digit) := by decide

theorem escape_plain (char : Char) : Plain (escape char) := by
  unfold escape
  split
  · rename_i letter found
    have letters : ∀ entry ∈ shortEscapes, ¬ IsControl entry.2 := by decide
    exact .cons (by decide) (.singleton (letters _ (mem_shortEscapes found)))
  · split
    · rename_i control
      have high := digitChar_plain (char.toNat / 16) (by omega)
      have low := digitChar_plain (char.toNat % 16) (by omega)
      have marked : Plain ['\\', 'u', '0', '0'] := by decide
      exact marked.append (.cons high (.singleton low))
    · rename_i printed
      exact .singleton printed

theorem quote_plain (text : String) : Plain (quote text) := by
  have escaped : Plain (text.toList.flatMap escape) := by
    intro written member
    obtain ⟨char, -, spelled⟩ := List.mem_flatMap.mp member
    exact escape_plain char written spelled
  exact .cons (by decide) (escaped.append (by decide))

/-- What is joined by plain texts is plain. -/
theorem Plain.intercalate {separator : Text} {texts : List Text} (between : Plain separator)
    (plain : ∀ text ∈ texts, Plain text) : Plain (separator.intercalate texts) := by
  induction texts with
  | nil => exact fun _ absent => absurd absent List.not_mem_nil
  | cons text rest ih =>
      rw [List.forall_mem_cons] at plain
      cases rest with
      | nil => simpa using plain.1
      | cons next more =>
          rw [List.intercalate_cons_cons]
          exact (plain.1.append between).append (ih plain.2)

section Plain

variable (format : NumberFormat)

theorem print_plain (value : Rat) : Plain (format.print value) := by
  intro char member control
  rcases format.plain member with digit | other
  · have bounds := Decimal.digit_bounds digit
    unfold IsControl at control
    omega
  · have others : Plain ['-', '+', '.', 'e'] := by decide
    exact others char other control

mutual

theorem stringify_plain : ∀ value, Plain (stringify format value)
  | .null => by
      rw [stringify]
      decide
  | .bool value => by
      rw [stringify]
      revert value
      decide
  | .number value => print_plain format value
  | .string value => quote_plain value
  | .array values =>
      .cons (by decide) (.append (.intercalate (by decide) (stringifyAll_plain values)) (by decide))
  | .object fields =>
      .cons (by decide) (.append (.intercalate (by decide) (stringifyMembers_plain fields)) (by decide))

theorem stringifyAll_plain : ∀ values, ∀ text ∈ stringifyAll format values, Plain text
  | [] => fun _ absent => absurd absent List.not_mem_nil
  | value :: rest =>
      List.forall_mem_cons.mpr ⟨stringify_plain value, stringifyAll_plain rest⟩

theorem stringifyMembers_plain : ∀ fields, ∀ text ∈ stringifyMembers format fields, Plain text
  | [] => fun _ absent => absurd absent List.not_mem_nil
  | (key, value) :: rest =>
      List.forall_mem_cons.mpr
        ⟨(quote_plain key).append (.cons (by decide) (stringify_plain value)), stringifyMembers_plain rest⟩

end

theorem stringify_filled (value : JsonValue) : stringify format value ≠ [] := by
  cases value with
  | null =>
      rw [stringify]
      decide
  | bool value =>
      rw [stringify]
      revert value
      decide
  | number value => exact format.filled value
  | string value => exact List.cons_ne_nil _ _
  | array values => exact List.cons_ne_nil _ _
  | object fields => exact List.cons_ne_nil _ _

end Plain

end Json

end A2A
