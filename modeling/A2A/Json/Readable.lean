import A2A.Json
import A2A.Library.Readable

namespace A2A

open Library

/-! A JSON text leaves no doubt about the value that it stands for. -/

section Decimals

def IsDecimal (char : Char) : Prop := char = '-' ∨ char.isDigit = true

/-- An integer in decimal digits. -/
def decimalInt (value : Int) : Text :=
  if value < 0 then '-' :: Nat.toDigits 10 value.natAbs else Nat.toDigits 10 value.natAbs

theorem isDigit_toDigits {value : Nat} {char : Char} (member : char ∈ Nat.toDigits 10 value) :
    char.isDigit = true :=
  Nat.isDigit_of_mem_toDigits (by decide) (by decide) member

theorem toDigits_injective : Function.Injective (Nat.toDigits 10) := by
  intro value other same
  have read := congrArg (fun digits => Nat.ofDigitChars 10 digits 0) same
  simpa using read

theorem decimalInt_within (value : Int) : ∀ char ∈ decimalInt value, IsDecimal char := by
  intro char member
  unfold decimalInt at member
  split at member
  · rcases List.mem_cons.mp member with minus | digit
    · exact .inl minus
    · exact .inr (isDigit_toDigits digit)
  · exact .inr (isDigit_toDigits member)

theorem decimalInt_injective : Function.Injective decimalInt := by
  have unsigned : ∀ (value : Nat) (rest : Text), Nat.toDigits 10 value ≠ '-' :: rest := by
    intro value rest same
    have minus : '-' ∈ Nat.toDigits 10 value := by
      rw [same]
      exact List.mem_cons_self
    exact absurd (isDigit_toDigits minus) (by decide)
  intro value other same
  unfold decimalInt at same
  split at same <;> split at same
  · have magnitudes := toDigits_injective (List.cons.inj same).2
    omega
  · exact absurd same.symm (unsigned _ _)
  · exact absurd same (unsigned _ _)
  · have magnitudes := toDigits_injective same
    omega

/-- The denominator of a number that is no integer. -/
def decimalDen (value : Nat) : Text := if value = 1 then [] else 'e' :: Nat.toDigits 10 value

theorem decimalDen_injective : Function.Injective decimalDen := by
  intro value other same
  unfold decimalDen at same
  split at same <;> split at same
  · omega
  · cases same
  · cases same
  · exact toDigits_injective (List.cons.inj same).2

theorem decimalDen_stops (value : Nat) : Stops IsDecimal (decimalDen value) := by
  unfold decimalDen
  split
  · exact stops_nil _
  · exact stops_cons (by unfold IsDecimal; decide) _

/-- A format to compute with.  Integers have the runtime's own texts; a fraction
is told apart by its denominator. -/
def decimalFormat : NumberFormat where
  print value := decimalInt value.num ++ decimalDen value.den
  filled value := by
    unfold decimalInt
    split <;> simp [Nat.toDigits_ne_nil]
  plain := by
    intro value char member
    rcases List.mem_append.mp member with whole | fraction
    · rcases decimalInt_within _ _ whole with minus | digit
      · exact .inr (by simp [minus])
      · exact .inl digit
    · unfold decimalDen at fraction
      split at fraction
      · cases fraction
      · rcases List.mem_cons.mp fraction with mark | digit
        · exact .inr (by simp [mark])
        · exact .inl (isDigit_toDigits digit)
  injective := by
    intro value other same
    obtain ⟨numerators, denominators⟩ :=
      append_eq_append_of_stops (decimalInt_within _) (decimalInt_within _) (decimalDen_stops _)
        (decimalDen_stops _) same
    exact Rat.ext (decimalInt_injective numerators) (decimalDen_injective denominators)

end Decimals

namespace Json

section Quoting

/-- The three ways in which a character is spelled inside quotes. -/
theorem escape_cases (char : Char) :
    (∃ letter, (char, letter) ∈ shortEscapes ∧ escape char = ['\\', letter]) ∨
    (char.toNat < 0x20 ∧ escape char =
      ['\\', 'u', '0', '0', Nat.digitChar (char.toNat / 16), Nat.digitChar (char.toNat % 16)]) ∨
    (char ≠ '\\' ∧ char ≠ '"' ∧ escape char = [char]) := by
  cases found : OrderedMap.lookup shortEscapes char with
  | some letter =>
      exact .inl ⟨letter, mem_shortEscapes found, by rw [escape, found]⟩
  | none =>
      refine .inr ?_
      have spelled : escape char = if char.toNat < 0x20 then
          ['\\', 'u', '0', '0', Nat.digitChar (char.toNat / 16), Nat.digitChar (char.toNat % 16)]
        else [char] := by
        rw [escape, found]
      by_cases control : char.toNat < 0x20
      · exact .inl ⟨control, by rw [spelled, if_pos control]⟩
      · refine .inr ⟨?_, ?_, by rw [spelled, if_neg control]⟩
        · intro same
          rw [same] at found
          exact absurd found (by decide)
        · intro same
          rw [same] at found
          exact absurd found (by decide)

theorem escape_opens (char : Char) : ∃ first rest, escape char = first :: rest ∧ first ≠ '"' := by
  rcases escape_cases char with ⟨letter, -, spelled⟩ | ⟨-, spelled⟩ | ⟨-, differs, spelled⟩
  · exact ⟨_, _, spelled, by decide⟩
  · exact ⟨_, _, spelled, by decide⟩
  · exact ⟨_, _, spelled, differs⟩

theorem shortEscapes_injective {char other letter : Char} (listed : (char, letter) ∈ shortEscapes)
    (others : (other, letter) ∈ shortEscapes) : char = other := by
  have distinct : ∀ entry ∈ shortEscapes, ∀ next ∈ shortEscapes, entry.2 = next.2 → entry.1 = next.1 := by
    decide
  exact distinct _ listed _ others rfl

theorem shortEscapes_no_u {char : Char} : (char, 'u') ∉ shortEscapes := by
  intro listed
  have letters : ∀ entry ∈ shortEscapes, entry.2 ≠ 'u' := by decide
  exact letters _ listed rfl

theorem digitChar_injective : ∀ digit < 16, ∀ other < 16,
    Nat.digitChar digit = Nat.digitChar other → digit = other := by decide

theorem escape_readable : Readable escape anything := by
  intro char other rest more _ _ same
  rcases escape_cases char with ⟨letter, listed, spelled⟩ | ⟨control, spelled⟩ | ⟨plain, -, spelled⟩ <;>
    rcases escape_cases other with ⟨letters, others, spells⟩ | ⟨controls, spells⟩ | ⟨plains, -, spells⟩ <;>
    rw [spelled, spells] at same <;>
    simp only [List.cons_append, List.nil_append, List.cons.injEq, true_and] at same
  · obtain ⟨letterSame, behind⟩ := same
    subst letterSame
    exact ⟨shortEscapes_injective listed others, behind⟩
  · exact absurd (same.1 ▸ listed) shortEscapes_no_u
  · exact absurd same.1.symm plains
  · exact absurd (same.1.symm ▸ others) shortEscapes_no_u
  · obtain ⟨high, low, behind⟩ := same
    have highs := digitChar_injective _ (by omega) _ (by omega) high
    have lows := digitChar_injective _ (by omega) _ (by omega) low
    exact ⟨Char.toNat_inj.mp (by omega), behind⟩
  · exact absurd same.1.symm plains
  · exact absurd same.1 plain
  · exact absurd same.1 plain
  · exact same

theorem quote_readable : Readable quote anything := by
  intro text other rest more _ _ same
  have closed : ReadableAt (fun chars => chars.flatMap escape ++ ['"']) anything text.toList :=
    ReadableAt.closed (fun char _ => escape_readable char) escape_opens
  simp only [quote, List.cons_append, List.cons.injEq, true_and] at same
  obtain ⟨chars, behind⟩ := closed trivial trivial same
  exact ⟨String.toList_inj.mp chars, behind⟩

end Quoting

section Values

variable (format : NumberFormat)

def InNumber (char : Char) : Prop := char.isDigit = true ∨ char ∈ ['-', '+', '.', 'e']

instance : DecidablePred InNumber :=
  fun char => inferInstanceAs (Decidable (char.isDigit = true ∨ char ∈ ['-', '+', '.', 'e']))

inductive Kind where
  | null
  | bool
  | number
  | string
  | array
  | object
deriving DecidableEq

def kind : JsonValue → Kind
  | .null => .null
  | .bool _ => .bool
  | .number _ => .number
  | .string _ => .string
  | .array _ => .array
  | .object _ => .object

/-- The kind of the values whose texts begin with a character. -/
def kindOf (char : Char) : Option Kind :=
  if InNumber char then some .number
  else if char = 'n' then some .null
  else if char = 't' ∨ char = 'f' then some .bool
  else if char = '"' then some .string
  else if char = '[' then some .array
  else if char = '{' then some .object
  else none

theorem stringify_opens (value : JsonValue) :
    ∃ first rest, stringify format value = first :: rest ∧ kindOf first = some (kind value) := by
  cases value with
  | null => exact ⟨'n', "ull".toList, by simp [stringify], by decide⟩
  | bool value =>
      cases value with
      | true => exact ⟨'t', "rue".toList, by simp [stringify], by decide⟩
      | false => exact ⟨'f', "alse".toList, by simp [stringify], by decide⟩
  | number value =>
      cases printed : format.print value with
      | nil => exact absurd printed (format.filled value)
      | cons first rest =>
          have within : InNumber first := format.plain (by rw [printed]; exact List.mem_cons_self)
          exact ⟨first, rest, by rw [stringify, printed], if_pos within⟩
  | string value => exact ⟨'"', _, by rw [stringify]; rfl, rfl⟩
  | array values => exact ⟨'[', _, by rw [stringify]; rfl, rfl⟩
  | object fields => exact ⟨'{', _, by rw [stringify]; rfl, rfl⟩

theorem stringify_opens_apart {close : Char} (closes : kindOf close = none) (value : JsonValue) :
    ∃ first rest, stringify format value = first :: rest ∧ first ≠ close := by
  obtain ⟨first, rest, printed, known⟩ := stringify_opens format value
  refine ⟨first, rest, printed, fun same => ?_⟩
  rw [same, closes] at known
  cases known

/-- Texts that agree stand for values of one kind. -/
theorem kind_eq {value other : JsonValue} {rest more : Text}
    (same : stringify format value ++ rest = stringify format other ++ more) :
    kind value = kind other := by
  obtain ⟨first, text, printed, known⟩ := stringify_opens format value
  obtain ⟨next, texts, prints, knows⟩ := stringify_opens format other
  rw [printed, prints, List.cons_append, List.cons_append, List.cons.injEq] at same
  rw [same.1, knows] at known
  exact (Option.some.inj known).symm

theorem stringifyAll_eq (values : List JsonValue) :
    stringifyAll format values = values.map (stringify format) := by
  induction values with
  | nil => rfl
  | cons value rest ih => rw [stringifyAll, ih, List.map_cons]

def stringifyMember (member : String × JsonValue) : Text :=
  quote member.1 ++ ':' :: stringify format member.2

theorem stringifyMembers_eq (fields : List (String × JsonValue)) :
    stringifyMembers format fields = fields.map (stringifyMember format) := by
  induction fields with
  | nil => rfl
  | cons member rest ih => rw [stringifyMembers, ih, List.map_cons, stringifyMember]

theorem stringifyMember_readable {member : String × JsonValue}
    (readable : ReadableAt (stringify format) (Stops InNumber) member.2) :
    ReadableAt (stringifyMember format) (Stops InNumber) member := by
  intro other rest more stops stopped same
  simp only [stringifyMember, List.append_assoc, List.cons_append] at same
  obtain ⟨keys, behind⟩ := quote_readable member.1 trivial trivial same
  obtain ⟨values, rests⟩ := readable stops stopped (List.cons.inj behind).2
  exact ⟨Prod.ext keys values, rests⟩

theorem print_readable : Readable format.print (Stops InNumber) :=
  readable_of_within (fun _ _ member => format.plain member) format.injective

theorem stops_mark {mark : Char} (outside : ¬ InNumber mark) (rest : Text) :
    Stops InNumber (mark :: rest) :=
  stops_cons outside rest

theorem null_readable : ReadableAt (stringify format) (Stops InNumber) .null := by
  intro other rest more _ _ same
  have kinds := kind_eq format same
  cases other with
  | null => exact ⟨rfl, List.append_cancel_left same⟩
  | _ => cases kinds

theorem bool_readable (value : Bool) :
    ReadableAt (stringify format) (Stops InNumber) (.bool value) := by
  intro other rest more _ _ same
  have kinds := kind_eq format same
  cases other with
  | bool other =>
      rw [stringify, stringify] at same
      cases value <;> cases other <;> simp at same <;> exact ⟨rfl, same⟩
  | _ => cases kinds

theorem number_readable (value : Rat) :
    ReadableAt (stringify format) (Stops InNumber) (.number value) := by
  intro other rest more stops stopped same
  have kinds := kind_eq format same
  cases other with
  | number other =>
      rw [stringify, stringify] at same
      obtain ⟨values, rests⟩ := print_readable format value stops stopped same
      exact ⟨by rw [values], rests⟩
  | _ => cases kinds

theorem string_readable (value : String) :
    ReadableAt (stringify format) (Stops InNumber) (.string value) := by
  intro other rest more _ _ same
  have kinds := kind_eq format same
  cases other with
  | string other =>
      rw [stringify, stringify] at same
      obtain ⟨values, rests⟩ := quote_readable value trivial trivial same
      exact ⟨by rw [values], rests⟩
  | _ => cases kinds

theorem array_readable {values : List JsonValue}
    (each : ∀ value ∈ values, ReadableAt (stringify format) (Stops InNumber) value) :
    ReadableAt (stringify format) (Stops InNumber) (.array values) := by
  intro other rest more _ _ same
  have kinds := kind_eq format same
  cases other with
  | array others =>
      have separated : ReadableAt
          (fun values => [','].intercalate (values.map (stringify format)) ++ [']'])
          anything values :=
        ReadableAt.separated (by decide) (stops_mark (by decide)) (stops_mark (by decide)) each
          (stringify_opens_apart format (by decide))
      simp only [stringify, stringifyAll_eq, List.cons_append, List.cons.injEq, true_and] at same
      obtain ⟨elements, rests⟩ := separated trivial trivial same
      exact ⟨by rw [elements], rests⟩
  | _ => cases kinds

theorem object_readable {fields : List (String × JsonValue)}
    (each : ∀ member ∈ fields, ReadableAt (stringifyMember format) (Stops InNumber) member) :
    ReadableAt (stringify format) (Stops InNumber) (.object fields) := by
  intro other rest more _ _ same
  have kinds := kind_eq format same
  cases other with
  | object others =>
      have separated : ReadableAt
          (fun fields => [','].intercalate (fields.map (stringifyMember format)) ++ ['}'])
          anything fields :=
        ReadableAt.separated (by decide) (stops_mark (by decide)) (stops_mark (by decide)) each
          (fun member => ⟨'"', _, rfl, by decide⟩)
      simp only [stringify, stringifyMembers_eq, List.cons_append, List.cons.injEq,
        true_and] at same
      obtain ⟨members, rests⟩ := separated trivial trivial same
      exact ⟨by rw [members], rests⟩
  | _ => cases kinds

mutual

theorem stringify_readable : ∀ value, ReadableAt (stringify format) (Stops InNumber) value
  | .null => null_readable format
  | .bool value => bool_readable format value
  | .number value => number_readable format value
  | .string value => string_readable format value
  | .array values => array_readable format (elements_readable values)
  | .object fields => object_readable format (members_readable fields)

theorem elements_readable : ∀ values : List JsonValue, ∀ value ∈ values,
    ReadableAt (stringify format) (Stops InNumber) value
  | [] => fun _ absent => absurd absent List.not_mem_nil
  | value :: rest =>
      List.forall_mem_cons.mpr ⟨stringify_readable value, elements_readable rest⟩

theorem members_readable : ∀ fields : List (String × JsonValue), ∀ member ∈ fields,
    ReadableAt (stringifyMember format) (Stops InNumber) member
  | [] => fun _ absent => absurd absent List.not_mem_nil
  | (_, value) :: rest =>
      List.forall_mem_cons.mpr
        ⟨stringifyMember_readable format (stringify_readable value), members_readable rest⟩

end

theorem stringify_injective : Function.Injective (stringify format) :=
  Readable.injective (stringify_readable format) (stops_nil _)

end Values

end Json

end A2A
