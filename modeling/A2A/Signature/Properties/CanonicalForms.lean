import A2A.Signature.Leaves
import A2A.Signature.Properties.Signers

namespace A2A

open Library

/-! A canonical form says what the leaves of the card are, no less and no more. -/

section KeyOrder

/-- The code units of no character are the beginning of another's. -/
theorem utf16_readable : Readable utf16 anything := by
  intro char other rest more _ _ same
  have scalar : ∀ char : Char, char.toNat < 0xD800 ∨ 0xDFFF < char.toNat ∧ char.toNat < 0x110000 := by
    intro char
    have valid := char.valid
    simp only [UInt32.isValidChar, Nat.isValidChar] at valid
    exact valid
  have first := scalar char
  have second := scalar other
  unfold utf16 at same
  split at same <;> split at same <;>
    simp only [List.cons_append, List.nil_append, List.cons.injEq] at same
  · exact ⟨Char.toNat_inj.mp same.1, same.2⟩
  · omega
  · omega
  · exact ⟨Char.toNat_inj.mp (by omega), same.2.2⟩

theorem codeUnits_injective {key other : String}
    (same : key.toList.flatMap utf16 = other.toList.flatMap utf16) : key = other := by
  have opens : ∀ char : Char, ∃ first rest, utf16 char = first :: rest ∧ first ≠ 0x110000 := by
    intro char
    have valid := char.valid
    simp only [UInt32.isValidChar, Nat.isValidChar] at valid
    have bound : char.toNat < 0x110000 := by
      simp only [Char.toNat]
      omega
    unfold utf16
    split
    · exact ⟨_, _, rfl, by omega⟩
    · exact ⟨_, _, rfl, by omega⟩
  have closed : ReadableAt (fun chars => chars.flatMap utf16 ++ [0x110000]) anything key.toList :=
    ReadableAt.closed (fun char _ => utf16_readable char) opens
  have ended : (key.toList.flatMap utf16 ++ [0x110000]) ++ [] =
      (other.toList.flatMap utf16 ++ [0x110000]) ++ [] := by rw [same]
  exact String.toList_inj.mp (closed trivial trivial ended).1

theorem keyOrder_trans (key other last : String) (first : keyOrder key other = true)
    (second : keyOrder other last = true) : keyOrder key last = true :=
  decide_eq_true (le_trans (of_decide_eq_true first) (of_decide_eq_true second))

theorem keyOrder_total (key other : String) : (keyOrder key other || keyOrder other key) = true := by
  rw [Bool.or_eq_true]
  exact (le_total _ _).imp decide_eq_true decide_eq_true

theorem keyOrder_antisymm {key other : String} (first : keyOrder key other = true)
    (second : keyOrder other key = true) : key = other :=
  codeUnits_injective (le_antisymm (of_decide_eq_true first) (of_decide_eq_true second))

/-- Members in the order of their keys. -/
def Sorted (members : List (String × α)) : Prop :=
  members.Pairwise fun member other => keyOrder member.1 other.1 = true

theorem sortMembers_sorted (members : List (String × α)) : Sorted (sortMembers members) :=
  @List.pairwise_mergeSort (String × α) (fun member other => keyOrder member.1 other.1)
    (fun member other last => keyOrder_trans member.1 other.1 last.1)
    (fun member other => keyOrder_total member.1 other.1) members

/-- Sorted members that answer every search alike are the same. -/
theorem sorted_ext {members others : List (String × α)} (sorted : Sorted members)
    (sorts : Sorted others) (distinct : (members.map Prod.fst).Nodup)
    (distincts : (others.map Prod.fst).Nodup)
    (same : ∀ key, OrderedMap.lookup members key = OrderedMap.lookup others key) : members = others := by
  have listed : ∀ member, member ∈ members ↔ member ∈ others := by
    rintro ⟨key, value⟩
    rw [← OrderedMap.lookup_eq_some_iff distinct, same, OrderedMap.lookup_eq_some_iff distincts]
  have moved : members.Perm others :=
    (List.perm_ext_iff_of_nodup distinct.of_map distincts.of_map).mpr listed
  refine moved.eq_of_pairwise (fun member other within behind first second => ?_) sorted sorts
  have keys : member.1 = other.1 := keyOrder_antisymm first second
  have found := (OrderedMap.lookup_eq_some_iff distincts).mpr ((listed member).mp within)
  have founds := (OrderedMap.lookup_eq_some_iff distincts).mpr behind
  rw [keys, founds] at found
  exact Prod.ext keys (Option.some.inj found).symm

end KeyOrder

section Settled

mutual

/-- A value with nothing empty in it and with its members in order. -/
def Settled : JsonValue → Prop
  | .null => False
  | .bool _ | .number _ => True
  | .string value => value ≠ ""
  | .array values => values ≠ [] ∧ SettledElements values
  | .object fields =>
      fields ≠ [] ∧ (fields.map Prod.fst).Nodup ∧ Sorted fields ∧ SettledMembers fields

def SettledElements : List JsonValue → Prop
  | [] => True
  | value :: rest => Settled value ∧ SettledElements rest

def SettledMembers : List (String × JsonValue) → Prop
  | [] => True
  | (_, value) :: rest => Settled value ∧ SettledMembers rest

end

theorem settledElements_iff {values : List JsonValue} :
    SettledElements values ↔ ∀ value ∈ values, Settled value := by
  induction values with
  | nil => simp [SettledElements]
  | cons value rest ih => rw [SettledElements, ih, List.forall_mem_cons]

theorem settledMembers_iff {fields : List (String × JsonValue)} :
    SettledMembers fields ↔ ∀ member ∈ fields, Settled member.2 := by
  induction fields with
  | nil => simp [SettledMembers]
  | cons member rest ih => rw [SettledMembers, ih, List.forall_mem_cons]

theorem settled_rule : CleanRule List.Nodup (fun cleaned => Settled (ordered cleaned)) where
  bool _ := trivial
  number _ := trivial
  string _ nonempty := nonempty
  array values nonempty each := by
    refine ⟨?_, settledElements_iff.mpr ?_⟩
    · rw [orderedElements_eq]
      exact fun empty => nonempty (List.map_eq_nil_iff.mp empty)
    · rw [orderedElements_eq]
      exact List.forall_mem_map.mpr each
  object fields keys nonempty distinct kept each := by
    have moved := sortMembers_perm (orderedMembers fields)
    refine ⟨fun empty => ?_, ?_, sortMembers_sorted _, settledMembers_iff.mpr fun member listed => ?_⟩
    · rw [empty, List.nil_perm] at moved
      have names := orderedMembers_keys fields
      rw [moved] at names
      exact nonempty (List.map_eq_nil_iff.mp names.symm)
    · rw [(moved.map Prod.fst).nodup_iff, orderedMembers_keys]
      exact kept.nodup distinct
    · obtain ⟨source, within, same⟩ := mem_orderedMembers (moved.mem_iff.mp listed)
      rw [same]
      exact each source within

theorem Settled.filled : ∀ {value : JsonValue}, Settled value → A2A.filled value = true
  | .null, settled => settled.elim
  | .bool _, _ => rfl
  | .number _, _ => rfl
  | .string _, settled => decide_eq_true settled
  | .array [], settled => absurd rfl settled.1
  | .array (_ :: _), settled => by
      rw [A2A.filled, filledElements, Settled.filled settled.2.1, Bool.true_or]
  | .object [], settled => absurd rfl settled.1
  | .object ((_, _) :: _), settled => by
      rw [A2A.filled, filledMembers, Settled.filled settled.2.2.2.1, Bool.true_or]

/-- A settled value has a leaf. -/
theorem Settled.leaf : ∀ {value : JsonValue}, Settled value → ∃ path leaf, leafAt path value = some leaf
  | .null, settled => settled.elim
  | .bool value, _ => ⟨[], .bool value, rfl⟩
  | .number value, _ => ⟨[], .number value, rfl⟩
  | .string value, settled => ⟨[], .string value, if_neg settled⟩
  | .array [], settled => absurd rfl settled.1
  | .array (first :: rest), settled => by
      obtain ⟨path, leaf, found⟩ := Settled.leaf settled.2.1
      refine ⟨.position 0 :: path, leaf, ?_⟩
      rw [leafAt, List.filter_cons_of_pos settled.2.1.filled]
      exact found
  | .object [], settled => absurd rfl settled.1
  | .object ((key, first) :: rest), settled => by
      obtain ⟨path, leaf, found⟩ := Settled.leaf settled.2.2.2.1
      refine ⟨.key key :: path, leaf, ?_⟩
      rw [leafAt, OrderedMap.lookup, if_pos rfl]
      exact found

/-- No other settled value has the same leaves. -/
def Determined (value : JsonValue) : Prop :=
  ∀ other, Settled other → (∀ path, leafAt path value = leafAt path other) → value = other

theorem found_ext {found founds : Option JsonValue} (settled : ∀ value ∈ found, Settled value)
    (settles : ∀ value ∈ founds, Settled value) (each : ∀ value ∈ found, Determined value)
    (same : ∀ path, found.bind (leafAt path) = founds.bind (leafAt path)) : found = founds := by
  cases found with
  | none =>
      cases founds with
      | none => rfl
      | some other =>
          obtain ⟨path, leaf, reached⟩ := (settles other rfl).leaf
          have missing := (same path).symm.trans rfl
          rw [Option.bind_some, reached] at missing
          cases missing
  | some value =>
      cases founds with
      | none =>
          obtain ⟨path, leaf, reached⟩ := (settled value rfl).leaf
          have missing := same path
          rw [Option.bind_some, reached] at missing
          cases missing
      | some other => rw [each value rfl other (settles other rfl) same]

theorem filter_settled {values : List JsonValue} (settled : SettledElements values) :
    values.filter filled = values :=
  List.filter_eq_self.mpr fun value member => (settledElements_iff.mp settled value member).filled

theorem array_determined {values : List JsonValue} (settled : Settled (.array values))
    (each : ∀ value ∈ values, Determined value) : Determined (.array values) := by
  intro other settles same
  cases other with
  | array others =>
      have elements : ∀ index : Nat, values[index]? = others[index]? := by
        intro index
        refine found_ext (fun value found => ?_) (fun value found => ?_) (fun value found => ?_)
          (fun path => ?_)
        · exact settledElements_iff.mp settled.2 value (List.mem_of_getElem? found)
        · exact settledElements_iff.mp settles.2 value (List.mem_of_getElem? found)
        · exact each value (List.mem_of_getElem? found)
        · have below := same (.position index :: path)
          rwa [leafAt, leafAt, filter_settled settled.2, filter_settled settles.2] at below
      rw [List.ext_getElem? elements]
  | null => exact settles.elim
  | bool value | number value => cases same []
  | string value => exact absurd ((same []).trans (if_neg settles)) (by simp [leafAt])
  | object fields =>
      obtain ⟨path, leaf, reached⟩ := settles.leaf
      have there := (same path).trans reached
      cases path with
      | nil => cases there
      | cons step path =>
          cases step with
          | key name => cases there
          | position index => cases reached

theorem object_determined {fields : List (String × JsonValue)} (settled : Settled (.object fields))
    (each : ∀ member ∈ fields, Determined member.2) : Determined (.object fields) := by
  intro other settles same
  cases other with
  | object others =>
      have members : ∀ key, OrderedMap.lookup fields key = OrderedMap.lookup others key := by
        intro key
        refine found_ext (fun value found => ?_) (fun value found => ?_) (fun value found => ?_)
          (fun path => same (.key key :: path))
        · exact settledMembers_iff.mp settled.2.2.2 _
            ((OrderedMap.lookup_eq_some_iff settled.2.1).mp found)
        · exact settledMembers_iff.mp settles.2.2.2 _
            ((OrderedMap.lookup_eq_some_iff settles.2.1).mp found)
        · exact each _ ((OrderedMap.lookup_eq_some_iff settled.2.1).mp found)
      rw [sorted_ext settled.2.2.1 settles.2.2.1 settled.2.1 settles.2.1 members]
  | null => exact settles.elim
  | bool value | number value => cases same []
  | string value => exact absurd ((same []).trans (if_neg settles)) (by simp [leafAt])
  | array values =>
      obtain ⟨path, leaf, reached⟩ := settles.leaf
      have there := (same path).trans reached
      cases path with
      | nil => cases there
      | cons step path =>
          cases step with
          | key name => cases reached
          | position index => cases there

theorem scalar_determined {value : JsonValue} (leaf : leafAt [] value = some value) :
    Determined value := by
  intro other settles same
  have found := (same []).symm.trans leaf
  cases other with
  | null => exact settles.elim
  | bool other | number other => cases found; rfl
  | string other =>
      rw [leafAt, if_neg settles] at found
      exact (Option.some.inj found).symm
  | array values | object fields => cases found

mutual

theorem Settled.determined : ∀ value, Settled value → Determined value
  | .null, settled => settled.elim
  | .bool _, _ => scalar_determined rfl
  | .number _, _ => scalar_determined rfl
  | .string _, settled => scalar_determined (if_neg settled)
  | .array values, settled => array_determined settled (settledElements_determined values settled.2)
  | .object fields, settled =>
      object_determined settled (settledMembers_determined fields settled.2.2.2)

theorem settledElements_determined : ∀ values, SettledElements values →
    ∀ value ∈ values, Determined value
  | [], _ => fun _ absent => absurd absent List.not_mem_nil
  | value :: rest, settled =>
      List.forall_mem_cons.mpr ⟨Settled.determined value settled.1,
        settledElements_determined rest settled.2⟩

theorem settledMembers_determined : ∀ fields, SettledMembers fields →
    ∀ member ∈ fields, Determined member.2
  | [], _ => fun _ absent => absurd absent List.not_mem_nil
  | (_, value) :: rest, settled =>
      List.forall_mem_cons.mpr ⟨Settled.determined value settled.1,
        settledMembers_determined rest settled.2⟩

end

end Settled

namespace Signature

section Cards

variable {Body PrivateKey PublicKey : Type} {format : NumberFormat} {codec : CardCodec Body}
  {jose : Jose PrivateKey PublicKey} {publicKey : PrivateKey → PublicKey}

/-- No key of the card's JSON is the one that an assignment to an object loses. -/
def ProtoFree (codec : CardCodec Body) (card : AgentCard Body) : Prop :=
  (codec.unsignedJSON card).EveryObject (fun keys => "__proto__" ∉ keys)

/-- The canonical form is the text of the cleaned card, with its members in order. -/
theorem canonicalizeAgentCard_eq (card : AgentCard Body) :
    canonicalizeAgentCard format codec card = Json.stringify format
      (ordered ((cleanEmpty (codec.unsignedJSON card)).getD (.object []))) := by
  unfold canonicalizeAgentCard
  cases cleanEmpty (codec.unsignedJSON card) with
  | none => simp [ordered, orderedMembers, sortMembers, Json.stringify, Json.stringifyMembers]
  | some cleaned => exact jcsStringify_eq format cleaned

/-- A card's leaves can be read off its canonical form. -/
theorem leafAt_canonical {card : AgentCard Body} (free : ProtoFree codec card)
    (path : List JsonStep) :
    leafAt path (ordered ((cleanEmpty (codec.unsignedJSON card)).getD (.object []))) =
      leafAt path (codec.unsignedJSON card) := by
  have distinct : (codec.unsignedJSON card).EveryObject List.Nodup := codec.distinct card
  have kept := leafAt_cleanEmpty path (distinct.and free)
  cases cleans : cleanEmpty (codec.unsignedJSON card) with
  | none =>
      rw [← kept, cleans]
      cases path with
      | nil => rfl
      | cons step path => cases step <;> simp [ordered, orderedMembers, sortMembers, leafAt, OrderedMap.lookup]
  | some cleaned =>
      rw [← kept, cleans]
      exact leafAt_ordered path (distinct_rule.cleaned _ distinct _ cleans)

/-- What a card without leaves leaves of itself. -/
theorem leafAt_blank (path : List JsonStep) : leafAt path (ordered (.object [])) = none := by
  cases path with
  | nil => rfl
  | cons step path =>
      cases step <;> simp [ordered, orderedMembers, sortMembers, leafAt, OrderedMap.lookup]

/-- Two cards have one canonical form exactly when their leaves are the same. -/
theorem canonicalizeAgentCard_eq_iff {card other : AgentCard Body} (free : ProtoFree codec card)
    (frees : ProtoFree codec other) :
    canonicalizeAgentCard format codec card = canonicalizeAgentCard format codec other ↔
      ∀ path, leafAt path (codec.unsignedJSON card) = leafAt path (codec.unsignedJSON other) := by
  have settled : ∀ (card : AgentCard Body) cleaned, cleanEmpty (codec.unsignedJSON card) = some cleaned →
      Settled (ordered cleaned) := fun card cleaned cleans =>
    settled_rule.cleaned _ (codec.distinct card) cleaned cleans
  rw [canonicalizeAgentCard_eq, canonicalizeAgentCard_eq, (Json.stringify_injective format).eq_iff]
  refine ⟨fun same path => by rw [← leafAt_canonical free, ← leafAt_canonical frees, same],
    fun same => ?_⟩
  have leaves : ∀ path, leafAt path (ordered ((cleanEmpty (codec.unsignedJSON card)).getD (.object []))) =
      leafAt path (ordered ((cleanEmpty (codec.unsignedJSON other)).getD (.object []))) := by
    intro path
    rw [leafAt_canonical free, leafAt_canonical frees, same path]
  cases cleans : cleanEmpty (codec.unsignedJSON card) with
  | none =>
      cases others : cleanEmpty (codec.unsignedJSON other) with
      | none => rfl
      | some cleaned =>
          obtain ⟨path, leaf, reached⟩ := (settled other cleaned others).leaf
          have missing := leaves path
          rw [cleans, others, Option.getD_none, leafAt_blank, Option.getD_some, reached] at missing
          cases missing
  | some cleaned =>
      cases others : cleanEmpty (codec.unsignedJSON other) with
      | none =>
          obtain ⟨path, leaf, reached⟩ := (settled card cleaned cleans).leaf
          have missing := leaves path
          rw [cleans, others, Option.getD_none, leafAt_blank, Option.getD_some, reached] at missing
          cases missing
      | some kept =>
          rw [cleans, others] at leaves
          exact (settled card cleaned cleans).determined _ _ (settled other kept others) leaves

/-- A canonical form covers the leaves of its card, and nothing else; a signature made
for one card is valid for another only where the leaves of both are the same. -/
theorem canonicalizeAgentCard_covers {card other : AgentCard Body} (free : ProtoFree codec card)
    (frees : ProtoFree codec other) :
    (canonicalizeAgentCard format codec card = canonicalizeAgentCard format codec other ↔
      ∀ path, leafAt path (codec.unsignedJSON card) = leafAt path (codec.unsignedJSON other)) ∧
    ∀ (jose : Jose PrivateKey PublicKey) (publicKey : PrivateKey → PublicKey),
      jose.Lawful publicKey → ∀ signer entry, Made format codec jose card signer entry →
        EntryValid format codec jose other (publicKey signer.privateKey) entry →
          ∀ path, leafAt path (codec.unsignedJSON card) = leafAt path (codec.unsignedJSON other) := by
  refine ⟨canonicalizeAgentCard_eq_iff free frees, ?_⟩
  intro jose publicKey lawful signer entry made valid
  have same := ((made.valid_iff lawful other).mp valid).2
  exact (canonicalizeAgentCard_eq_iff free frees).mp same.symm

end Cards

section Samples

/-- A card that requires the scheme without scopes, and one that requires nothing. -/
def requiringCard : AgentCard JsonCard where
  body := ⟨[("name", .string "Agent"),
      ("securityRequirements", .array [.object [("schemes", .object [("oauth", .object [])])]])],
    by simp [JsonValue.EveryObject, JsonValue.EveryMember, JsonValue.EveryElement], by decide⟩
  signatures := []

def openCard : AgentCard JsonCard where
  body := ⟨[("name", .string "Agent")], by simp [JsonValue.EveryObject, JsonValue.EveryMember], by decide⟩
  signatures := []

theorem ProtoFree.of_openCard : ProtoFree jsonCodec openCard := by
  simp [ProtoFree, CardCodec.unsignedJSON, jsonCodec, JsonCard.remove_normalized, openCard,
    JsonValue.EveryObject, JsonValue.EveryMember]

theorem ProtoFree.of_sampleCard : ProtoFree jsonCodec sampleCard := by
  simp [ProtoFree, CardCodec.unsignedJSON, jsonCodec, JsonCard.remove_normalized, sampleCard,
    JsonValue.EveryObject, JsonValue.EveryMember, JsonValue.EveryElement]

/-- The cards differ in what they require, and have one canonical form. -/
theorem canonicalizeAgentCard_merges :
    jsonCodec.unsignedJSON requiringCard ≠ jsonCodec.unsignedJSON openCard ∧
      canonicalizeAgentCard decimalFormat jsonCodec requiringCard =
        canonicalizeAgentCard decimalFormat jsonCodec openCard := by
  refine ⟨fun same => ?_, rfl⟩
  simp [CardCodec.unsignedJSON, jsonCodec, JsonCard.remove_normalized, requiringCard, openCard] at same

/-- A skill's tag more is a canonical form more. -/
theorem canonicalizeAgentCard_covers_skill :
    canonicalizeAgentCard decimalFormat jsonCodec sampleCard ≠
      canonicalizeAgentCard decimalFormat jsonCodec openCard := by
  have covered := @canonicalizeAgentCard_covers JsonCard String String decimalFormat jsonCodec _ _
    ProtoFree.of_sampleCard ProtoFree.of_openCard
  intro same
  have leaf := covered.1.mp same [.key "skills", .position 0]
  cases leaf

end Samples

end Signature

end A2A
