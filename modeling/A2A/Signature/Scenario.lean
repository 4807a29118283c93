import A2A.Json.Readable
import A2A.Signature.Base

namespace A2A.Signature

open Library

/-! A codec and a signature library to compute with. -/

section Codec

/-- The JSON of a card without signatures, where the generated codec gives it back as it is. -/
structure JsonCard where
  fields : List (String × JsonValue)
  distinct : (JsonValue.object fields).EveryObject List.Nodup
  unsigned : "signatures" ∉ fields.map Prod.fst

def AgentCardSignature.toJSON (entry : AgentCardSignature) : JsonValue :=
  .object ([("protected", .string entry.protectedHeader), ("signature", .string entry.signature)] ++
    (entry.header.map fun header => ("header", JsonValue.object header.entries)).toList)

def JsonCard.normalized (card : AgentCard JsonCard) : List (String × JsonValue) :=
  card.body.fields ++
    if card.signatures.isEmpty then []
    else [("signatures", .array (card.signatures.map AgentCardSignature.toJSON))]

theorem JsonCard.remove_normalized (card : AgentCard JsonCard) :
    OrderedMap.remove (JsonCard.normalized card) "signatures" = card.body.fields := by
  unfold JsonCard.normalized
  rw [OrderedMap.remove_append_of_not_mem card.body.unsigned]
  split <;> simp [OrderedMap.remove]

def jsonCodec : CardCodec JsonCard where
  normalized := JsonCard.normalized
  distinct card := by
    rw [JsonCard.remove_normalized]
    exact card.body.distinct
  unsigned body signatures others := by
    rw [JsonCard.remove_normalized, JsonCard.remove_normalized]

end Codec

section Library

def encodedHeader : Metadata :=
  ⟨[("alg", .string "HS256"), ("kid", .string "key-1"), ("typ", .string "JOSE")], by decide⟩

def unencodedHeader : Metadata :=
  ⟨[("alg", .string "HS256"), ("kid", .string "key-2"), ("typ", .string "JOSE"),
    ("crit", .array [.string "b64"]), ("b64", .bool false)], by decide⟩

def headerText (header : Metadata) : Text := Json.stringify decimalFormat (.object header.entries)

theorem headerText_injective : Function.Injective headerText := by
  intro header other same
  have objects := Json.stringify_injective decimalFormat same
  cases header
  cases other
  cases objects
  rfl

def readHeader (text : String) : Except String Metadata :=
  if text.toList = headerText encodedHeader then .ok encodedHeader
  else if text.toList = headerText unencodedHeader then .ok unencodedHeader
  else .error "Unexpected token"

/-- A library for the two headers, whose signatures show the key and the payload. -/
def plainJose : Jose String String where
  sign key protectedHeader header payload :=
    match readHeader (String.ofList (headerText protectedHeader)) with
    | .error failure => .error failure
    | .ok _ =>
        .ok ⟨[], String.ofList (headerText protectedHeader),
          String.ofList (key.toList ++ Base64.encodeUrl (signedPayload protectedHeader payload)), header⟩
  decodeProtectedHeader entry := readHeader entry.protectedHeader
  flattenedVerify jws key :=
    if jws.signature.toList = key.toList ++ Base64.encodeUrl (textEncoder jws.payload) then .ok ()
    else .error "signature verification failed"

theorem readHeader_eq {header found : Metadata}
    (read : readHeader (String.ofList (headerText header)) = .ok found) : found = header := by
  unfold readHeader at read
  rw [String.toList_ofList] at read
  split at read
  · rename_i same
    cases read
    exact (headerText_injective same).symm
  · split at read
    · rename_i same
      cases read
      exact (headerText_injective same).symm
    · cases read

theorem plainJose_lawful : plainJose.Lawful id where
  decode_sign := by
    intro key protectedHeader header payload jws signs
    cases read : readHeader (String.ofList (headerText protectedHeader)) with
    | error failure => simp [plainJose, read] at signs
    | ok found =>
        simp only [plainJose, read, Except.ok.injEq] at signs
        rw [← signs]
        exact read.trans (by rw [readHeader_eq read])
  verify_sign := by
    intro key protectedHeader header payload jws text signs
    cases read : readHeader (String.ofList (headerText protectedHeader)) with
    | error failure => simp [plainJose, read] at signs
    | ok found =>
        simp only [plainJose, read, Except.ok.injEq] at signs
        subst signs
        simp only [plainJose, String.toList_ofList, id_eq, List.append_cancel_left_eq,
          Base64.encodeUrl_injective.eq_iff]
        split
        · rename_i same
          simp [same]
        · rename_i differs
          simp [Ne.symm differs]

end Library

/-- A card with an entry that nobody can read. -/
def sampleCard : AgentCard JsonCard where
  body := ⟨[("name", .string "Agent"), ("skills", .array [.string "ask"])],
    by simp [JsonValue.EveryObject, JsonValue.EveryMember, JsonValue.EveryElement], by decide⟩
  signatures := [⟨"invalid_value", "invalid_value", none⟩]

end A2A.Signature
