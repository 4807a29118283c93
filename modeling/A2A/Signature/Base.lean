import A2A.Json
import A2A.Library.Base64
import Mathlib.Data.List.Lex

namespace A2A

open Library

/-! Signed agent cards: the canonical form of a card, its signers and its verifier. -/

section CleanEmpty

mutual

/-- There is no value where the function returns `null`. -/
def cleanEmpty : JsonValue → Option JsonValue
  | .null => none
  | .bool value => some (.bool value)
  | .number value => some (.number value)
  | .string value => if value = "" then none else some (.string value)
  | .array values =>
      match cleanElements values with
      | [] => none
      | cleanedList => some (.array cleanedList)
  | .object fields =>
      match cleanMembers fields with
      | [] => none
      | cleanedDict => some (.object cleanedDict)

def cleanElements : List JsonValue → List JsonValue
  | [] => []
  | value :: rest =>
      match cleanEmpty value with
      | none => cleanElements rest
      | some cleanedValue => cleanedValue :: cleanElements rest

/-- An assignment to `cleanedDict['__proto__']` makes no member. -/
def cleanMembers : List (String × JsonValue) → List (String × JsonValue)
  | [] => []
  | (key, value) :: rest =>
      match cleanEmpty value with
      | none => cleanMembers rest
      | some cleanedValue =>
          if key = "__proto__" then cleanMembers rest else (key, cleanedValue) :: cleanMembers rest

end

end CleanEmpty

section JcsStringify

/-- The code units of a character in UTF-16. -/
def utf16 (char : Char) : List Nat :=
  if char.toNat < 0x10000 then [char.toNat]
  else [0xD800 + (char.toNat - 0x10000) / 0x400, 0xDC00 + (char.toNat - 0x10000) % 0x400]

/-- The order of `Array.prototype.sort` on texts. -/
def keyOrder (key other : String) : Bool :=
  decide (key.toList.flatMap utf16 ≤ other.toList.flatMap utf16)

def sortMembers (members : List (String × α)) : List (String × α) :=
  members.mergeSort (fun member other => keyOrder member.1 other.1)

variable (format : NumberFormat)

mutual

def jcsStringify : JsonValue → Text
  | .array values => '[' :: [','].intercalate (jcsElements values) ++ [']']
  | .object fields =>
      let parts := (sortMembers (jcsMembers fields)).map fun part => Json.quote part.1 ++ ':' :: part.2
      '{' :: [','].intercalate parts ++ ['}']
  | .null => Json.stringify format .null
  | .bool value => Json.stringify format (.bool value)
  | .number value => Json.stringify format (.number value)
  | .string value => Json.stringify format (.string value)

def jcsElements : List JsonValue → List Text
  | [] => []
  | value :: rest => jcsStringify value :: jcsElements rest

/-- Each key with the text of its value. -/
def jcsMembers : List (String × JsonValue) → List (String × Text)
  | [] => []
  | (key, value) :: rest => (key, jcsStringify value) :: jcsMembers rest

end

end JcsStringify

namespace Signature

/-- `protectedHeader` is the source's field `protected`. -/
structure AgentCardSignature where
  protectedHeader : String
  signature : String
  header : Option Metadata

/-- A card, its fields other than the signatures left to the codec. -/
structure AgentCard (Body : Type) where
  body : Body
  signatures : List AgentCardSignature

/-- `AgentCard.toJSON(AgentCard.fromJSON(card))` of the generated code: a JSON
object, whose members other than `signatures` come from the other fields. -/
structure CardCodec (Body : Type) where
  normalized : AgentCard Body → List (String × JsonValue)
  distinct : ∀ card, (JsonValue.object (OrderedMap.remove (normalized card) "signatures")).EveryObject
    List.Nodup
  unsigned : ∀ body signatures others,
    OrderedMap.remove (normalized ⟨body, signatures⟩) "signatures" =
      OrderedMap.remove (normalized ⟨body, others⟩) "signatures"

section Canonical

variable {Body : Type} (format : NumberFormat) (codec : CardCodec Body)

/-- The normalised JSON of a card without its signatures. -/
def CardCodec.unsignedJSON (card : AgentCard Body) : JsonValue :=
  .object (OrderedMap.remove (codec.normalized card) "signatures")

def canonicalizeAgentCard (card : AgentCard Body) : Text :=
  match cleanEmpty (codec.unsignedJSON card) with
  | none => ['{', '}']
  | some cleaned => jcsStringify format cleaned

end Canonical

structure FlattenedJWS where
  payload : Text
  protectedHeader : String
  signature : String
  header : Option Metadata

def AgentCardSignature.toJWS (entry : AgentCardSignature) (payload : Text) : FlattenedJWS :=
  ⟨payload, entry.protectedHeader, entry.signature, entry.header⟩

/-- The UTF-8 bytes of a text. -/
def textEncoder (text : Text) : List UInt8 := (String.ofList text).toByteArray.data.toList

/-- What this code uses of the `jose` library. -/
structure Jose (PrivateKey PublicKey : Type) where
  /-- `FlattenedSign` with its protected and unprotected header. -/
  sign : PrivateKey → Metadata → Option Metadata → List UInt8 → Except String FlattenedJWS
  decodeProtectedHeader : AgentCardSignature → Except String Metadata
  flattenedVerify : FlattenedJWS → PublicKey → Except String Unit

/-- Whether a protected header takes the payload out of its base64url encoding, with
the critical parameter `b64`. -/
def unencoded (protectedHeader : Metadata) : Bool :=
  match protectedHeader.get? "crit", protectedHeader.get? "b64" with
  | some (.array names), some (.bool false) =>
      names.any fun
        | .string name => name = "b64"
        | _ => false
  | _, _ => false

/-- The bytes that stand for the payload in what is signed. -/
def signedPayload (protectedHeader : Metadata) (payload : List UInt8) : List UInt8 :=
  if unencoded protectedHeader then payload else textEncoder (Base64.encodeUrl payload)

/-- The library as documented: a protected header is read back, and a signature is
valid under the signer's public key for the bytes that were signed and no others. -/
structure Jose.Lawful {PrivateKey PublicKey : Type} (jose : Jose PrivateKey PublicKey)
    (publicKey : PrivateKey → PublicKey) : Prop where
  decode_sign : ∀ {key protectedHeader header payload jws},
    jose.sign key protectedHeader header payload = .ok jws →
    jose.decodeProtectedHeader ⟨jws.protectedHeader, jws.signature, jws.header⟩ = .ok protectedHeader
  verify_sign : ∀ {key protectedHeader header payload jws} (text : Text),
    jose.sign key protectedHeader header payload = .ok jws →
    (jose.flattenedVerify { jws with payload := text } (publicKey key) = .ok () ↔
      textEncoder text = signedPayload protectedHeader payload)

/-- The arguments of one `generateAgentCardSignature`. -/
structure Signer (PrivateKey : Type) where
  privateKey : PrivateKey
  protectedHeader : Metadata
  header : Option Metadata

/-- What a condition makes of a value; an absent one counts as `undefined`. -/
def truthy : Option JsonValue → Bool
  | none | some .null => false
  | some (.bool value) => value
  | some (.number value) => value ≠ 0
  | some (.string value) => value ≠ ""
  | some (.array _) | some (.object _) => true

section Signing

variable {Body PrivateKey PublicKey : Type} (format : NumberFormat) (codec : CardCodec Body)
  (jose : Jose PrivateKey PublicKey)

def generateAgentCardSignature (signer : Signer PrivateKey) (agentCard : AgentCard Body) :
    Except String (AgentCard Body) := do
  let canonicalPayload := canonicalizeAgentCard format codec agentCard
  let jws ← jose.sign signer.privateKey signer.protectedHeader signer.header
    (textEncoder canonicalPayload)
  let agentCardSignature : AgentCardSignature := ⟨jws.protectedHeader, jws.signature, jws.header⟩
  return { agentCard with signatures := agentCard.signatures ++ [agentCardSignature] }

/-- The key behind a key id and a key set's URL, where the caller's resolver finds one. -/
abbrev KeyResolver (PublicKey : Type) :=
  Option JsonValue → Option JsonValue → Except String PublicKey

/-- One round of the verifier's loop, which goes on where this throws. -/
def verifyEntry (retrievePublicKey : KeyResolver PublicKey) (encodedPayload : Text)
    (signatureEntry : AgentCardSignature) : Except String Unit := do
  let protectedHeader ← jose.decodeProtectedHeader signatureEntry
  if !truthy (protectedHeader.get? "kid") || !truthy (protectedHeader.get? "typ") ||
      !truthy (protectedHeader.get? "alg") then
    throw "Missing required header parameters (kid, typ, alg)"
  let publicKey ← retrievePublicKey (protectedHeader.get? "kid") (protectedHeader.get? "jku")
  jose.flattenedVerify (signatureEntry.toJWS encodedPayload) publicKey

def verifyEntries (retrievePublicKey : KeyResolver PublicKey) (encodedPayload : Text) :
    List AgentCardSignature → Except String Unit
  | [] => throw "No valid signatures found on agent card."
  | signatureEntry :: rest =>
      match verifyEntry jose retrievePublicKey encodedPayload signatureEntry with
      | .ok () => return
      | .error _ => verifyEntries retrievePublicKey encodedPayload rest

def verifyAgentCardSignature (retrievePublicKey : KeyResolver PublicKey)
    (agentCard : AgentCard Body) : Except String Unit :=
  if agentCard.signatures.isEmpty then throw "No signatures found on agent card to verify."
  else
    let canonicalPayload := canonicalizeAgentCard format codec agentCard
    let payloadBytes := textEncoder canonicalPayload
    let encodedPayload := Base64.encodeUrl payloadBytes
    verifyEntries jose retrievePublicKey encodedPayload agentCard.signatures

/-- The signers applied one after the other. -/
def applySigners : List (Signer PrivateKey) → AgentCard Body → Except String (AgentCard Body)
  | [], agentCard => return agentCard
  | signer :: rest, agentCard => do
      let signed ← generateAgentCardSignature format codec jose signer agentCard
      applySigners rest signed

end Signing

end Signature

end A2A
