import A2A.Signature.Scenario

namespace A2A.Signature

open Library

/-! Signers append: what the verifier makes of a card after any number of them. -/

section Encoding

theorem textEncoder_injective : Function.Injective textEncoder := by
  intro text other same
  have bytes : (String.ofList text).toByteArray = (String.ofList other).toByteArray :=
    ByteArray.ext (Array.toList_inj.mp same)
  exact String.ofList_inj.mp (String.toByteArray_inj.mp bytes)

end Encoding

section Cards

variable {Body PrivateKey PublicKey : Type} (format : NumberFormat) (codec : CardCodec Body)
  (jose : Jose PrivateKey PublicKey) {publicKey : PrivateKey → PublicKey}

/-- A card's canonical form is that of the card with any other signatures. -/
theorem canonicalizeAgentCard_signatures (card : AgentCard Body) (signatures : List AgentCardSignature) :
    canonicalizeAgentCard format codec { card with signatures } =
      canonicalizeAgentCard format codec card := by
  have unsigned := codec.unsigned card.body signatures card.signatures
  unfold canonicalizeAgentCard CardCodec.unsignedJSON
  rw [unsigned]

/-- The canonical form is an object's text. -/
theorem canonicalizeAgentCard_opens (card : AgentCard Body) :
    ∃ rest, canonicalizeAgentCard format codec card = '{' :: rest := by
  unfold canonicalizeAgentCard CardCodec.unsignedJSON
  rw [cleanEmpty]
  split
  · exact ⟨_, rfl⟩
  · rename_i cleaned cleans
    split at cleans
    · cases cleans
    · cases cleans
      exact ⟨_, by rw [jcsStringify]; rfl⟩

/-- A header that keeps the encoding signs what the verifier checks; another never does. -/
theorem signedPayload_iff (card other : AgentCard Body) (protectedHeader : Metadata) :
    textEncoder (Base64.encodeUrl (textEncoder (canonicalizeAgentCard format codec other))) =
        signedPayload protectedHeader (textEncoder (canonicalizeAgentCard format codec card)) ↔
      unencoded protectedHeader = false ∧
        canonicalizeAgentCard format codec other = canonicalizeAgentCard format codec card := by
  unfold signedPayload
  cases unencoded protectedHeader with
  | false =>
      simp only [Bool.false_eq_true, if_false, true_and]
      constructor
      · intro same
        exact textEncoder_injective (Base64.encodeUrl_injective (textEncoder_injective same))
      · intro same
        rw [same]
  | true =>
      simp only [if_true, Bool.true_eq_false, false_and, iff_false]
      intro same
      obtain ⟨rest, opens⟩ := canonicalizeAgentCard_opens format codec card
      have plain := Base64.encodeUrl_plain (textEncoder (canonicalizeAgentCard format codec other))
      rw [textEncoder_injective same, opens] at plain
      exact plain List.mem_cons_self

theorem exists_related {α β : Type} {related : α → β → Prop} {items : List α} {others : List β}
    (all : List.Forall₂ related items others) {item : α} (member : item ∈ items) :
    ∃ other ∈ others, related item other := by
  induction all with
  | nil => cases member
  | cons head tail ih =>
      rcases List.mem_cons.mp member with same | behind
      · exact ⟨_, List.mem_cons_self, same ▸ head⟩
      · obtain ⟨other, listed, found⟩ := ih behind
        exact ⟨other, List.mem_cons_of_mem _ listed, found⟩

/-- An entry is what a signer makes of a card's payload. -/
def Made (card : AgentCard Body) (signer : Signer PrivateKey) (entry : AgentCardSignature) : Prop :=
  ∃ jws, jose.sign signer.privateKey signer.protectedHeader signer.header
      (textEncoder (canonicalizeAgentCard format codec card)) = .ok jws ∧
    entry = ⟨jws.protectedHeader, jws.signature, jws.header⟩

/-- An entry is valid, under a key, for the payload that the verifier computes from a card. -/
def EntryValid (card : AgentCard Body) (key : PublicKey) (entry : AgentCardSignature) : Prop :=
  jose.flattenedVerify
    (entry.toJWS (Base64.encodeUrl (textEncoder (canonicalizeAgentCard format codec card)))) key = .ok ()

variable {format codec jose}

/-- What one signer does to a card. -/
theorem generateAgentCardSignature_cases {signer : Signer PrivateKey} {card signed : AgentCard Body}
    (ran : generateAgentCardSignature format codec jose signer card = .ok signed) :
    ∃ entry, Made format codec jose card signer entry ∧
      signed = { card with signatures := card.signatures ++ [entry] } := by
  simp only [generateAgentCardSignature] at ran
  cases made : jose.sign signer.privateKey signer.protectedHeader signer.header
      (textEncoder (canonicalizeAgentCard format codec card)) with
  | error failure =>
      rw [made] at ran
      cases ran
  | ok jws =>
      rw [made] at ran
      cases ran
      exact ⟨_, ⟨jws, made, rfl⟩, rfl⟩

/-- The entries of several signers stand behind the card's own, each made for the card's payload. -/
theorem applySigners_cases {signers : List (Signer PrivateKey)} {card signed : AgentCard Body}
    (ran : applySigners format codec jose signers card = .ok signed) :
    ∃ entries, signed = { card with signatures := card.signatures ++ entries } ∧
      List.Forall₂ (Made format codec jose card) signers entries := by
  induction signers generalizing card with
  | nil =>
      cases ran
      exact ⟨[], by rw [List.append_nil], .nil⟩
  | cons signer rest ih =>
      rw [applySigners] at ran
      cases first : generateAgentCardSignature format codec jose signer card with
      | error failure =>
          rw [first] at ran
          cases ran
      | ok next =>
          rw [first] at ran
          obtain ⟨entry, made, rfl⟩ := generateAgentCardSignature_cases first
          obtain ⟨entries, rfl, others⟩ := ih ran
          refine ⟨entry :: entries, by simp, .cons made (others.imp fun signer entry makes => ?_)⟩
          simpa only [Made, canonicalizeAgentCard_signatures] using makes

theorem Made.valid_iff {card : AgentCard Body} {signer : Signer PrivateKey}
    {entry : AgentCardSignature} (lawful : jose.Lawful publicKey)
    (made : Made format codec jose card signer entry) (other : AgentCard Body) :
    EntryValid format codec jose other (publicKey signer.privateKey) entry ↔
      unencoded signer.protectedHeader = false ∧
        canonicalizeAgentCard format codec other = canonicalizeAgentCard format codec card := by
  obtain ⟨jws, signs, rfl⟩ := made
  rw [← signedPayload_iff format codec card other]
  exact lawful.verify_sign _ signs

/-- The header parameters that the verifier asks for. -/
def Carries (protectedHeader : Metadata) : Prop :=
  truthy (protectedHeader.get? "alg") = true ∧ truthy (protectedHeader.get? "kid") = true ∧
    truthy (protectedHeader.get? "typ") = true

variable {retrievePublicKey : KeyResolver PublicKey}

/-- A resolver gives the key of a signer for the id and the URL in its header. -/
def Knows (publicKey : PrivateKey → PublicKey) (retrievePublicKey : KeyResolver PublicKey)
    (signer : Signer PrivateKey) : Prop :=
  retrievePublicKey (signer.protectedHeader.get? "kid") (signer.protectedHeader.get? "jku") =
    .ok (publicKey signer.privateKey)

/-- A known signer's entry is accepted where it is valid. -/
theorem Made.verifyEntry {card other : AgentCard Body} {signer : Signer PrivateKey}
    {entry : AgentCardSignature} (lawful : jose.Lawful publicKey)
    (made : Made format codec jose card signer entry) (carries : Carries signer.protectedHeader)
    (knows : Knows publicKey retrievePublicKey signer)
    (valid : EntryValid format codec jose other (publicKey signer.privateKey) entry) :
    verifyEntry jose retrievePublicKey
      (Base64.encodeUrl (textEncoder (canonicalizeAgentCard format codec other))) entry = .ok () := by
  obtain ⟨jws, signs, rfl⟩ := made
  have decoded := lawful.decode_sign signs
  obtain ⟨alg, kid, typ⟩ := carries
  simp only [Signature.verifyEntry, decoded, bind, Except.bind, alg, kid, typ, Bool.not_true,
    Bool.or_self, Bool.false_eq_true, if_false]
  rw [knows]
  exact valid

/-- The loop accepts as soon as one entry is accepted, and only then. -/
theorem verifyEntries_ok {encodedPayload : Text} {entries : List AgentCardSignature} :
    verifyEntries jose retrievePublicKey encodedPayload entries = .ok () ↔
      ∃ entry ∈ entries, verifyEntry jose retrievePublicKey encodedPayload entry = .ok () := by
  induction entries with
  | nil =>
      simp only [verifyEntries, List.not_mem_nil, false_and, exists_false, iff_false]
      intro accepted
      cases accepted
  | cons entry rest ih =>
      rw [verifyEntries]
      cases ended : Signature.verifyEntry jose retrievePublicKey encodedPayload entry with
      | ok accepted =>
          simp only [List.mem_cons, exists_eq_or_imp, ended]
          exact iff_of_true rfl (.inl trivial)
      | error failure => simp [ended, ih]

theorem verifyAgentCardSignature_ok {card : AgentCard Body} :
    verifyAgentCardSignature format codec jose retrievePublicKey card = .ok () ↔
      ∃ entry ∈ card.signatures, verifyEntry jose retrievePublicKey
        (Base64.encodeUrl (textEncoder (canonicalizeAgentCard format codec card))) entry = .ok () := by
  unfold verifyAgentCardSignature
  cases shape : card.signatures with
  | nil =>
      simp only [List.isEmpty_nil, if_true, List.not_mem_nil, false_and, exists_false, iff_false]
      intro accepted
      cases accepted
  | cons entry rest =>
      simp only [List.isEmpty_cons, Bool.false_eq_true, if_false]
      exact verifyEntries_ok

/-- What several signers in a row should leave of a card, for every resolver. -/
structure Composed (format : NumberFormat) (codec : CardCodec Body) (jose : Jose PrivateKey PublicKey)
    (publicKey : PrivateKey → PublicKey) (signers : List (Signer PrivateKey))
    (card signed : AgentCard Body) : Prop where
  /-- The card's own entries stay, and every signer has a valid one behind them. -/
  appended : ∃ entries, signed = { card with signatures := card.signatures ++ entries } ∧
    List.Forall₂ (fun signer entry =>
      EntryValid format codec jose signed (publicKey signer.privateKey) entry) signers entries
  accepted : ∀ retrievePublicKey, (∃ signer ∈ signers, Knows publicKey retrievePublicKey signer) →
    verifyAgentCardSignature format codec jose retrievePublicKey signed = .ok ()
  rejected : ∀ retrievePublicKey (other : AgentCard Body),
    (∀ entry ∈ other.signatures, verifyEntry jose retrievePublicKey
      (Base64.encodeUrl (textEncoder (canonicalizeAgentCard format codec other))) entry ≠ .ok ()) →
    ∃ message, verifyAgentCardSignature format codec jose retrievePublicKey other = .error message

theorem Composed.of_encoded {signers : List (Signer PrivateKey)} {card signed : AgentCard Body}
    (lawful : jose.Lawful publicKey) (carry : ∀ signer ∈ signers, Carries signer.protectedHeader)
    (ran : applySigners format codec jose signers card = .ok signed)
    (encoded : ∀ signer ∈ signers, unencoded signer.protectedHeader = false) :
    Composed format codec jose publicKey signers card signed := by
  obtain ⟨entries, rfl, made⟩ := applySigners_cases ran
  have same := canonicalizeAgentCard_signatures format codec card (card.signatures ++ entries)
  have valid : ∀ {signer entry}, signer ∈ signers → Made format codec jose card signer entry →
      EntryValid format codec jose { card with signatures := card.signatures ++ entries }
        (publicKey signer.privateKey) entry := fun member makes =>
    (makes.valid_iff lawful _).mpr ⟨encoded _ member, same⟩
  refine ⟨⟨entries, rfl, ?_⟩, ?_, ?_⟩
  · exact List.forall₂_iff_get.mpr ⟨made.length_eq, fun index bound bounds =>
      valid (List.get_mem _ _) (made.get bound bounds)⟩
  · rintro retrievePublicKey ⟨signer, member, knows⟩
    obtain ⟨entry, listed, makes⟩ := exists_related made member
    refine verifyAgentCardSignature_ok.mpr ⟨entry, List.mem_append_right _ listed, ?_⟩
    exact makes.verifyEntry lawful (carry signer member) knows (valid member makes)
  · intro retrievePublicKey other invalid
    cases ended : verifyAgentCardSignature format codec jose retrievePublicKey other with
    | error message => exact ⟨message, rfl⟩
    | ok accepted =>
        obtain ⟨entry, listed, accepts⟩ := verifyAgentCardSignature_ok.mp ended
        exact absurd accepts (invalid entry listed)

/-- Signers compose when, and only when, none of them takes its payload out of the encoding. -/
theorem applySigners_composed {signers : List (Signer PrivateKey)} {card signed : AgentCard Body}
    (lawful : jose.Lawful publicKey) (carry : ∀ signer ∈ signers, Carries signer.protectedHeader)
    (ran : applySigners format codec jose signers card = .ok signed) :
    Composed format codec jose publicKey signers card signed ↔
      ∀ signer ∈ signers, unencoded signer.protectedHeader = false := by
  refine ⟨fun composed signer member => ?_, Composed.of_encoded lawful carry ran⟩
  obtain ⟨entries, shape, made⟩ := applySigners_cases ran
  obtain ⟨others, shapes, valid⟩ := composed.appended
  have same : others = entries :=
    List.append_cancel_left (congrArg AgentCard.signatures (shapes.symm.trans shape))
  subst same
  have encoded := made.mp (fun signer entry makes accepts =>
    ((makes.valid_iff lawful signed).mp accepts).1) valid
  obtain ⟨entry, -, keeps⟩ := exists_related encoded member
  exact keeps

end Cards

section Samples

theorem Carries.of_encodedHeader : Carries encodedHeader := by
  unfold Carries
  decide

theorem Carries.of_unencodedHeader : Carries unencodedHeader := by
  unfold Carries
  decide

theorem applySigners_sample :
    ∃ signed, applySigners decimalFormat jsonCodec plainJose
        [⟨"first", encodedHeader, none⟩, ⟨"second", encodedHeader, none⟩] sampleCard = .ok signed ∧
      Composed decimalFormat jsonCodec plainJose id
        [⟨"first", encodedHeader, none⟩, ⟨"second", encodedHeader, none⟩] sampleCard signed := by
  refine ⟨_, rfl, (applySigners_composed plainJose_lawful ?_ rfl).mpr ?_⟩
  · simp [Carries.of_encodedHeader]
  · decide

/-- A signer that takes its payload out of the encoding leaves an entry which is not valid. -/
theorem applySigners_unencoded :
    ∃ signed, applySigners decimalFormat jsonCodec plainJose [⟨"first", unencodedHeader, none⟩]
        sampleCard = .ok signed ∧
      plainJose.Lawful id ∧ Carries unencodedHeader ∧
      ¬ Composed decimalFormat jsonCodec plainJose id [⟨"first", unencodedHeader, none⟩] sampleCard
        signed := by
  refine ⟨_, rfl, plainJose_lawful, .of_unencodedHeader, fun composed => ?_⟩
  obtain ⟨entries, shape, valid⟩ := composed.appended
  have same := List.append_cancel_left (congrArg AgentCard.signatures shape)
  subst same
  have made : Made decimalFormat jsonCodec plainJose sampleCard ⟨"first", unencodedHeader, none⟩ _ :=
    ⟨_, rfl, rfl⟩
  have encoded := ((made.valid_iff plainJose_lawful _).mp (List.forall₂_cons.mp valid).1).1
  exact absurd encoded (by decide)

end Samples

end A2A.Signature
