import A2A.Compat.Cards

namespace A2A.Compat

open Library

/-! What is left of an agent card that goes to v0.3 and comes back, and which cards come back at all. -/

@[simp] theorem toCoreAgentExtension_toCompat (core : Card.AgentExtension) :
    toCoreAgentExtension (toCompatAgentExtension core) = core := by
  simp [toCoreAgentExtension, toCompatAgentExtension]

@[simp] theorem toCoreSecurityRequirement_toCompat (core : Card.SecurityRequirement) :
    toCoreSecurityRequirement (toCompatSecurityRequirement core) = core :=
  congrArg Card.SecurityRequirement.mk (core.schemes.mapValues_mapValues fun _ => rfl)

theorem toCoreAgentSkill_toCompat {core : Card.AgentSkill} {compat : Legacy.AgentSkill}
    (written : toCompatAgentSkill core = .ok compat) : toCoreAgentSkill compat = .ok core := by
  cases core with
  | mk id name description tags examples inputModes outputModes securityRequirements =>
      cases tags with
      | none => cases written
      | some tags =>
          cases written
          simp [toCoreAgentSkill, requireArray, bind, Except.bind, pure, Except.pure, Function.comp_def]

/-- An OAuth2 scheme declares a flow, and one that v0.3 has; every other scheme is fine. -/
def ReadableScheme (core : Card.SecurityScheme) : Prop :=
  ∀ scheme flows, core.scheme = some (.oauth2SecurityScheme scheme) → scheme.flows = some flows →
    ∃ flow, flows.flow = some flow ∧ ∀ deviceCode, flow ≠ .deviceCode deviceCode

/-- The flows of v0.3 are read back where one of them was written. -/
theorem toCoreOAuthFlows_toCompat_iff (core : Card.OAuthFlows) :
    (∃ read, toCoreOAuthFlows (toCompatOAuthFlows core) = .ok read) ↔
      ∃ flow, core.flow = some flow ∧ ∀ deviceCode, flow ≠ .deviceCode deviceCode := by
  rcases core with ⟨_ | flow⟩
  · simp [toCompatOAuthFlows, toCoreOAuthFlows]
  · cases flow <;> simp [toCompatOAuthFlows, toCoreOAuthFlows]

/-- And they are converted to protobuf in the same cases. -/
theorem oauthFlows_toCompat_iff (core : Card.OAuthFlows) :
    (∃ proto, ToProto.oauthFlows (toCompatOAuthFlows core) = .ok proto) ↔
      ∃ flow, core.flow = some flow ∧ ∀ deviceCode, flow ≠ .deviceCode deviceCode := by
  rcases core with ⟨_ | flow⟩
  · simp [toCompatOAuthFlows, ToProto.oauthFlows]
  · cases flow <;> simp [toCompatOAuthFlows, ToProto.oauthFlows]

/-- What becomes of a scheme that was translated: its flows decide where it has some. -/
theorem toCompatSecurityScheme_cases {core : Card.SecurityScheme} {compat : Legacy.SecurityScheme}
    (written : toCompatSecurityScheme core = .ok compat) :
    (∃ scheme flows, core.scheme = some (.oauth2SecurityScheme scheme) ∧ scheme.flows = some flows ∧
      compat = .oauth2 (toCompatOAuthFlows flows) (nonEmpty scheme.oauth2MetadataUrl)
        (nonEmpty scheme.description)) ∨
      (ReadableScheme core ∧ (∃ read, toCoreSecurityScheme compat = .ok read) ∧
        ∃ proto, ToProto.securityScheme compat = .ok proto) := by
  rcases core with ⟨_ | scheme⟩
  · cases written
  · cases scheme with
    | oauth2SecurityScheme scheme =>
        rcases scheme with ⟨description, _ | flows, metadataUrl⟩
        · cases written
        · cases written
          exact .inl ⟨_, flows, rfl, rfl, rfl⟩
    | apiKeySecurityScheme scheme | httpAuthSecurityScheme scheme | openIdConnectSecurityScheme scheme
    | mtlsSecurityScheme scheme =>
        cases written
        exact .inr ⟨fun _ _ oauth => by simp at oauth, ⟨_, rfl⟩, _, rfl⟩

theorem readableScheme_oauth2_iff {core : Card.SecurityScheme} {scheme : Card.OAuth2SecurityScheme}
    {flows : Card.OAuthFlows} (oauth : core.scheme = some (.oauth2SecurityScheme scheme))
    (declared : scheme.flows = some flows) :
    ReadableScheme core ↔ ∃ flow, flows.flow = some flow ∧ ∀ deviceCode, flow ≠ .deviceCode deviceCode := by
  constructor
  · exact fun readable => readable scheme flows oauth declared
  · intro flow scheme' flows' oauth' declared'
    rw [oauth] at oauth'
    cases oauth'
    rw [declared] at declared'
    cases declared'
    exact flow

theorem toCoreSecurityScheme_iff {core : Card.SecurityScheme} {compat : Legacy.SecurityScheme}
    (written : toCompatSecurityScheme core = .ok compat) :
    (∃ read, toCoreSecurityScheme compat = .ok read) ↔ ReadableScheme core := by
  rcases toCompatSecurityScheme_cases written with ⟨scheme, flows, oauth, declared, rfl⟩ | ⟨readable, reads, -⟩
  · rw [readableScheme_oauth2_iff oauth declared, ← toCoreOAuthFlows_toCompat_iff]
    simp only [toCoreSecurityScheme, bind_eq_ok]
    constructor
    · rintro ⟨_, read, through, -⟩
      exact ⟨read, through⟩
    · rintro ⟨read, through⟩
      exact ⟨_, read, through, rfl⟩
  · exact iff_of_true reads readable

theorem securityScheme_iff {core : Card.SecurityScheme} {compat : Legacy.SecurityScheme}
    (written : toCompatSecurityScheme core = .ok compat) :
    (∃ proto, ToProto.securityScheme compat = .ok proto) ↔ ReadableScheme core := by
  rcases toCompatSecurityScheme_cases written with ⟨scheme, flows, oauth, declared, rfl⟩ | ⟨readable, -, converts⟩
  · rw [readableScheme_oauth2_iff oauth declared, ← oauthFlows_toCompat_iff]
    simp only [ToProto.securityScheme, bind_eq_ok]
    constructor
    · rintro ⟨_, proto, through, -⟩
      exact ⟨proto, through⟩
    · rintro ⟨proto, through⟩
      exact ⟨_, proto, through, rfl⟩
  · exact iff_of_true converts readable

/-- What a v0.3 card holds of the card it was translated from. -/
structure Translated (core : Card.AgentCard) (compat : Legacy.AgentCard) : Prop where
  interfaces : ∃ primary additional, compatInterfaces core = primary :: additional ∧
    compat.url = primary.url ∧ compat.preferredTransport = some primary.protocolBinding ∧
    compat.additionalInterfaces.getD [] = additional.map toCompatAgentInterface
  capabilities : ∃ given, compat.capabilities = some given ∧
    given.streaming = core.capabilities.bind Card.AgentCapabilities.streaming ∧
    given.pushNotifications = core.capabilities.bind Card.AgentCapabilities.pushNotifications ∧
    (given.extensions.getD []).map toCoreAgentExtension =
      (core.capabilities.map Card.AgentCapabilities.extensions).getD []
  extended : compat.supportsAuthenticatedExtendedCard =
    core.capabilities.bind Card.AgentCapabilities.extendedAgentCard
  schemes : core.securitySchemes.traverse toCompatSecurityScheme = .ok (compat.securitySchemes.getD .empty)
  security : (compat.security.getD []).map toCoreSecurityRequirement = core.securityRequirements
  inputModes : ∃ modes, compat.defaultInputModes = some modes
  outputModes : ∃ modes, compat.defaultOutputModes = some modes
  skills : ∃ listed written, core.skills = some listed ∧ listed.mapM toCompatAgentSkill = .ok written ∧
    compat.skills = some written

/-- `requireArray` gives the list that is there. -/
theorem requireArray_eq_ok {α : Type} {value : Option (List α)} {path : String} {values : List α} :
    requireArray value path = .ok values ↔ value = some values := by
  cases value <;> simp [requireArray]

theorem getD_schemes {schemes : OrderedMap String Legacy.SecurityScheme} :
    (if schemes.entries.isEmpty then none else some schemes).getD .empty = schemes := by
  rcases schemes with ⟨_ | _, distinct⟩ <;> rfl

theorem toCompatAgentCard_translated {core : Card.AgentCard} {options : ToCompatAgentCardOptions}
    {compat : CompatAgentCardResult} (accepted : toCompatAgentCard core options = .ok compat) :
    Translated core compat.toAgentCard := by
  unfold toCompatAgentCard at accepted
  split at accepted
  · contradiction
  · rename_i primary additional interfaces
    simp only [bind_eq_ok, requireArray_eq_ok] at accepted
    obtain ⟨schemes, traversed, inputModes, inputs, outputModes, outputs, listed, skills, written,
      skillsWritten, same⟩ := accepted
    cases same
    refine ⟨⟨primary, additional, interfaces, rfl, rfl, getD_nonEmptyArray _⟩, ?_, rfl, ?_, ?_, ⟨_, rfl⟩,
      ⟨_, rfl⟩, listed, written, skills, skillsWritten, rfl⟩
    · cases core.capabilities with
      | none => exact ⟨_, rfl, rfl, rfl, rfl⟩
      | some given => exact ⟨_, rfl, rfl, rfl, by simp [toCompatAgentCapabilities, Function.comp_def]⟩
    · rw [getD_schemes, traversed]
    · simp [Function.comp_def]

/-- What a card that was read back has to share with the card it came from. -/
structure Recovered (core read : Card.AgentCard) : Prop where
  interfaces : read.supportedInterfaces.map (fun intf => (intf.url, intf.protocolBinding)) =
    (compatInterfaces core).map (fun intf => (intf.url, intf.protocolBinding))
  streaming : read.capabilities.bind Card.AgentCapabilities.streaming =
    core.capabilities.bind Card.AgentCapabilities.streaming
  pushNotifications : read.capabilities.bind Card.AgentCapabilities.pushNotifications =
    core.capabilities.bind Card.AgentCapabilities.pushNotifications
  extendedAgentCard : read.capabilities.bind Card.AgentCapabilities.extendedAgentCard =
    core.capabilities.bind Card.AgentCapabilities.extendedAgentCard
  extensions : (read.capabilities.map Card.AgentCapabilities.extensions).getD [] =
    (core.capabilities.map Card.AgentCapabilities.extensions).getD []
  skills : read.skills = core.skills
  securityRequirements : read.securityRequirements = core.securityRequirements
  schemeNames : read.securitySchemes.entries.map Prod.fst = core.securitySchemes.entries.map Prod.fst

/-- Both the translator back and the converter to protobuf take the card, and what the first
makes of it is the card that it came from. -/
def Consumable (core : Card.AgentCard) (compat : Legacy.AgentCard) : Prop :=
  (∃ read, toCoreAgentCard compat = .ok read ∧ Recovered core read) ∧
    ∃ proto, ToProto.agentCard compat = .ok proto

theorem toCoreAgentCard_iff {core : Card.AgentCard} {compat : Legacy.AgentCard}
    (translated : Translated core compat) :
    (∃ read, toCoreAgentCard compat = .ok read ∧ Recovered core read) ↔
      ∃ schemes, (compat.securitySchemes.getD .empty).traverse toCoreSecurityScheme = .ok schemes := by
  obtain ⟨given, givenThere, streaming, pushNotifications, extensions⟩ := translated.capabilities
  obtain ⟨inputModes, inputs⟩ := translated.inputModes
  obtain ⟨outputModes, outputs⟩ := translated.outputModes
  obtain ⟨listed, written, skills, skillsWritten, compatSkills⟩ := translated.skills
  obtain ⟨primary, additional, interfaces, url, binding, others⟩ := translated.interfaces
  constructor
  · rintro ⟨read, reads, -⟩
    simp only [toCoreAgentCard, bind_eq_ok] at reads
    obtain ⟨-, -, schemes, traversed, -⟩ := reads
    exact ⟨schemes, traversed⟩
  · rintro ⟨schemes, traversed⟩
    have skillsBack := mapM_returns (fun _ _ => toCoreAgentSkill_toCompat) skillsWritten
    refine ⟨_, by simp only [toCoreAgentCard, requireObject, requireArray, givenThere, traversed, inputs,
      outputs, compatSkills, bind, Except.bind, skillsBack]; rfl, ?_⟩
    constructor
    · simp [interfaces, url, binding, others, toCompatAgentInterface, toCoreAgentInterface, Function.comp_def]
    · exact streaming
    · exact pushNotifications
    · exact translated.extended
    · exact extensions
    · exact skills.symm
    · exact translated.security
    · exact (OrderedMap.keys_traverse traversed).trans (OrderedMap.keys_traverse translated.schemes)

theorem agentCard_iff {core : Card.AgentCard} {compat : Legacy.AgentCard}
    (translated : Translated core compat) :
    (∃ proto, ToProto.agentCard compat = .ok proto) ↔
      ∃ schemes, (compat.securitySchemes.getD .empty).traverse ToProto.securityScheme = .ok schemes := by
  obtain ⟨-, written, -, -, compatSkills⟩ := translated.skills
  simp only [ToProto.agentCard, bind_eq_ok, compatSkills, ToProto.skills]
  constructor
  · rintro ⟨proto, schemes, traversed, -⟩
    exact ⟨schemes, traversed⟩
  · rintro ⟨schemes, traversed⟩
    exact ⟨_, schemes, traversed, _, rfl, rfl⟩

/-- A translated card can be consumed if and only if every scheme of the card can be read. -/
theorem toCompatAgentCard_consumable_iff {core : Card.AgentCard} {options : ToCompatAgentCardOptions}
    {compat : CompatAgentCardResult} (accepted : toCompatAgentCard core options = .ok compat) :
    Consumable core compat.toAgentCard ↔ ∀ scheme ∈ core.securitySchemes.values, ReadableScheme scheme := by
  have translated := toCompatAgentCard_translated accepted
  have reads := OrderedMap.traverse_traverse_iff (fun _ _ => toCoreSecurityScheme_iff) translated.schemes
  have converts := OrderedMap.traverse_traverse_iff (fun _ _ => securityScheme_iff) translated.schemes
  rw [Consumable, toCoreAgentCard_iff translated, agentCard_iff translated, reads, converts, and_self]

/-- A card for v0.3 whose one OAuth2 scheme declares this flow. -/
def oauthCard (flow : Card.OAuthFlow) : Card.AgentCard :=
  { Card.AgentCard.ofInterfaces [⟨"https://agent.example", "JSONRPC", "", "0.3"⟩] with
    securitySchemes := OrderedMap.empty.set "oauth" ⟨some (.oauth2SecurityScheme ⟨"", some ⟨some flow⟩, ""⟩)⟩ }

theorem oauthCard_accepted (flow : Card.OAuthFlow) :
    ∃ compat, toCompatAgentCard (oauthCard flow) {} = .ok compat ∧
      compat.toAgentCard.securitySchemes =
        some (OrderedMap.empty.set "oauth" (.oauth2 (toCompatOAuthFlows ⟨some flow⟩) none none)) := by
  have interfaces : compatInterfaces (oauthCard flow) = [⟨"https://agent.example", "JSONRPC", "", "0.3"⟩] := by
    have all : List.filter (fun intf : Card.AgentInterface =>
        intf.protocolVersion = "" || isLegacyVersion intf.protocolVersion)
        [⟨"https://agent.example", "JSONRPC", "", "0.3"⟩] =
        [⟨"https://agent.example", "JSONRPC", "", "0.3"⟩] := by decide +kernel
    exact all
  simp only [toCompatAgentCard, interfaces]
  exact ⟨_, rfl, rfl⟩

/-- A scheme with a client credentials flow is read back. -/
theorem oauthCard_consumable :
    ∃ compat, toCompatAgentCard (oauthCard (.clientCredentials ⟨"https://token.example", "", .empty⟩)) {} =
        .ok compat ∧
      Consumable (oauthCard (.clientCredentials ⟨"https://token.example", "", .empty⟩)) compat.toAgentCard := by
  obtain ⟨compat, accepted, -⟩ := oauthCard_accepted (.clientCredentials ⟨"https://token.example", "", .empty⟩)
  refine ⟨compat, accepted, (toCompatAgentCard_consumable_iff accepted).mpr fun scheme member => ?_⟩
  rw [List.mem_singleton.mp member]
  refine (readableScheme_oauth2_iff rfl rfl).mpr ⟨_, rfl, ?_⟩
  intro deviceCode same
  cases same

/-- The only flow of a scheme is left out where it is a device code flow, and neither the
client nor the gRPC service can do anything with the card. -/
theorem oauthCard_unreadable :
    ∃ compat, toCompatAgentCard
        (oauthCard (.deviceCode ⟨"https://device.example", "https://token.example", "", .empty⟩)) {} = .ok compat ∧
      (¬ ∃ read, toCoreAgentCard compat.toAgentCard = .ok read) ∧
      (¬ ∃ proto, ToProto.agentCard compat.toAgentCard = .ok proto) := by
  obtain ⟨compat, accepted, schemes⟩ := oauthCard_accepted
    (.deviceCode ⟨"https://device.example", "https://token.example", "", .empty⟩)
  refine ⟨compat, accepted, ?_, ?_⟩
  · rintro ⟨read, reads⟩
    simp only [toCoreAgentCard, bind_eq_ok, schemes] at reads
    obtain ⟨-, -, read, traversed, -⟩ := reads
    obtain ⟨image, -, first, -⟩ :=
      OrderedMap.traverseEntries_cons_eq_ok.mp (OrderedMap.traverse_eq_ok_iff.mp traversed)
    cases first
  · rintro ⟨proto, converts⟩
    simp only [ToProto.agentCard, bind_eq_ok, schemes] at converts
    obtain ⟨converted, traversed, -⟩ := converts
    obtain ⟨image, -, first, -⟩ :=
      OrderedMap.traverseEntries_cons_eq_ok.mp (OrderedMap.traverse_eq_ok_iff.mp traversed)
    cases first

end A2A.Compat
