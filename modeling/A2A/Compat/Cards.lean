import A2A.Card
import A2A.Library.Codec
import A2A.Compat.RestHandler
import A2A.Compat.Translate

namespace A2A.Compat

open Library

/-! The v0.3 agent card as its JSON schema declares it, and the translators between it and
today's card.
-/

/-- The errors that end a translation of a card. `typeError` is one of the language, for a
list that is missing. -/
inductive CardError where
  | versionNotSupported (message : String)
  | compat (error : CompatError)
  | typeError
deriving DecidableEq

def requireArray {α : Type} (value : Option (List α)) (path : String) : Except CardError (List α) :=
  match value with
  | some values => .ok values
  | none => .error (.compat (.invalidParams (path ++ " is required and must be an array")))

def requireObject {α : Type} (value : Option α) (path : String) : Except CardError α :=
  match value with
  | some object => .ok object
  | none => .error (.compat (.invalidParams (path ++ " is required")))

namespace Legacy

structure AgentInterface where
  url : String
  transport : String

structure AgentProvider where
  url : String
  organization : String

structure AgentExtension where
  uri : String
  description : Option String
  required : Option Bool
  params : Option Metadata

structure AgentCapabilities where
  streaming : Option Bool
  pushNotifications : Option Bool
  extensions : Option (List AgentExtension)

abbrev SecurityRequirement := OrderedMap String (List String)

structure AgentSkill where
  id : String
  name : String
  description : String
  tags : Option (List String)
  examples : Option (List String)
  inputModes : Option (List String)
  outputModes : Option (List String)
  security : Option (List SecurityRequirement)

structure AgentCardSignature where
  protectedHeader : String
  signature : String
  header : Option Metadata

structure AuthorizationCodeOAuthFlow where
  authorizationUrl : String
  tokenUrl : String
  refreshUrl : Option String
  scopes : Card.Scopes

structure ClientCredentialsOAuthFlow where
  tokenUrl : String
  refreshUrl : Option String
  scopes : Card.Scopes

structure ImplicitOAuthFlow where
  authorizationUrl : String
  refreshUrl : Option String
  scopes : Card.Scopes

structure PasswordOAuthFlow where
  tokenUrl : String
  refreshUrl : Option String
  scopes : Card.Scopes

/-- A scheme may declare any number of flows, none among them. -/
structure OAuthFlows where
  authorizationCode : Option AuthorizationCodeOAuthFlow := none
  clientCredentials : Option ClientCredentialsOAuthFlow := none
  implicit : Option ImplicitOAuthFlow := none
  password : Option PasswordOAuthFlow := none

inductive ApiKeyLocation where
  | cookie
  | header
  | query
deriving DecidableEq

def ApiKeyLocation.toString : ApiKeyLocation → String
  | cookie => "cookie"
  | header => "header"
  | query => "query"

/-- A security scheme, told apart by `type`. -/
inductive SecurityScheme where
  | apiKey (name : String) (location : ApiKeyLocation) (description : Option String)
  | http (scheme : String) (bearerFormat description : Option String)
  | oauth2 (flows : OAuthFlows) (oauth2MetadataUrl description : Option String)
  | openIdConnect (openIdConnectUrl : String) (description : Option String)
  | mutualTLS (description : Option String)
  | unsupported (type : String)

structure AgentCard where
  name : String
  description : String
  version : String
  url : String
  preferredTransport : Option String
  protocolVersion : String
  capabilities : Option AgentCapabilities
  defaultInputModes : Option (List String)
  defaultOutputModes : Option (List String)
  skills : Option (List AgentSkill)
  additionalInterfaces : Option (List AgentInterface)
  provider : Option AgentProvider
  documentationUrl : Option String
  iconUrl : Option String
  supportsAuthenticatedExtendedCard : Option Bool
  securitySchemes : Option (OrderedMap String SecurityScheme)
  security : Option (List SecurityRequirement)
  signatures : Option (List AgentCardSignature)

end Legacy

/-- `CompatAgentCardResult`: a v0.3 card that may carry today's interfaces along. -/
structure CompatAgentCardResult extends Legacy.AgentCard where
  supportedInterfaces : Option (List Card.AgentInterface)

/-! Security. -/

def toCoreSecurityRequirement (compat : Legacy.SecurityRequirement) : Card.SecurityRequirement :=
  ⟨compat.mapValues Card.StringList.mk⟩

def toCompatSecurityRequirement (core : Card.SecurityRequirement) : Legacy.SecurityRequirement :=
  core.schemes.mapValues Card.StringList.list

def toCoreOAuthFlows (compat : Legacy.OAuthFlows) : Except CardError Card.OAuthFlows :=
  match compat.authorizationCode, compat.clientCredentials, compat.implicit, compat.password with
  | some authCode, _, _, _ =>
      .ok ⟨some (.authorizationCode
        ⟨authCode.authorizationUrl, authCode.tokenUrl, authCode.refreshUrl.getD "", authCode.scopes, false⟩)⟩
  | none, some clientCreds, _, _ =>
      .ok ⟨some (.clientCredentials
        ⟨clientCreds.tokenUrl, clientCreds.refreshUrl.getD "", clientCreds.scopes⟩)⟩
  | none, none, some implicit, _ =>
      .ok ⟨some (.implicit ⟨implicit.authorizationUrl, implicit.refreshUrl.getD "", implicit.scopes⟩)⟩
  | none, none, none, some password =>
      .ok ⟨some (.password ⟨password.tokenUrl, password.refreshUrl.getD "", password.scopes⟩)⟩
  | none, none, none, none =>
      .error (.compat (.invalidParams "OAuthFlows must declare at least one flow"))

/-- v0.3 has no device code flow: it is left out, as is a flow that is missing. -/
def toCompatOAuthFlows (core : Card.OAuthFlows) : Legacy.OAuthFlows :=
  match core.flow with
  | none => {}
  | some (.authorizationCode v) =>
      { authorizationCode := some ⟨v.authorizationUrl, v.tokenUrl, nonEmpty v.refreshUrl, v.scopes⟩ }
  | some (.clientCredentials v) =>
      { clientCredentials := some ⟨v.tokenUrl, nonEmpty v.refreshUrl, v.scopes⟩ }
  | some (.implicit v) =>
      { implicit := some ⟨v.authorizationUrl, nonEmpty v.refreshUrl, v.scopes⟩ }
  | some (.password v) =>
      { password := some ⟨v.tokenUrl, nonEmpty v.refreshUrl, v.scopes⟩ }
  | some (.deviceCode _) => {}

def toCoreSecurityScheme : Legacy.SecurityScheme → Except CardError Card.SecurityScheme
  | .apiKey name location description =>
      .ok ⟨some (.apiKeySecurityScheme ⟨description.getD "", location.toString, name⟩)⟩
  | .http scheme bearerFormat description =>
      .ok ⟨some (.httpAuthSecurityScheme ⟨description.getD "", scheme, bearerFormat.getD ""⟩)⟩
  | .oauth2 flows oauth2MetadataUrl description => do
      let flows ← toCoreOAuthFlows flows
      return ⟨some (.oauth2SecurityScheme ⟨description.getD "", some flows, oauth2MetadataUrl.getD ""⟩)⟩
  | .openIdConnect openIdConnectUrl description =>
      .ok ⟨some (.openIdConnectSecurityScheme ⟨description.getD "", openIdConnectUrl⟩)⟩
  | .mutualTLS description => .ok ⟨some (.mtlsSecurityScheme ⟨description.getD ""⟩)⟩
  | .unsupported type =>
      .error (.compat (.invalidParams ("Unsupported v0.3 security scheme type: " ++ type)))

/-- The location of an API key, narrowed to the three that v0.3 has. -/
def compatLocation (location : String) : Legacy.ApiKeyLocation :=
  if location = "cookie" then .cookie else if location = "query" then .query else .header

def toCompatSecurityScheme (core : Card.SecurityScheme) : Except CardError Legacy.SecurityScheme :=
  match core.scheme with
  | none => .error (.compat (.invalidParams "Invalid v1.0 SecurityScheme: missing inner scheme"))
  | some (.apiKeySecurityScheme v) =>
      .ok (.apiKey v.name (compatLocation v.location) (nonEmpty v.description))
  | some (.httpAuthSecurityScheme v) =>
      .ok (.http v.scheme (nonEmpty v.bearerFormat) (nonEmpty v.description))
  | some (.mtlsSecurityScheme v) => .ok (.mutualTLS (nonEmpty v.description))
  | some (.oauth2SecurityScheme v) =>
      match v.flows with
      | none => .error (.compat (.invalidParams "OAuth2 security scheme missing flows"))
      | some flows =>
          .ok (.oauth2 (toCompatOAuthFlows flows) (nonEmpty v.oauth2MetadataUrl) (nonEmpty v.description))
  | some (.openIdConnectSecurityScheme v) =>
      .ok (.openIdConnect v.openIdConnectUrl (nonEmpty v.description))

/-! Cards. -/

def toCoreAgentInterface (compat : Legacy.AgentInterface) : Card.AgentInterface :=
  ⟨compat.url, compat.transport, "", "0.3"⟩

def toCompatAgentInterface (core : Card.AgentInterface) : Legacy.AgentInterface :=
  ⟨core.url, core.protocolBinding⟩

def toCoreAgentProvider (compat : Legacy.AgentProvider) : Card.AgentProvider :=
  ⟨compat.url, compat.organization⟩

def toCompatAgentProvider (core : Card.AgentProvider) : Legacy.AgentProvider :=
  ⟨core.url, core.organization⟩

def toCoreAgentExtension (compat : Legacy.AgentExtension) : Card.AgentExtension :=
  ⟨compat.uri, compat.description.getD "", compat.required.getD false, compat.params⟩

def toCompatAgentExtension (core : Card.AgentExtension) : Legacy.AgentExtension :=
  ⟨core.uri, nonEmpty core.description, some core.required, core.params⟩

def toCoreAgentCapabilities (compat : Legacy.AgentCapabilities) : Card.AgentCapabilities where
  streaming := compat.streaming
  pushNotifications := compat.pushNotifications
  extensions := (compat.extensions.getD []).map toCoreAgentExtension
  extendedAgentCard := none

def toCompatAgentCapabilities (core : Card.AgentCapabilities) : Legacy.AgentCapabilities where
  streaming := core.streaming
  pushNotifications := core.pushNotifications
  extensions := nonEmptyArray (core.extensions.map toCompatAgentExtension)

def toCoreAgentSkill (compat : Legacy.AgentSkill) : Except CardError Card.AgentSkill := do
  let tags ← requireArray compat.tags "skill.tags"
  return {
    id := compat.id
    name := compat.name
    description := compat.description
    tags := some tags
    examples := compat.examples.getD []
    inputModes := compat.inputModes.getD []
    outputModes := compat.outputModes.getD []
    securityRequirements := (compat.security.getD []).map toCoreSecurityRequirement }

def toCompatAgentSkill (core : Card.AgentSkill) : Except CardError Legacy.AgentSkill := do
  let tags ← requireArray core.tags "skill.tags"
  return {
    id := core.id
    name := core.name
    description := core.description
    tags := some tags
    examples := nonEmptyArray core.examples
    inputModes := nonEmptyArray core.inputModes
    outputModes := nonEmptyArray core.outputModes
    security := nonEmptyArray (core.securityRequirements.map toCompatSecurityRequirement) }

def toCoreAgentCardSignature (compat : Legacy.AgentCardSignature) : Card.AgentCardSignature :=
  ⟨compat.protectedHeader, compat.signature, compat.header⟩

def toCompatAgentCardSignature (core : Card.AgentCardSignature) : Legacy.AgentCardSignature :=
  ⟨core.protectedHeader, core.signature, core.header⟩

/-- The url of the card, its preferred transport and its version are the first interface. -/
def toCoreAgentCard (compat : Legacy.AgentCard) : Except CardError Card.AgentCard := do
  let primary : Card.AgentInterface := {
    url := compat.url
    protocolBinding := compat.preferredTransport.getD "JSONRPC"
    tenant := ""
    protocolVersion := if compat.protocolVersion = "" then "0.3" else compat.protocolVersion }
  let additional := (compat.additionalInterfaces.getD []).map toCoreAgentInterface
  let given ← requireObject compat.capabilities "agentCard.capabilities"
  let securitySchemes ← (compat.securitySchemes.getD .empty).traverse toCoreSecurityScheme
  let defaultInputModes ← requireArray compat.defaultInputModes "agentCard.defaultInputModes"
  let defaultOutputModes ← requireArray compat.defaultOutputModes "agentCard.defaultOutputModes"
  let listed ← requireArray compat.skills "agentCard.skills"
  let skills ← listed.mapM toCoreAgentSkill
  return {
    name := compat.name
    description := compat.description
    supportedInterfaces := primary :: additional
    provider := compat.provider.map toCoreAgentProvider
    version := compat.version
    capabilities := some { toCoreAgentCapabilities given with
      extendedAgentCard := compat.supportsAuthenticatedExtendedCard }
    securitySchemes
    securityRequirements := (compat.security.getD []).map toCoreSecurityRequirement
    defaultInputModes := some defaultInputModes
    defaultOutputModes := some defaultOutputModes
    skills := some skills
    signatures := (compat.signatures.getD []).map toCoreAgentCardSignature
    documentationUrl := compat.documentationUrl
    iconUrl := compat.iconUrl }

/-- The interfaces of the legacy range. -/
def compatInterfaces (core : Card.AgentCard) : List Card.AgentInterface :=
  core.supportedInterfaces.filter (fun intf => intf.protocolVersion = "" || isLegacyVersion intf.protocolVersion)

/-- `ToCompatAgentCardOptions` -/
structure ToCompatAgentCardOptions where
  embedV1Interfaces : Bool := false

def toCompatAgentCard (core : Card.AgentCard) (options : ToCompatAgentCardOptions) :
    Except CardError CompatAgentCardResult :=
  match compatInterfaces core with
  | [] =>
      .error (.versionNotSupported
        "AgentCard must have at least one interface with a protocol version in [0.3, 1.0).")
  | primary :: additional => do
      let securitySchemes ← core.securitySchemes.traverse toCompatSecurityScheme
      let defaultInputModes ← requireArray core.defaultInputModes "agentCard.defaultInputModes"
      let defaultOutputModes ← requireArray core.defaultOutputModes "agentCard.defaultOutputModes"
      let listed ← requireArray core.skills "agentCard.skills"
      let skills ← listed.mapM toCompatAgentSkill
      return {
        name := core.name
        description := core.description
        version := core.version
        url := primary.url
        preferredTransport := some primary.protocolBinding
        protocolVersion := if primary.protocolVersion = "" then "0.3" else primary.protocolVersion
        capabilities := some (match core.capabilities with
          | some capabilities => toCompatAgentCapabilities capabilities
          | none => ⟨none, none, none⟩)
        defaultInputModes := some defaultInputModes
        defaultOutputModes := some defaultOutputModes
        skills := some skills
        additionalInterfaces := nonEmptyArray (additional.map toCompatAgentInterface)
        provider := core.provider.map toCompatAgentProvider
        documentationUrl := core.documentationUrl.bind nonEmpty
        iconUrl := core.iconUrl.bind nonEmpty
        supportsAuthenticatedExtendedCard := core.capabilities.bind Card.AgentCapabilities.extendedAgentCard
        securitySchemes := if securitySchemes.entries.isEmpty then none else some securitySchemes
        security := nonEmptyArray (core.securityRequirements.map toCompatSecurityRequirement)
        signatures := nonEmptyArray (core.signatures.map toCompatAgentCardSignature)
        supportedInterfaces :=
          if options.embedV1Interfaces && !core.supportedInterfaces.isEmpty then some core.supportedInterfaces
          else none }

/-- A clone of the interface under another version. -/
def mirrored (intf : Card.AgentInterface) : Card.AgentInterface := { intf with protocolVersion := "0.3" }

/-- One round of the loop over `bindings`. -/
def addMirror (source result : List Card.AgentInterface) (binding : String) : List Card.AgentInterface :=
  let hasLegacy := source.any (fun intf =>
    intf.protocolBinding = binding && (intf.protocolVersion = "" || isLegacyVersion intf.protocolVersion))
  if hasLegacy then result
  else match source.find? (fun intf => intf.protocolBinding = binding) with
    | none => result
    | some template => result ++ [mirrored template]

def duplicateInterfacesForLegacy (interfaces : Option (List Card.AgentInterface)) (bindings : List String) :
    List Card.AgentInterface :=
  let source := interfaces.getD []
  bindings.foldl (addMirror source) source

/-! The protobuf messages of the v0.3 card; those left out have the fields of today's. -/

namespace Proto

structure AuthorizationCodeOAuthFlow where
  authorizationUrl : String
  tokenUrl : String
  refreshUrl : String
  scopes : Card.Scopes

inductive OAuthFlow where
  | authorizationCode (value : AuthorizationCodeOAuthFlow)
  | clientCredentials (value : Card.ClientCredentialsOAuthFlow)
  | implicit (value : Card.ImplicitOAuthFlow)
  | password (value : Card.PasswordOAuthFlow)

structure OAuthFlows where
  flow : Option OAuthFlow

structure OAuth2SecurityScheme where
  description : String
  flows : Option OAuthFlows
  oauth2MetadataUrl : String

inductive SchemeCase where
  | apiKeySecurityScheme (value : Card.APIKeySecurityScheme)
  | httpAuthSecurityScheme (value : Card.HTTPAuthSecurityScheme)
  | oauth2SecurityScheme (value : OAuth2SecurityScheme)
  | openIdConnectSecurityScheme (value : Card.OpenIdConnectSecurityScheme)
  | mtlsSecurityScheme (value : Card.MutualTlsSecurityScheme)

structure SecurityScheme where
  scheme : Option SchemeCase

structure AgentInterface where
  url : String
  transport : String

structure AgentCapabilities where
  streaming : Bool
  pushNotifications : Bool
  extensions : List Card.AgentExtension

structure AgentSkill where
  id : String
  name : String
  description : String
  tags : List String
  examples : List String
  inputModes : List String
  outputModes : List String
  security : List Card.SecurityRequirement

structure AgentCard where
  protocolVersion : String
  name : String
  description : String
  url : String
  preferredTransport : String
  additionalInterfaces : List AgentInterface
  provider : Option Card.AgentProvider
  version : String
  documentationUrl : String
  capabilities : AgentCapabilities
  securitySchemes : OrderedMap String SecurityScheme
  security : List Card.SecurityRequirement
  defaultInputModes : Option (List String)
  defaultOutputModes : Option (List String)
  skills : List AgentSkill
  supportsAuthenticatedExtendedCard : Bool
  signatures : List Card.AgentCardSignature

end Proto

namespace ToProto

def oauthFlows (flows : Legacy.OAuthFlows) : Except CardError Proto.OAuthFlows :=
  match flows.implicit, flows.password, flows.clientCredentials, flows.authorizationCode with
  | some implicit, _, _, _ =>
      .ok ⟨some (.implicit ⟨implicit.authorizationUrl, implicit.refreshUrl.getD "", implicit.scopes⟩)⟩
  | none, some password, _, _ =>
      .ok ⟨some (.password ⟨password.tokenUrl, password.refreshUrl.getD "", password.scopes⟩)⟩
  | none, none, some clientCreds, _ =>
      .ok ⟨some (.clientCredentials
        ⟨clientCreds.tokenUrl, clientCreds.refreshUrl.getD "", clientCreds.scopes⟩)⟩
  | none, none, none, some authCode =>
      .ok ⟨some (.authorizationCode
        ⟨authCode.authorizationUrl, authCode.tokenUrl, authCode.refreshUrl.getD "", authCode.scopes⟩)⟩
  | none, none, none, none => .error (.compat (.internalError "Unsupported OAuth flows"))

def securityScheme : Legacy.SecurityScheme → Except CardError Proto.SecurityScheme
  | .apiKey name location description =>
      .ok ⟨some (.apiKeySecurityScheme ⟨description.getD "", location.toString, name⟩)⟩
  | .http scheme bearerFormat description =>
      .ok ⟨some (.httpAuthSecurityScheme ⟨description.getD "", scheme, bearerFormat.getD ""⟩)⟩
  | .mutualTLS description => .ok ⟨some (.mtlsSecurityScheme ⟨description.getD ""⟩)⟩
  | .oauth2 flows oauth2MetadataUrl description => do
      let flows ← oauthFlows flows
      return ⟨some (.oauth2SecurityScheme ⟨description.getD "", some flows, oauth2MetadataUrl.getD ""⟩)⟩
  | .openIdConnect openIdConnectUrl description =>
      .ok ⟨some (.openIdConnectSecurityScheme ⟨description.getD "", openIdConnectUrl⟩)⟩
  | .unsupported _ => .error (.compat (.internalError "Unsupported security scheme type"))

def security (security : Legacy.SecurityRequirement) : Card.SecurityRequirement :=
  ⟨security.mapValues Card.StringList.mk⟩

def agentInterface (agentInterface : Legacy.AgentInterface) : Proto.AgentInterface :=
  ⟨agentInterface.url, agentInterface.transport⟩

def agentProvider (agentProvider : Legacy.AgentProvider) : Card.AgentProvider :=
  ⟨agentProvider.url, agentProvider.organization⟩

def agentExtension (extension : Legacy.AgentExtension) : Card.AgentExtension :=
  ⟨extension.uri, extension.description.getD "", extension.required.getD false, extension.params⟩

def agentCapabilities : Option Legacy.AgentCapabilities → Proto.AgentCapabilities
  | none => ⟨false, false, []⟩
  | some capabilities => {
      streaming := capabilities.streaming.getD false
      pushNotifications := capabilities.pushNotifications.getD false
      extensions := (capabilities.extensions.getD []).map agentExtension }

def agentSkill (skill : Legacy.AgentSkill) : Proto.AgentSkill where
  id := skill.id
  name := skill.name
  description := skill.description
  tags := skill.tags.getD []
  examples := skill.examples.getD []
  inputModes := skill.inputModes.getD []
  outputModes := skill.outputModes.getD []
  security := (skill.security.getD []).map security

def agentCardSignature (signature : Legacy.AgentCardSignature) : Card.AgentCardSignature :=
  ⟨signature.protectedHeader, signature.signature, signature.header⟩

/-- `agentCard.skills.map`, which reads a property of the list before it is there. -/
def skills : Option (List Legacy.AgentSkill) → Except CardError (List Proto.AgentSkill)
  | none => .error .typeError
  | some listed => .ok (listed.map agentSkill)

def agentCard (agentCard : Legacy.AgentCard) : Except CardError Proto.AgentCard := do
  let securitySchemes ← (agentCard.securitySchemes.getD .empty).traverse securityScheme
  let skills ← skills agentCard.skills
  return {
    protocolVersion := agentCard.protocolVersion
    name := agentCard.name
    description := agentCard.description
    url := agentCard.url
    preferredTransport := agentCard.preferredTransport.getD ""
    additionalInterfaces := (agentCard.additionalInterfaces.getD []).map agentInterface
    provider := agentCard.provider.map agentProvider
    version := agentCard.version
    documentationUrl := agentCard.documentationUrl.getD ""
    capabilities := agentCapabilities agentCard.capabilities
    securitySchemes
    security := (agentCard.security.getD []).map security
    defaultInputModes := agentCard.defaultInputModes
    defaultOutputModes := agentCard.defaultOutputModes
    skills
    supportsAuthenticatedExtendedCard := agentCard.supportsAuthenticatedExtendedCard.getD false
    signatures := (agentCard.signatures.getD []).map agentCardSignature }

end ToProto

end A2A.Compat
