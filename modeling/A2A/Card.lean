import A2A.Library.OrderedMap
import A2A.Types

namespace A2A.Card

open Library

/-! Agent cards as today's protocol declares them.

A required list that a translator checks before it reads it may be missing at run time and
is an `Option`; of the others, an absent list is an empty one, as in the other data types.
-/

structure AgentInterface where
  url : String
  protocolBinding : String
  tenant : String
  protocolVersion : String
deriving DecidableEq

structure AgentProvider where
  url : String
  organization : String

structure AgentExtension where
  uri : String
  description : String
  required : Bool
  params : Option Metadata

structure AgentCapabilities where
  streaming : Option Bool
  pushNotifications : Option Bool
  extensions : List AgentExtension
  extendedAgentCard : Option Bool

/-- `SecurityRequirement`. A scope list is wrapped as a `StringList`. -/
structure StringList where
  list : List String

structure SecurityRequirement where
  schemes : OrderedMap String StringList

structure AgentSkill where
  id : String
  name : String
  description : String
  tags : Option (List String)
  examples : List String
  inputModes : List String
  outputModes : List String
  securityRequirements : List SecurityRequirement

structure AgentCardSignature where
  protectedHeader : String
  signature : String
  header : Option Metadata

abbrev Scopes := OrderedMap String String

structure AuthorizationCodeOAuthFlow where
  authorizationUrl : String
  tokenUrl : String
  refreshUrl : String
  scopes : Scopes
  pkceRequired : Bool

structure ClientCredentialsOAuthFlow where
  tokenUrl : String
  refreshUrl : String
  scopes : Scopes

structure ImplicitOAuthFlow where
  authorizationUrl : String
  refreshUrl : String
  scopes : Scopes

structure PasswordOAuthFlow where
  tokenUrl : String
  refreshUrl : String
  scopes : Scopes

structure DeviceCodeOAuthFlow where
  deviceAuthorizationUrl : String
  tokenUrl : String
  refreshUrl : String
  scopes : Scopes

inductive OAuthFlow where
  | authorizationCode (value : AuthorizationCodeOAuthFlow)
  | clientCredentials (value : ClientCredentialsOAuthFlow)
  | implicit (value : ImplicitOAuthFlow)
  | password (value : PasswordOAuthFlow)
  | deviceCode (value : DeviceCodeOAuthFlow)

structure OAuthFlows where
  flow : Option OAuthFlow

structure APIKeySecurityScheme where
  description : String
  location : String
  name : String

structure HTTPAuthSecurityScheme where
  description : String
  scheme : String
  bearerFormat : String

structure OAuth2SecurityScheme where
  description : String
  flows : Option OAuthFlows
  oauth2MetadataUrl : String

structure OpenIdConnectSecurityScheme where
  description : String
  openIdConnectUrl : String

structure MutualTlsSecurityScheme where
  description : String

inductive SchemeCase where
  | apiKeySecurityScheme (value : APIKeySecurityScheme)
  | httpAuthSecurityScheme (value : HTTPAuthSecurityScheme)
  | oauth2SecurityScheme (value : OAuth2SecurityScheme)
  | openIdConnectSecurityScheme (value : OpenIdConnectSecurityScheme)
  | mtlsSecurityScheme (value : MutualTlsSecurityScheme)

structure SecurityScheme where
  scheme : Option SchemeCase

structure AgentCard where
  name : String
  description : String
  supportedInterfaces : List AgentInterface
  provider : Option AgentProvider
  version : String
  documentationUrl : Option String
  capabilities : Option AgentCapabilities
  securitySchemes : OrderedMap String SecurityScheme
  securityRequirements : List SecurityRequirement
  defaultInputModes : Option (List String)
  defaultOutputModes : Option (List String)
  skills : Option (List AgentSkill)
  signatures : List AgentCardSignature
  iconUrl : Option String

/-- A card with interfaces and nothing else. -/
def AgentCard.ofInterfaces (supportedInterfaces : List AgentInterface) : AgentCard where
  name := ""
  description := ""
  supportedInterfaces := supportedInterfaces
  provider := none
  version := ""
  documentationUrl := none
  capabilities := none
  securitySchemes := .empty
  securityRequirements := []
  defaultInputModes := some []
  defaultOutputModes := some []
  skills := some []
  signatures := []
  iconUrl := none

end A2A.Card
