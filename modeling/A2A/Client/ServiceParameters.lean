import A2A.Compat.RestHandler

namespace A2A.Client

open Library

/-! The service parameters of a client's call, which its transport sends as headers. -/

abbrev ServiceParameters := OrderedMap String String

/-- `HTTP_EXTENSION_HEADER` -/
def httpExtensionHeader : String := "A2A-Extensions"

/-- `LEGACY_HTTP_EXTENSION_HEADER` -/
def legacyHttpExtensionHeader : String := "X-A2A-Extensions"

/-- `A2A_VERSION_HEADER` -/
def a2aVersionHeader : String := "A2A-Version"

/-- `toLowerCase` as far as the header names go: no character but their letters is lowered to one of them. -/
def toLowerCase (text : String) : List Char := text.toList.map Char.toLower

/-- `ServiceParameters.createFrom` -/
def createFrom (serviceParameters : Option ServiceParameters)
    (updates : List (ServiceParameters → ServiceParameters)) : ServiceParameters :=
  updates.foldl (fun result update => update result) (serviceParameters.getD .empty)

def withA2AVersion (version : String) (parameters : ServiceParameters) : ServiceParameters :=
  parameters.set a2aVersionHeader version

/-- The value that was seen for a header, and whether a key was spelled exactly like it. -/
structure Collected where
  value : Option String := none
  exactSeen : Bool := false
deriving DecidableEq

def Collected.see (collected : Collected) (header key : String) (value : Option String) : Collected :=
  if key = header then ⟨value, true⟩
  else if collected.exactSeen then collected
  else { collected with value }

/-- The variables of the loop over the keys. -/
structure NormalizedHeaders where
  serviceParameters : ServiceParameters
  canonical : Collected := {}
  aliased : Collected := {}

/-- One round of the loop, which takes the keys of both extensions headers out. -/
def NormalizedHeaders.round (canonical aliasHeader : String) (state : NormalizedHeaders) (key : String) :
    NormalizedHeaders :=
  let value := state.serviceParameters.get? key
  if toLowerCase key = toLowerCase canonical then
    { state with
      serviceParameters := state.serviceParameters.erase key
      canonical := state.canonical.see canonical key value }
  else if toLowerCase key = toLowerCase aliasHeader then
    { state with
      serviceParameters := state.serviceParameters.erase key
      aliased := state.aliased.see aliasHeader key value }
  else state

/-- The rebuilt entry behind the loop. -/
def NormalizedHeaders.rebuilt (canonical : String) (state : NormalizedHeaders) : ServiceParameters :=
  match state.canonical.value, state.aliased.value with
  | some canonicalValue, _ => state.serviceParameters.set canonical canonicalValue
  | none, some aliasValue => state.serviceParameters.set canonical aliasValue
  | none, none => state.serviceParameters

/-- The spelling of the extensions header that a protocol version has. -/
def canonicalHeader (protocolVersion : String) : String :=
  if Compat.isLegacyVersion protocolVersion then legacyHttpExtensionHeader else httpExtensionHeader

/-- The other spelling. -/
def aliasHeader (protocolVersion : String) : String :=
  if Compat.isLegacyVersion protocolVersion then httpExtensionHeader else legacyHttpExtensionHeader

/-- `Client.withNormalizedHeaders`, on the service parameters of the options. -/
def withNormalizedHeaders (protocolVersion : String) (given : Option ServiceParameters) : ServiceParameters :=
  let serviceParameters := createFrom given [withA2AVersion protocolVersion]
  let canonical := canonicalHeader protocolVersion
  let keys := serviceParameters.entries.map Prod.fst
  (keys.foldl (NormalizedHeaders.round canonical (aliasHeader protocolVersion))
    { serviceParameters }).rebuilt canonical

end A2A.Client
