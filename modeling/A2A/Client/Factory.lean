import A2A.Card
import A2A.Compat.RestHandler

namespace A2A.Client

open Library Card

/-! The client factory: which interface of a card it picks, and which transport it builds for it. -/

/-- `Transport`, as far as it says which protocol it speaks to which endpoint. -/
inductive Transport where
  | jsonRpc (endpoint : String)
  | legacyJsonRpc (endpoint : String)
  | rest (endpoint : String)
  | legacyRest (endpoint : String)
  | tenant (transport : Transport) (tenant : String)
deriving DecidableEq

/-- The registered factories, which differ in their protocol. The flag is `legacyCompat.enabled`. -/
inductive TransportFactory where
  | jsonRpc (legacyCompat : Bool)
  | rest (legacyCompat : Bool)
deriving DecidableEq

namespace TransportFactory

def protocolName : TransportFactory → String
  | jsonRpc _ => "JSONRPC"
  | rest _ => "HTTP+JSON"

def legacyCompat : TransportFactory → Bool
  | jsonRpc enabled | rest enabled => enabled

end TransportFactory

section

-- case conversion is left open: nothing depends on which strings it identifies
variable (toUpperCase : String → String)

def pickMatchingInterface (agentCard : Card.AgentCard) (protocolBinding url : String) : Option AgentInterface :=
  let target := toUpperCase protocolBinding
  let candidates := agentCard.supportedInterfaces.filter (fun i => toUpperCase i.protocolBinding = target)
  let byUrl := candidates.filter (fun i => i.url = url)
  let pool := if byUrl.isEmpty then candidates else byUrl
  match pool.find? (fun i => i.protocolVersion = "1.0") with
  | some current => some current
  | none => pool.head?

namespace TransportFactory

/-- `JsonRpcTransportFactory.create` and `RestTransportFactory.create` -/
def create (factory : TransportFactory) (url : String) (agentCard : Card.AgentCard) : Transport :=
  let legacy := factory.legacyCompat &&
    (pickMatchingInterface toUpperCase agentCard factory.protocolName url).any
      (fun iface => Compat.isLegacyVersion iface.protocolVersion)
  match factory with
  | jsonRpc _ => if legacy then .legacyJsonRpc url else .jsonRpc url
  | rest _ => if legacy then .legacyRest url else .rest url

end TransportFactory

/-- `CaseInsensitiveMap`: the keys are in upper case. -/
abbrev CaseInsensitiveMap := OrderedMap String

def CaseInsensitiveMap.get {α : Type} (map : CaseInsensitiveMap α) (key : String) : Option α :=
  map.get? (toUpperCase key)

def CaseInsensitiveMap.put {α : Type} (map : CaseInsensitiveMap α) (key : String) (value : α) :
    CaseInsensitiveMap α :=
  map.set (toUpperCase key) value

/-- `[...map.keys()].join()` -/
def CaseInsensitiveMap.joined {α : Type} (map : CaseInsensitiveMap α) : String :=
  String.intercalate "," (map.entries.map Prod.fst)

/-- The loop of `transportsByName`. -/
def registerAll (result : CaseInsensitiveMap TransportFactory) :
    List TransportFactory → Except String (CaseInsensitiveMap TransportFactory)
  | [] => .ok result
  | transport :: rest =>
      if (result.get toUpperCase transport.protocolName).isSome then
        .error ("Duplicate protocol name: " ++ transport.protocolName)
      else registerAll (result.put toUpperCase transport.protocolName transport) rest

def transportsByName (transports : List TransportFactory) :
    Except String (CaseInsensitiveMap TransportFactory) :=
  registerAll toUpperCase .empty transports

/-- `ClientFactoryOptions`, as far as the choice of the transport goes. -/
structure ClientFactoryOptions where
  transports : List TransportFactory
  preferredTransports : Option (List String)

structure ClientFactory where
  options : ClientFactoryOptions
  transportsByName : CaseInsensitiveMap TransportFactory

namespace ClientFactory

/-- The constructor. -/
def new (options : ClientFactoryOptions) : Except String ClientFactory :=
  if options.transports.isEmpty then .error "No transports provided"
  else do
    let transportsByName ← Client.transportsByName toUpperCase options.transports
    match (options.preferredTransports.getD []).find?
        (fun transport => (transportsByName.get toUpperCase transport).isNone) with
    | some transport =>
        .error ("Unknown preferred transport: " ++ transport ++ ", available transports: " ++
          transportsByName.joined)
    | none => .ok { options, transportsByName }

/-- One round of the loop over the interfaces of a card. -/
def keepBest (best : CaseInsensitiveMap AgentInterface) (agentInterface : AgentInterface) :
    CaseInsensitiveMap AgentInterface :=
  let existing := best.get toUpperCase agentInterface.protocolBinding
  if existing.isNone || agentInterface.protocolVersion = "1.0" then
    best.put toUpperCase agentInterface.protocolBinding agentInterface
  else best

def bestInterfacePerProtocol (interfaces : List AgentInterface) : CaseInsensitiveMap AgentInterface :=
  interfaces.foldl (keepBest toUpperCase) .empty

variable (factory : ClientFactory)

def transportsByPreference (interfaces : List AgentInterface) : List String :=
  factory.options.preferredTransports.getD [] ++ interfaces.map AgentInterface.protocolBinding

/-- The first binding that has a factory and an interface, with both. -/
def select (interfaces : List AgentInterface) : Option (TransportFactory × AgentInterface) :=
  (factory.transportsByPreference interfaces).findSome? fun transportName =>
    match factory.transportsByName.get toUpperCase transportName,
      (bestInterfacePerProtocol toUpperCase interfaces).get toUpperCase transportName with
    | some transport, some selectedInterface => some (transport, selectedInterface)
    | _, _ => none

/-- `ClientFactory.createFromNormalizedAgentCard`, as far as the transport of the client. -/
def createFromNormalizedAgentCard (agentCard : Card.AgentCard) : Except String Transport :=
  match factory.select toUpperCase agentCard.supportedInterfaces with
  | some (transportFactory, selectedInterface) =>
      let transport := transportFactory.create toUpperCase selectedInterface.url agentCard
      .ok (if selectedInterface.tenant = "" then transport else .tenant transport selectedInterface.tenant)
  | none =>
      .error ("No compatible transport found, available transports: " ++ factory.transportsByName.joined)

end ClientFactory

end

end A2A.Client
