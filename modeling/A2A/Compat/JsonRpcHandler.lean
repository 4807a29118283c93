import A2A.Compat.JsonRpc
import A2A.Server.Transports.Rest

namespace A2A.Compat

open Library Errors Server

/-! `jsonRpcHandler` with the layer for v0.3.

The name of the method decides which transport handler gets a request, and the
version header what its context says; neither looks at the other.
-/

section Methods

/-- The properties that every object of the language inherits, which `in` finds as well. -/
def inheritedNames : List String :=
  ["constructor", "__defineGetter__", "__defineSetter__", "hasOwnProperty", "__lookupGetter__",
    "__lookupSetter__", "isPrototypeOf", "propertyIsEnumerable", "toString", "valueOf", "__proto__",
    "toLocaleString"]

/-- `name in table` -/
def inTable (table : List (String × String)) (name : String) : Bool :=
  (table.map Prod.fst).contains name || inheritedNames.contains name

/-- `LEGACY_JSONRPC_TO_V1` -/
def legacyJsonRpcToV1 : List (String × String) := [
  ("message/send", "SendMessage"),
  ("message/stream", "SendStreamingMessage"),
  ("tasks/get", "GetTask"),
  ("tasks/cancel", "CancelTask"),
  ("tasks/resubscribe", "SubscribeToTask"),
  ("tasks/pushNotificationConfig/set", "CreateTaskPushNotificationConfig"),
  ("tasks/pushNotificationConfig/get", "GetTaskPushNotificationConfig"),
  ("tasks/pushNotificationConfig/list", "ListTaskPushNotificationConfigs"),
  ("tasks/pushNotificationConfig/delete", "DeleteTaskPushNotificationConfig"),
  ("agent/getAuthenticatedExtendedCard", "GetExtendedAgentCard")]

/-- `V1_TO_LEGACY_JSONRPC` -/
def v1ToLegacyJsonRpc : List (String × String) := legacyJsonRpcToV1.map Prod.swap

/-- `V1_METHODS_WITHOUT_LEGACY_EQUIVALENT` -/
def v1MethodsWithoutLegacyEquivalent : List String := ["ListTasks"]

def isLegacyJsonRpcMethod : Option JsonValue → Bool
  | some (.string method) => inTable legacyJsonRpcToV1 method
  | _ => false

def isV1JsonRpcMethod : Option JsonValue → Bool
  | some (.string method) =>
      inTable v1ToLegacyJsonRpc method || v1MethodsWithoutLegacyEquivalent.contains method
  | _ => false

/-- `typeof body === 'object' && body !== null` -/
def isObjectType : JsonValue → Bool
  | .object _ | .array _ => true
  | _ => false

def isLegacyRequest (body : JsonValue) : Bool :=
  isObjectType body && isLegacyJsonRpcMethod (field body "method")

def shouldUseLegacyFallback (body : JsonValue) : Bool :=
  isObjectType body && !isV1JsonRpcMethod (field body "method")

end Methods

/-- A request to the endpoint, as `express.json()` leaves it. -/
structure JsonRpcRequest where
  /-- `req.body`: an object or an array, or `null` where it is undefined. -/
  body : JsonValue
  /-- The `A2A-Version` header. -/
  requestedVersion : Option String
  /-- What `Extensions.parseServiceParameter` makes of the `A2A-Extensions` header, -/
  extensions : Extensions
  /-- and of the `X-A2A-Extensions` header, if there is one. -/
  legacyExtensions : Option Extensions
  headers : JsonValue

/-- What the endpoint consults besides the request: the two transports share the request handler,
and each reads the parameters in its own way. -/
structure JsonRpcServer (π ρ σ : Type) where
  userBuilder : JsonRpcRequest → Except Thrown (Option User)
  /-- `getSupportedVersions` of the card that `getAgentCard` returns, for JSON-RPC -/
  supportedVersions : Except Thrown (List String)
  requestHandler : RequestHandler Unit π ρ
  legacyFromJSON : HandlerMethod → Option JsonValue → Except Thrown π
  toCompat : HandlerMethod → ρ → Except Thrown σ

/-- What becomes of a request, with the transport handler that it is dispatched to. -/
inductive JsonRpcOutcome (π ρ σ : Type) where
  | thrown (thrown : Thrown)
  | current (dispatched : Dispatched Unit π ρ)
  | legacy (dispatched : Dispatched Unit π σ)

namespace JsonRpcOutcome

variable {π ρ σ : Type}

def isLegacy : JsonRpcOutcome π ρ σ → Bool
  | .legacy _ => true
  | _ => false

/-- The call of the request handler that was made. -/
def call : JsonRpcOutcome π ρ σ → Option (HandlerCall Unit π)
  | .thrown _ => none
  | .current dispatched => dispatched.call
  | .legacy dispatched => dispatched.call

end JsonRpcOutcome

variable {π ρ σ : Type}

namespace JsonRpcServer

/-- `validateVersion` for JSON-RPC -/
def validateVersion (server : JsonRpcServer π ρ σ) (requestedVersion : String) :
    Except Thrown Unit := do
  let supported ← server.supportedVersions
  if supported.contains requestedVersion then return ()
  else
    .error (raised .versionNotSupported ("The requested A2A protocol version '" ++ requestedVersion ++
      "' is not supported. Supported versions: " ++ ", ".intercalate supported))

/-- The context of a request, once its version is known to be supported. -/
def buildContext (server : JsonRpcServer π ρ σ) (useLegacy : Bool) (request : JsonRpcRequest) :
    Except Thrown (CallContext Unit) := do
  let user ← server.userBuilder request
  let extensions :=
    if useLegacy then request.legacyExtensions.getD request.extensions else request.extensions
  let context := CallContext.build (some extensions) user request.headers
    (orUndefined request.requestedVersion) none
  server.validateVersion context.requestedVersion
  return context

/-- The request handler, as `LegacyJsonRpcTransportHandler` calls it. -/
def legacyHandler (server : JsonRpcServer π ρ σ) : RequestHandler Unit π ρ :=
  { server.requestHandler with fromJSON := server.legacyFromJSON }

end JsonRpcServer

/-- `jsonRpcHandler` on a request, up to what the transport handler returns. -/
def jsonRpcHandler (server : JsonRpcServer π ρ σ) (legacyCompat : Bool) (request : JsonRpcRequest) :
    JsonRpcOutcome π ρ σ :=
  let useLegacy := legacyCompat && (isLegacyRequest request.body || shouldUseLegacyFallback request.body)
  match server.buildContext useLegacy request with
  | .error thrown => .thrown thrown
  | .ok context =>
      if useLegacy then
        .legacy (LegacyJsonRpc.handle server.legacyHandler server.toCompat (.value request.body) context)
      else .current (handle server.requestHandler (.value request.body) context)

end A2A.Compat
