import Mathlib.Algebra.Group.Int.Defs
import Mathlib.Data.List.DropRight
import A2A.Compat.JsonRpc
import A2A.Compat.PushNotifications
import A2A.Server.Transports.Rest

namespace A2A.Compat

open Library Router Errors Server

/-! `legacyRestRouter`, and `restHandler` with it at the top.

The version of a request decides whether the router for v0.3 looks at it; what it
has no route for goes on to the routes of today's protocol.
-/

section Versions

/-- `Number.isFinite(value)` for what `parseInt` gives: from the halfway mark on it rounds to
infinity. -/
def isFiniteInteger (value : Int) : Bool := value < 2 ^ 1024 - 2 ^ 970

def parseVersionPart (text : String) : Option Int :=
  (Decimal.parseInt text).filter (fun value => isFiniteInteger value && decide (0 ≤ value))

def trimmed (text : String) : List Char :=
  (text.toList.dropWhile Decimal.isWhiteSpace).rdropWhile Decimal.isWhiteSpace

def parseVersion (version : String) : Option (Int × Int) :=
  if trimmed version = [] then none
  else match (trimmed version).splitOn '.' with
    | [] => none
    | [major] => (parseVersionPart (String.ofList major)).map (·, 0)
    | major :: minor :: _ => do
        let major ← parseVersionPart (String.ofList major)
        let minor ← parseVersionPart (String.ofList minor)
        return (major, minor)

/-- Whether a version is in the range from 0.3 up to 1.0, or left open. -/
def isLegacyVersion (version : String) : Bool :=
  trimmed version = [] ||
    match parseVersion version with
    | none => false
    | some (major, minor) => major = 0 && decide (3 ≤ minor)

end Versions

namespace LegacyRest

def taskPath (verb : String) : List (Segment PathParam) :=
  [word "v1" "", word "tasks" "", parameter .taskId verb]

def configsPath : List (Segment PathParam) := taskPath "" ++ [word "pushNotificationConfigs" ""]

def configPath : List (Segment PathParam) := configsPath ++ [parameter .configId ""]

def routes : List RestRoute := [
  ⟨.get, [word "v1" "", word "card" ""], .getAuthenticatedExtendedAgentCard⟩,
  ⟨.post, [word "v1" "", word "message" ":send"], .sendMessage⟩,
  ⟨.post, [word "v1" "", word "message" ":stream"], .sendMessageStream⟩,
  ⟨.post, taskPath ":cancel", .cancelTask⟩,
  ⟨.get, taskPath ":subscribe", .resubscribe⟩,
  ⟨.post, taskPath ":subscribe", .resubscribe⟩,
  ⟨.get, taskPath "", .getTask⟩,
  ⟨.post, configsPath, .createTaskPushNotificationConfig⟩,
  ⟨.get, configsPath, .listTaskPushNotificationConfigs⟩,
  ⟨.get, configPath, .getTaskPushNotificationConfig⟩,
  ⟨.delete, configPath, .deleteTaskPushNotificationConfig⟩]

/-- The errors of the converters, as the routes throw them. -/
def thrownError : CompatError → Thrown
  | .invalidParams message => invalidParams message
  | .internalError message =>
      .a2a {
        semantic := none
        name := "JsonRpcTransportError"
        reason := "INTERNAL_ERROR"
        message
        metadata := none
        transport := .jsonrpc (some (.number internalErrorCode)) none }
  | .taskNotFound message => raised .taskNotFound message

section Decoding

variable (printer : Printer)

/-- `globalThis.Array.isArray(value) ? value.map(String) : []` -/
def readTexts : Option JsonValue → Except Thrown (List String)
  | some (.array values) => values.mapM (toText printer)
  | _ => .ok []

/-- `AuthenticationInfo.fromJSON` of the v0.3 protobuf messages -/
def readAuthentication (value : JsonValue) : Except Thrown Proto.AuthenticationInfo := do
  let schemes ← readTexts printer (field value "schemes")
  let credentials ← readText printer [field value "credentials"]
  return { schemes, credentials }

/-- `PushNotificationConfig.fromJSON` -/
def readPushNotificationConfig (value : JsonValue) : Except Thrown Proto.PushNotificationConfig := do
  let id ← readText printer [field value "id"]
  let url ← readText printer [field value "url"]
  let token ← readText printer [field value "token"]
  let authentication ← (firstSet [field value "authentication"]).mapM (readAuthentication printer)
  return { id, url, token, authentication }

/-- `TaskPushNotificationConfig.fromJSON` -/
def readConfig (read : String → Option JsonValue) : Except Thrown Proto.TaskPushNotificationConfig := do
  let name ← readText printer [read "name"]
  let pushNotificationConfig ←
    (firstSet [read "pushNotificationConfig", read "push_notification_config"]).mapM
      (readPushNotificationConfig printer)
  return { name, pushNotificationConfig }

def decodeTaskPushNotificationConfig (read : String → Option JsonValue) :
    Except Thrown Legacy.TaskPushNotificationConfig := do
  let proto ← readConfig printer read
  (FromProto.taskPushNotificationConfig proto).mapError thrownError

end Decoding

variable {μ : Type}

def capabilityError : Capability → Thrown
  | .streaming => unsupportedOperation "Agent does not support streaming"
  | .pushNotifications => raised .pushNotificationNotSupported "Push Notification is not supported"

def requireCapability (server : RestServer μ) (capability : Capability) : Except Thrown Unit := do
  let supported ← server.capabilities capability
  if supported then return () else .error (capabilityError capability)

def buildContext (server : RestServer μ) (request : RouteRequest) :
    Except Thrown (CallContext Unit) := do
  let user ← server.userBuilder request.toHttpRequest
  let context := CallContext.build request.extensions user request.headers
    (some ((orUndefined request.requestedVersion).getD "0.3")) (orUndefined (request.param .tenant))
  server.validateVersion context.requestedVersion
  return context

/-- The route of an operation, up to its call of the request handler. -/
def serve (printer : Printer) (server : RestServer μ) (request : RouteRequest)
    (method : HandlerMethod) : Except Thrown (HandlerCall Unit (RestParams μ)) := do
  let context ← buildContext server request
  let tenant := JsonValue.string (context.tenant.getD "")
  let taskId := (request.param .taskId).getD ""
  let configId := (request.param .configId).getD ""
  match method with
  | .getAuthenticatedExtendedAgentCard => return ⟨method, some tenant, .none, context⟩
  | .sendMessage => do
      let params ← server.content request.body
      let content ← server.checked params
      return ⟨method, some tenant, .message content, context⟩
  | .sendMessageStream => do
      let params ← server.content request.body
      requireCapability server .streaming
      let content ← server.checked params
      return ⟨method, some tenant, .message content, context⟩
  | .resubscribe => do
      requireCapability server .streaming
      return ⟨method, some tenant, .task taskId none, context⟩
  | .cancelTask => return ⟨method, some tenant, .task taskId none, context⟩
  | .getTask => do
      let historyLength ←
        (request.queryField "historyLength" <|> request.queryField "history_length").mapM
          (parseHistoryLength printer)
      return ⟨method, some tenant, .task taskId historyLength, context⟩
  | .createTaskPushNotificationConfig => do
      let config ← decodeTaskPushNotificationConfig printer request.bodyField
      requireCapability server .pushNotifications
      if config.taskId = "" then .error (invalidParams "taskId is required")
      else
        return ⟨method, some tenant,
          .config (toCoreTaskPushNotificationConfig config (context.tenant.getD "")), context⟩
  | .listTaskPushNotificationConfigs => return ⟨method, some tenant, .configsOf taskId, context⟩
  | .getTaskPushNotificationConfig => return ⟨method, some tenant, .configOf taskId configId, context⟩
  | .deleteTaskPushNotificationConfig => return ⟨method, some tenant, .configOf taskId configId, context⟩
  -- v0.3 has no route for a list of tasks.
  | .listTasks => .error .other

end LegacyRest

/-- The router whose route takes a request. -/
inductive RestRouter where
  | current
  | legacy
deriving DecidableEq, Repr

def routeRest (legacyCompat : Bool) (request : HttpRequest) :
    RestRouter × Router.Dispatch PathParam HandlerMethod :=
  let current := (RestRouter.current, routeRequest RestHandler.routes request.method request.path)
  if legacyCompat && isLegacyVersion ((orUndefined request.requestedVersion).getD "0.3") then
    match routeRequest LegacyRest.routes request.method request.path with
    | .notFound => current
    | found => (.legacy, found)
  else current

/-- The route in its router. -/
def serveRest {μ : Type} (express : Express) (printer : Printer) (server : RestServer μ)
    (request : RouteRequest) (method : HandlerMethod) :
    RestRouter → Except Thrown (HandlerCall Unit (RestParams μ))
  | .legacy => LegacyRest.serve printer server request method
  | .current => do
      let request ← RestHandler.tenantMiddleware express printer request
      RestHandler.serve printer server request method

/-- `restHandler` on a request, up to the call of the request handler. -/
def restHandler {μ : Type} (express : Express) (printer : Printer) (legacyCompat : Bool)
    (server : RestServer μ) (request : HttpRequest) : RestOutcome μ :=
  match routeRest legacyCompat request with
  | (_, .notFound) => .notFound
  | (_, .malformed) => .malformed
  | (router, .handled method params) =>
      match serveRest express printer server { request with params, bodyTenant := none } method router with
      | .ok call => .called call
      | .error thrown => .thrown thrown

end A2A.Compat
