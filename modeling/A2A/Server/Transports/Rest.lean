import A2A.Library.Decimal
import A2A.Library.Router
import A2A.Server.Transports.JsonRpc

namespace A2A.Server

open Library Router Errors

/-! `restHandler` and `RestTransportHandler`: from an HTTP request to a call of the request handler.

The routes are tried in the order in which they are registered.  What a route
hands on comes from the path, the query and the body, and the tenant of the path
is put on query and body before the route runs.
-/

inductive HttpMethod where
  | get
  | post
  | delete
deriving DecidableEq, Repr

/-- The parameters that the routes name. -/
inductive PathParam where
  | tenant
  | taskId
  | configId
deriving DecidableEq, Repr

abbrev RestRoute := Route PathParam HttpMethod HandlerMethod

/-- A segment without parameters, such as `message:send`. -/
def word (text : String) (verb : String) : Segment PathParam := .literal text.toList verb.toList

/-- A segment that a parameter fills up to the verb, such as `:taskId\:cancel`. -/
def parameter (name : PathParam) (verb : String) : Segment PathParam := .param name verb.toList

namespace RestHandler

/-- The route as it is given, and behind a tenant. -/
def registerRoute (method : HttpMethod) (path : List (Segment PathParam)) (handler : HandlerMethod) :
    List RestRoute :=
  [⟨method, path, handler⟩, ⟨method, parameter .tenant "" :: path, handler⟩]

def taskPath (verb : String) : List (Segment PathParam) := [word "tasks" "", parameter .taskId verb]

def configsPath : List (Segment PathParam) := taskPath "" ++ [word "pushNotificationConfigs" ""]

def configPath : List (Segment PathParam) := configsPath ++ [parameter .configId ""]

def routes : List RestRoute :=
  registerRoute .get [word "extendedAgentCard" ""] .getAuthenticatedExtendedAgentCard ++
  registerRoute .post [word "message" ":send"] .sendMessage ++
  registerRoute .post [word "message" ":stream"] .sendMessageStream ++
  registerRoute .get (taskPath ":subscribe") .resubscribe ++
  registerRoute .post (taskPath ":subscribe") .resubscribe ++
  registerRoute .post (taskPath ":cancel") .cancelTask ++
  registerRoute .get (taskPath "") .getTask ++
  registerRoute .get [word "tasks" ""] .listTasks ++
  registerRoute .post configsPath .createTaskPushNotificationConfig ++
  registerRoute .get configsPath .listTaskPushNotificationConfigs ++
  registerRoute .get configPath .getTaskPushNotificationConfig ++
  registerRoute .delete configPath .deleteTaskPushNotificationConfig

end RestHandler

/-- Where the router of a table sends a request. -/
def routeRequest (routes : List RestRoute) (method : HttpMethod) (path : List Char) :
    Router.Dispatch PathParam HandlerMethod :=
  match segments path with
  | some raws => Router.dispatch method raws routes
  | none => .notFound

/-- An HTTP request as Express has parsed it. -/
structure HttpRequest where
  method : HttpMethod
  path : List Char
  /-- What the query parser makes of the query string. -/
  query : List (String × JsonValue)
  body : Option JsonValue
  /-- What `Extensions.parseServiceParameter` makes of the extensions header. -/
  extensions : Option Extensions
  /-- The `A2A-Version` header. -/
  requestedVersion : Option String
  headers : JsonValue

/-- The versions of Express that the package admits.  From version 5 on, `req.query` is parsed anew
at every access, and what is assigned to it is lost. -/
inductive Express where
  | four
  | five
deriving DecidableEq, Repr

/-- A request in the route that matched it. -/
structure RouteRequest extends HttpRequest where
  params : List (PathParam × List Char)
  /-- The tenant that the middleware has put on the body. -/
  bodyTenant : Option String

namespace RouteRequest

def param (request : RouteRequest) (name : PathParam) : Option String :=
  (OrderedMap.lookup request.params name).map String.ofList

/-- `req.body?.key` -/
def bodyField (request : RouteRequest) (key : String) : Option JsonValue :=
  if key = "tenant" ∧ request.bodyTenant.isSome then request.bodyTenant.map .string
  else request.body.bind (field · key)

def queryField (request : RouteRequest) (key : String) : Option JsonValue :=
  OrderedMap.lookup request.query key

end RouteRequest

/-- `Boolean(value)` -/
def isTruthy : JsonValue → Bool
  | .null => false
  | .bool value => value
  | .number value => value ≠ 0
  | .string value => value ≠ ""
  | .array _ | .object _ => true

/-- `value || ''` -/
def orEmpty (value : Option JsonValue) : JsonValue :=
  match value with
  | some value => if isTruthy value then value else .string ""
  | none => .string ""

/-- `value || undefined` -/
def orUndefined (value : Option String) : Option String := value.filter (· ≠ "")

/-- What the value is called when a property of it cannot be set. -/
def primitiveName : JsonValue → Option String
  | .bool _ => some "boolean"
  | .number _ => some "number"
  | .string _ => some "string"
  | .null | .array _ | .object _ => none

section Decoding

variable (printer : Printer)

/-- `String(value)` -/
def toText (value : JsonValue) : Except Thrown String :=
  match printer.print value with
  | some text => .ok text
  | none => .error (.error "Cannot convert object to primitive value")

/-- The first of the values that is set. -/
def firstSet : List (Option JsonValue) → Option JsonValue
  | [] => none
  | none :: rest | some .null :: rest => firstSet rest
  | some value :: _ => some value

/-- `isSet(value) ? String(value) : ""` -/
def readText (values : List (Option JsonValue)) : Except Thrown String :=
  match firstSet values with
  | some value => toText printer value
  | none => .ok ""

/-- `AuthenticationInfo.fromJSON` -/
def readAuthentication (value : JsonValue) : Except Thrown AuthenticationInfo := do
  let scheme ← readText printer [field value "scheme"]
  let credentials ← readText printer [field value "credentials"]
  return { scheme, credentials }

/-- `TaskPushNotificationConfig.fromJSON` -/
def readConfig (read : String → Option JsonValue) : Except Thrown TaskPushNotificationConfig := do
  let tenant ← readText printer [read "tenant"]
  let id ← readText printer [read "id"]
  let taskId ← readText printer [read "taskId", read "task_id"]
  let url ← readText printer [read "url"]
  let token ← readText printer [read "token"]
  let authentication ← (firstSet [read "authentication"]).mapM (readAuthentication printer)
  return { tenant, id, taskId, url, token, authentication }

def parseHistoryLength (value : JsonValue) : Except Thrown Int :=
  match value with
  | .null => .error (raised .requestMalformed "historyLength is required")
  | value => do
      let text ← toText printer value
      match Decimal.parseInt text with
      | none => .error (raised .requestMalformed "historyLength must be a valid integer")
      | some parsed =>
          if parsed < 0 then .error (raised .requestMalformed "historyLength must be non-negative")
          else return parsed

end Decoding

inductive Capability where
  | streaming
  | pushNotifications
deriving DecidableEq, Repr

/-- `CAPABILITY_ERRORS` -/
def Capability.error : Capability → Thrown
  | .streaming => raised .unsupportedOperation "Agent does not support streaming"
  | .pushNotifications => raised .pushNotificationNotSupported "Push Notification is not supported"

/-- What the routes consult besides the request. -/
structure RestServer (μ : Type) where
  userBuilder : HttpRequest → Except Thrown (Option User)
  /-- `validateVersion` for the card that `getAgentCard` returns -/
  validateVersion : String → Except Thrown Unit
  /-- `agentCard.capabilities?.[capability]` -/
  capabilities : Capability → Except Thrown Bool
  /-- The message, its configuration and its metadata, from the body of a request that sends one. -/
  content : Option JsonValue → Except Thrown μ
  /-- The checks on these in a request of v0.3, and their translation. -/
  checked : μ → Except Thrown μ

/-- The parameters of the calls of the request handler, but for the tenant. -/
inductive RestParams (μ : Type) where
  | none
  | message (content : μ)
  | task (id : String) (historyLength : Option Int)
  /-- The filters of a list, as the query has them. -/
  | list (query : List (String × JsonValue))
  | config (config : TaskPushNotificationConfig)
  | configsOf (taskId : String)
  | configOf (taskId id : String)

namespace RestHandler

variable {μ : Type}

/-- `if (req.body) req.body.tenant = pathTenant`, which is not possible on a primitive value. -/
def assignTenant (printer : Printer) (pathTenant : String) : Option JsonValue → Except Thrown (Option String)
  | none => .ok none
  | some body =>
      if !isTruthy body then .ok none
      else match primitiveName body with
        | none => .ok (some pathTenant)
        | some name => do
            let text ← toText printer body
            .error (.error ("Cannot create property 'tenant' on " ++ name ++ " '" ++ text ++ "'"))

/-- `tenantMiddleware` -/
def tenantMiddleware (express : Express) (printer : Printer) (request : RouteRequest) :
    Except Thrown RouteRequest :=
  match orUndefined (request.param .tenant) with
  | none => .ok request
  | some pathTenant => do
      let bodyTenant ← assignTenant printer pathTenant request.body
      return {
        request with
        bodyTenant
        query :=
          match express with
          | .four => OrderedMap.assign request.query "tenant" (.string pathTenant)
          | .five => request.query }

def buildContext (server : RestServer μ) (request : RouteRequest) :
    Except Thrown (CallContext Unit) := do
  let user ← server.userBuilder request.toHttpRequest
  let context := CallContext.build request.extensions user request.headers
    (orUndefined request.requestedVersion) (orUndefined (request.param .tenant))
  server.validateVersion context.requestedVersion
  return context

def requireCapability (server : RestServer μ) (capability : Capability) : Except Thrown Unit := do
  let supported ← server.capabilities capability
  if supported then return () else .error capability.error

/-- `validateSendMessageRequest` -/
def validateSendMessageRequest (printer : Printer) (message : Option JsonValue) :
    Except Thrown Unit :=
  match firstSet [message] with
  | none => .error (raised .requestMalformed "message is required")
  | some message => do
      let messageId ← readText printer [field message "messageId", field message "message_id"]
      if messageId = "" then .error (raised .requestMalformed "message.messageId is required")
      else return ()

/-- The route of an operation, up to its call of the request handler. -/
def serve (printer : Printer) (server : RestServer μ) (request : RouteRequest)
    (method : HandlerMethod) : Except Thrown (HandlerCall Unit (RestParams μ)) := do
  let context ← buildContext server request
  let queryTenant := orEmpty (request.queryField "tenant")
  let taskId := (request.param .taskId).getD ""
  let configId := (request.param .configId).getD ""
  match method with
  | .getAuthenticatedExtendedAgentCard => return ⟨method, some queryTenant, .none, context⟩
  | .sendMessage => do
      let tenant ← readText printer [request.bodyField "tenant"]
      let content ← server.content request.body
      validateSendMessageRequest printer (request.bodyField "message")
      return ⟨method, some (.string tenant), .message content, context⟩
  | .sendMessageStream => do
      let tenant ← readText printer [request.bodyField "tenant"]
      let content ← server.content request.body
      requireCapability server .streaming
      validateSendMessageRequest printer (request.bodyField "message")
      return ⟨method, some (.string tenant), .message content, context⟩
  | .resubscribe => do
      requireCapability server .streaming
      return ⟨method, some queryTenant, .task taskId none, context⟩
  | .cancelTask => return ⟨method, some queryTenant, .task taskId none, context⟩
  | .getTask => do
      let historyLength ← (request.queryField "historyLength").mapM (parseHistoryLength printer)
      return ⟨method, some queryTenant, .task taskId historyLength, context⟩
  | .listTasks => return ⟨method, some queryTenant, .list request.query, context⟩
  | .createTaskPushNotificationConfig => do
      let config ← readConfig printer request.bodyField
      requireCapability server .pushNotifications
      return ⟨method, some (.string config.tenant), .config config, context⟩
  | .listTaskPushNotificationConfigs => return ⟨method, some queryTenant, .configsOf taskId, context⟩
  | .getTaskPushNotificationConfig => return ⟨method, some queryTenant, .configOf taskId configId, context⟩
  | .deleteTaskPushNotificationConfig =>
      return ⟨method, some queryTenant, .configOf taskId configId, context⟩

end RestHandler

/-- What becomes of a request. -/
inductive RestOutcome (μ : Type) where
  | notFound
  | malformed
  | thrown (thrown : Thrown)
  | called (call : HandlerCall Unit (RestParams μ))

end A2A.Server
