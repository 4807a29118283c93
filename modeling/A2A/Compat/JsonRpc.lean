import A2A.Server.Transports.JsonRpc

namespace A2A.Compat

open Library Errors Server

/-! `LegacyJsonRpcTransportHandler`, the twin of `JsonRpcTransportHandler` under the v0.3 names.

It hands on the context object as it is, knows no tenant, and keeps the wire codes
of its own errors, which have no class of today's protocol.
-/

/-- The `switch` over the v0.3 method names. -/
def ofLegacyName : String → Option HandlerMethod
  | "message/stream" => some .sendMessageStream
  | "tasks/resubscribe" => some .resubscribe
  | "message/send" => some .sendMessage
  | "tasks/get" => some .getTask
  | "tasks/cancel" => some .cancelTask
  | "tasks/pushNotificationConfig/set" => some .createTaskPushNotificationConfig
  | "tasks/pushNotificationConfig/get" => some .getTaskPushNotificationConfig
  | "tasks/pushNotificationConfig/list" => some .listTaskPushNotificationConfigs
  | "tasks/pushNotificationConfig/delete" => some .deleteTaskPushNotificationConfig
  | "agent/getAuthenticatedExtendedCard" => some .getAuthenticatedExtendedAgentCard
  | _ => none

/-- `new` on the JSON-RPC twin of a semantic class, with a wire code of its own. -/
def coded (errorClass : ErrorClass) (envelopeCode : Int) (message : String) : Thrown :=
  .a2a {
    semantic := some errorClass
    name := errorClass.name
    reason := errorClass.reason
    message
    metadata := none
    transport := .jsonrpc (some (.number envelopeCode)) none }

def invalidRequest (message : String) : Thrown := coded .requestMalformed (-32600) message

def methodNotFound (method : String) : Thrown :=
  coded .unsupportedOperation (-32601) ("Method not found: " ++ method)

def invalidParams (message : String) : Thrown := raised .requestMalformed message

def unsupportedOperation (operation : String) : Thrown :=
  raised .unsupportedOperation ("Unsupported operation: " ++ operation)

/-- `toCompatErrorBody` -/
def toCompatErrorBody : Thrown → JsonRpcError
  | .a2a error =>
      match error.transport with
      | .jsonrpc envelopeCode data => {
          code := envelopeCode.getD (.number internalErrorCode)
          message := error.message
          data }
      | _ => {
          code :=
            match OrderedMap.lookup errorSpecs error.name with
            | some errorClass => .number errorClass.jsonRpcCode
            | none => .number internalErrorCode
          message := error.message
          data := none }
  | .error message => {
      code := .number internalErrorCode
      message := if message = "" then "An unexpected error occurred." else message
      data := none }
  | .other => {
      code := .number internalErrorCode
      message := "An unexpected error occurred."
      data := none }

namespace LegacyJsonRpc

def readRequest : RequestBody → Except Thrown JsonValue
  | .text (.ok rpcRequest) => .ok rpcRequest
  | .text (.error message) =>
      .error (invalidRequest (if message = "" then "Failed to parse JSON request." else message))
  | .value (.object fields) => .ok (.object fields)
  | .value (.array values) => .ok (.array values)
  | .value _ => .error (invalidRequest "Invalid request body type.")

variable {ς π ρ σ : Type}

/-- The call of the request handler, and the answer in the words of v0.3. -/
def callHandler (handler : RequestHandler ς π ρ) (toCompat : HandlerMethod → ρ → Except Thrown σ)
    (requestId : JsonValue) (method : HandlerMethod) (decoded : π) (context : CallContext ς) :
    Dispatched ς π σ :=
  let call := { method, tenant := some (.string ""), params := decoded, context }
  let (updates, served) := handler.serve call
  { call := some call
    updates
    transportContext := context.updateAll updates
    response :=
      if method.streams then .stream requestId
      else match served.bind (toCompat method) with
        | .ok value => .result requestId value
        | .error thrown => .failed requestId (toCompatErrorBody thrown) }

/-- `handle` once the request is known to be one. -/
def dispatch (handler : RequestHandler ς π ρ) (toCompat : HandlerMethod → ρ → Except Thrown σ)
    (requestId : JsonValue) (methodName : String) (params : Option JsonValue)
    (context : CallContext ς) : Dispatched ς π σ :=
  let failed (thrown : Thrown) : Dispatched ς π σ :=
    uncalled context (.failed requestId (toCompatErrorBody thrown))
  if methodName ≠ "agent/getAuthenticatedExtendedCard" && !paramsAreValid params then
    failed (invalidParams "Invalid method parameters.")
  else
    match ofLegacyName methodName with
    | none => failed (methodNotFound methodName)
    | some method =>
        match if method.streams then handler.streaming else .ok true with
        | .error thrown => failed thrown
        | .ok false =>
            failed (unsupportedOperation ("Method " ++ methodName ++ " requires streaming capability."))
        | .ok true =>
            match handler.fromJSON method params with
            | .error thrown => failed thrown
            | .ok decoded => callHandler handler toCompat requestId method decoded context

def handle (handler : RequestHandler ς π ρ) (toCompat : HandlerMethod → ρ → Except Thrown σ)
    (requestBody : RequestBody) (context : CallContext ς) : Dispatched ς π σ :=
  match readRequest requestBody with
  | .error thrown => uncalled context (.failed .null (toCompatErrorBody thrown))
  -- As in the twin, the `catch` reads a property of `null` once more.
  | .ok .null => uncalled context .crashed
  | .ok rpcRequest =>
      let requestId := (field rpcRequest "id").getD .null
      match validMethod rpcRequest with
      | none =>
          uncalled context (.failed requestId
            (toCompatErrorBody (invalidRequest "Invalid JSON-RPC Request.")))
      | some methodName =>
          dispatch handler toCompat requestId methodName (field rpcRequest "params") context

end LegacyJsonRpc

end A2A.Compat
