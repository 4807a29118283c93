import A2A.Errors.Wire
import A2A.Server.CallContext

namespace A2A.Server

open Library Errors

/-! `JsonRpcTransportHandler`: from a request body to a call of the request handler.

The transport holds one context object and, when the parameters name a tenant,
makes a second one, which the request handler gets instead.  What the request
handler does to its context is done to that object alone.
-/

/-- The methods of `A2ARequestHandler`. -/
inductive HandlerMethod where
  | sendMessage
  | sendMessageStream
  | resubscribe
  | getTask
  | listTasks
  | cancelTask
  | createTaskPushNotificationConfig
  | getTaskPushNotificationConfig
  | deleteTaskPushNotificationConfig
  | listTaskPushNotificationConfigs
  | getAuthenticatedExtendedAgentCard
deriving DecidableEq, Repr

/-- The `switch` over the method names. -/
def HandlerMethod.ofName : String → Option HandlerMethod
  | "SendStreamingMessage" => some .sendMessageStream
  | "SubscribeToTask" => some .resubscribe
  | "SendMessage" => some .sendMessage
  | "GetTask" => some .getTask
  | "ListTasks" => some .listTasks
  | "CancelTask" => some .cancelTask
  | "CreateTaskPushNotificationConfig" => some .createTaskPushNotificationConfig
  | "GetTaskPushNotificationConfig" => some .getTaskPushNotificationConfig
  | "DeleteTaskPushNotificationConfig" => some .deleteTaskPushNotificationConfig
  | "ListTaskPushNotificationConfigs" => some .listTaskPushNotificationConfigs
  | "GetExtendedAgentCard" => some .getAuthenticatedExtendedAgentCard
  | _ => none

def HandlerMethod.streams : HandlerMethod → Bool
  | .sendMessageStream | .resubscribe => true
  | _ => false

/-- A call of the request handler: the tenant among its parameters, the others, and the context. -/
structure HandlerCall (ς π : Type) where
  method : HandlerMethod
  tenant : Option JsonValue
  params : π
  context : CallContext ς

/-- The request handler as its transport sees it.  `streaming` is the capability of the card that
`getAgentCard` returns; `fromJSON` reads the parameters other than the tenant; `serve` says what
a call does to its context, and how it ends. -/
structure RequestHandler (ς π ρ : Type) where
  streaming : Except Thrown Bool
  fromJSON : HandlerMethod → Option JsonValue → Except Thrown π
  serve : HandlerCall ς π → List ContextUpdate × Except Thrown ρ

inductive JsonRpcResponse (ρ : Type) where
  | failed (id : JsonValue) (error : JsonRpcError)
  | result (id : JsonValue) (value : ρ)
  /-- The generator of a streaming method. -/
  | stream (id : JsonValue)
  /-- `handle` itself rejects. -/
  | crashed

/-- What became of a request: the call that was made, what the call did to its context, the
transport's own context object afterwards, and the response. -/
structure Dispatched (ς π ρ : Type) where
  call : Option (HandlerCall ς π)
  updates : List ContextUpdate
  transportContext : CallContext ς
  response : JsonRpcResponse ρ

inductive RequestBody where
  /-- A text, with what `JSON.parse` makes of it. -/
  | text (parsed : Except String JsonValue)
  | value (value : JsonValue)

/-- `new` on a semantic class, thrown. -/
def raised (errorClass : ErrorClass) (message : String) : Thrown :=
  .a2a {
    semantic := some errorClass
    name := errorClass.name
    reason := errorClass.reason
    message
    metadata := none
    transport := .none }

def readRequest : RequestBody → Except Thrown JsonValue
  | .text (.ok rpcRequest) => .ok rpcRequest
  | .text (.error message) =>
      .error (raised .requestMalformed
        (if message = "" then "Failed to parse JSON request." else message))
  | .value (.object fields) => .ok (.object fields)
  | .value (.array values) => .ok (.array values)
  | .value _ => .error (raised .requestMalformed "Invalid request body type.")

/-- The ids that `isRequestValid` accepts. -/
def idIsValid : JsonValue → Bool
  | .string _ | .null => true
  | .number value => value.den = 1
  | _ => false

/-- The method of a request, if `isRequestValid` accepts the request. -/
def validMethod (rpcRequest : JsonValue) : Option String :=
  match field rpcRequest "jsonrpc", (field rpcRequest "id").all idIsValid, field rpcRequest "method" with
  | some (.string "2.0"), true, some (.string method) => if method = "" then none else some method
  | _, _, _ => none

def paramsAreValid : Option JsonValue → Bool
  | some (.object fields) => fields.all (fun entry => entry.1 ≠ "")
  | _ => false

/-- `rpcRequest.params?.tenant`, as the string that the source takes it for. -/
def paramsTenant (params : Option JsonValue) : Option String :=
  match params.bind (fun params => field params "tenant") with
  | some (.string tenant) => some tenant
  | _ => none

def withoutTenant : JsonValue → JsonValue
  | .object fields => .object (fields.filter (fun entry => entry.1 ≠ "tenant"))
  | params => params

/-- Whether a string is given and not empty. -/
def truthy (text : Option String) : Bool := text.any (fun text => text ≠ "")

variable {ς π ρ : Type}

/-- The second context object, if the parameters name a tenant and the context has none. -/
def tenantContext (params : Option JsonValue) (context : CallContext ς) : Option (CallContext ς) :=
  if truthy (paramsTenant params) && !truthy context.tenant then
    some (.new {
      requestedExtensions := context.requestedExtensions
      user := context.user
      requestedVersion := some context.requestedVersion
      tenant := paramsTenant params
      state := none })
  else none

/-- The call of the request handler, on the context object it is handed. -/
def callHandler (handler : RequestHandler ς π ρ) (requestId : JsonValue) (method : HandlerMethod)
    (params : Option JsonValue) (decoded : π) (context : CallContext ς) : Dispatched ς π ρ :=
  let fresh := tenantContext params context
  let call := {
    method
    tenant := params.bind (fun params => field params "tenant")
    params := decoded
    context := fresh.getD context }
  let (updates, served) := handler.serve call
  { call := some call
    updates
    transportContext := if fresh.isSome then context else context.updateAll updates
    response :=
      if method.streams then .stream requestId
      else match served with
        | .ok value => .result requestId value
        | .error thrown => .failed requestId (toJsonRpcError thrown) }

/-- No call was made. -/
def uncalled (context : CallContext ς) (response : JsonRpcResponse ρ) : Dispatched ς π ρ where
  call := none
  updates := []
  transportContext := context
  response := response

/-- `handle` once the request is known to be one. -/
def dispatch (handler : RequestHandler ς π ρ) (requestId : JsonValue) (methodName : String)
    (params : Option JsonValue) (context : CallContext ς) : Dispatched ς π ρ :=
  let failed (thrown : Thrown) : Dispatched ς π ρ :=
    uncalled context (.failed requestId (toJsonRpcError thrown))
  if methodName ≠ "GetExtendedAgentCard" && !paramsAreValid params then
    failed (raised .requestMalformed "Invalid method parameters.")
  else
    match HandlerMethod.ofName methodName with
    | none =>
        uncalled context (.failed requestId ⟨.number (-32601), "Invalid method.", none⟩)
    | some method =>
        match if method.streams then handler.streaming else .ok true with
        | .error thrown => failed thrown
        | .ok false =>
            failed (raised .unsupportedOperation
              ("Method " ++ methodName ++ " requires streaming capability."))
        | .ok true =>
            match handler.fromJSON method (params.map withoutTenant) with
            | .error thrown => failed thrown
            | .ok decoded => callHandler handler requestId method params decoded context

def handle (handler : RequestHandler ς π ρ) (requestBody : RequestBody) (context : CallContext ς) :
    Dispatched ς π ρ :=
  match readRequest requestBody with
  | .error thrown => uncalled context (.failed .null (toJsonRpcError thrown))
  -- The checks read a property of `null`, and so does the `catch` that would report it.
  | .ok .null => uncalled context .crashed
  | .ok rpcRequest =>
      let requestId := (field rpcRequest "id").getD .null
      match validMethod rpcRequest with
      | none =>
          uncalled context (.failed requestId
            (toJsonRpcError (raised .requestMalformed "Invalid JSON-RPC Request.")))
      | some methodName => dispatch handler requestId methodName (field rpcRequest "params") context

/-- A response object on the wire. -/
structure Envelope (ρ : Type) where
  jsonrpc : String
  id : JsonValue
  result : Option ρ
  error : Option JsonRpcError

/-- Exactly one of a result and an error. -/
def Envelope.WellFormed (envelope : Envelope ρ) : Prop :=
  envelope.jsonrpc = "2.0" ∧ envelope.result.isSome = envelope.error.isNone

/-- What the promise of `handle` resolves with. -/
inductive Resolution (ρ : Type) where
  | response (envelope : Envelope ρ)
  | stream (envelopes : List (Envelope ρ))

def Resolution.envelopes : Resolution ρ → List (Envelope ρ)
  | .response envelope => [envelope]
  | .stream envelopes => envelopes

/-- The settled promise, where the agent's generator yields `events`; nothing if it rejects. -/
def JsonRpcResponse.resolution (events : List ρ) : JsonRpcResponse ρ → Option (Resolution ρ)
  | .failed id error => some (.response ⟨"2.0", id, none, some error⟩)
  | .result id value => some (.response ⟨"2.0", id, some value, none⟩)
  | .stream id => some (.stream (events.map (fun event => ⟨"2.0", id, some event, none⟩)))
  | .crashed => none

end A2A.Server
