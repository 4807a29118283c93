import A2A.Compat.JsonRpcHandler
import A2A.Compat.EventStreams
import A2A.Types.Codec

namespace A2A.Server

open Library Errors Client

/-! The methods of the JSON-RPC endpoint with their parameters and results, and what the endpoint answers.

Each method reads its parameters by a generated decoder and writes its result by a generated encoder.  The
extended agent card is left out: its codec is that of the card.
-/

/-- The parameters of a call. -/
inductive RpcParams where
  | sendMessage (params : SendMessageRequest)
  | sendMessageStream (params : SendMessageRequest)
  | resubscribe (params : SubscribeToTaskRequest)
  | getTask (params : GetTaskRequest)
  | listTasks (params : ListTasksRequest)
  | cancelTask (params : CancelTaskRequest)
  | createTaskPushNotificationConfig (params : TaskPushNotificationConfig)
  | getTaskPushNotificationConfig (params : TaskPushNotificationConfigRequest)
  | deleteTaskPushNotificationConfig (params : TaskPushNotificationConfigRequest)
  | listTaskPushNotificationConfigs (params : ListTaskPushNotificationConfigsRequest)

namespace RpcParams

def method : RpcParams → HandlerMethod
  | .sendMessage _ => .sendMessage
  | .sendMessageStream _ => .sendMessageStream
  | .resubscribe _ => .resubscribe
  | .getTask _ => .getTask
  | .listTasks _ => .listTasks
  | .cancelTask _ => .cancelTask
  | .createTaskPushNotificationConfig _ => .createTaskPushNotificationConfig
  | .getTaskPushNotificationConfig _ => .getTaskPushNotificationConfig
  | .deleteTaskPushNotificationConfig _ => .deleteTaskPushNotificationConfig
  | .listTaskPushNotificationConfigs _ => .listTaskPushNotificationConfigs

def toJSON : RpcParams → JsonValue
  | .sendMessage params | .sendMessageStream params => params.toJSON
  | .resubscribe params => params.toJSON
  | .getTask params => params.toJSON
  | .listTasks params => params.toJSON
  | .cancelTask params => params.toJSON
  | .createTaskPushNotificationConfig params => params.toJSON
  | .getTaskPushNotificationConfig params | .deleteTaskPushNotificationConfig params => params.toJSON
  | .listTaskPushNotificationConfigs params => params.toJSON

/-- Reading a property of what is undefined. -/
def undefinedRead (key : String) : Thrown :=
  .error ("Cannot read properties of undefined (reading '" ++ key ++ "')")

/-- The decoder of a method's parameters. -/
def fromJSON (conversions : Conversions) (method : HandlerMethod) (params : Option JsonValue) :
    Except Thrown RpcParams :=
  match params with
  | none =>
      .error (undefinedRead "tenant")
  | some params =>
      match method with
      | .sendMessage => (SendMessageRequest.fromJSON conversions params).map .sendMessage
      | .sendMessageStream => (SendMessageRequest.fromJSON conversions params).map .sendMessageStream
      | .resubscribe => (SubscribeToTaskRequest.fromJSON conversions params).map .resubscribe
      | .getTask => (GetTaskRequest.fromJSON conversions params).map .getTask
      | .listTasks => (ListTasksRequest.fromJSON conversions params).map .listTasks
      | .cancelTask => (CancelTaskRequest.fromJSON conversions params).map .cancelTask
      | .createTaskPushNotificationConfig =>
          (TaskPushNotificationConfig.fromJSON conversions params).map .createTaskPushNotificationConfig
      | .getTaskPushNotificationConfig =>
          (TaskPushNotificationConfigRequest.fromJSON conversions params).map .getTaskPushNotificationConfig
      | .deleteTaskPushNotificationConfig =>
          (TaskPushNotificationConfigRequest.fromJSON conversions params).map .deleteTaskPushNotificationConfig
      | .listTaskPushNotificationConfigs =>
          (ListTaskPushNotificationConfigsRequest.fromJSON conversions params).map .listTaskPushNotificationConfigs
      | .getAuthenticatedExtendedAgentCard => .error .other

/-- What the request handler resolves a call with.  A streaming method hands out a generator, which is
no result. -/
def Result : RpcParams → Type
  | .sendMessage _ => SendMessageResult
  | .sendMessageStream _ | .resubscribe _ | .deleteTaskPushNotificationConfig _ => Unit
  | .getTask _ | .cancelTask _ => Task
  | .listTasks _ => ListTasksResponse
  | .createTaskPushNotificationConfig _ | .getTaskPushNotificationConfig _ => TaskPushNotificationConfig
  | .listTaskPushNotificationConfigs _ => ListTaskPushNotificationConfigsResponse

/-- The `result` of the response. -/
def encodeResult : (params : RpcParams) → params.Result → JsonValue
  | .sendMessage _, .message value => .object [("message", value.toJSON)]
  | .sendMessage _, .task value => .object [("task", value.toJSON)]
  | .sendMessageStream _, _ | .resubscribe _, _ | .deleteTaskPushNotificationConfig _, _ => .null
  | .getTask _, task | .cancelTask _, task => task.toJSON
  | .listTasks params, response => serializeListTasksResponse response params.includeArtifacts
  | .createTaskPushNotificationConfig _, config | .getTaskPushNotificationConfig _, config => config.toJSON
  | .listTaskPushNotificationConfigs _, response => response.toJSON

/-- The parameters with this tenant. -/
def withTenant (tenant : String) : RpcParams → RpcParams
  | .sendMessage params => .sendMessage { params with tenant }
  | .sendMessageStream params => .sendMessageStream { params with tenant }
  | .resubscribe params => .resubscribe { params with tenant }
  | .getTask params => .getTask { params with tenant }
  | .listTasks params => .listTasks { params with tenant }
  | .cancelTask params => .cancelTask { params with tenant }
  | .createTaskPushNotificationConfig params => .createTaskPushNotificationConfig { params with tenant }
  | .getTaskPushNotificationConfig params => .getTaskPushNotificationConfig { params with tenant }
  | .deleteTaskPushNotificationConfig params => .deleteTaskPushNotificationConfig { params with tenant }
  | .listTaskPushNotificationConfigs params => .listTaskPushNotificationConfigs { params with tenant }

end RpcParams

/-- The request handler by its methods: what a call does to its context, and how it ends. -/
abbrev RpcAgent :=
  (params : RpcParams) → CallContext Unit → List ContextUpdate × Except Thrown params.Result

/-- The call of a method, with its tenant among its parameters again. -/
def RpcAgent.serve (agent : RpcAgent) (conversions : Conversions) (call : HandlerCall Unit RpcParams) :
    List ContextUpdate × Except Thrown JsonValue :=
  match readText conversions.printer [call.tenant] with
  | .error thrown => ([], .error thrown)
  | .ok tenant =>
      let params := call.params.withTenant tenant
      ((agent params call.context).1, (agent params call.context).2.map params.encodeResult)

/-- The request handler as the transport handler of today's protocol calls it. -/
def RpcAgent.requestHandler (agent : RpcAgent) (streaming : Except Thrown Bool) (conversions : Conversions) :
    RequestHandler Unit RpcParams JsonValue where
  streaming
  fromJSON := RpcParams.fromJSON conversions
  serve := agent.serve conversions

/-- The response object as JSON. -/
def Envelope.toJSON (envelope : Envelope JsonValue) : JsonValue :=
  .object ([("jsonrpc", .string envelope.jsonrpc), ("id", envelope.id)] ++
    (envelope.result.map fun result => ("result", result)).toList ++
    (envelope.error.map fun error => ("error", error.toJson)).toList)

/-- An event of a stream. -/
def eventEnvelope (id : JsonValue) (event : StreamResponse) : JsonValue :=
  Envelope.toJSON ⟨"2.0", id, some event.toJSON, none⟩

/-- Which of the two transport handlers a request goes to. -/
def usesLegacy (legacyCompat : Bool) (body : JsonValue) : Bool :=
  legacyCompat && (Compat.isLegacyRequest body || Compat.shouldUseLegacyFallback body)

section Answers

variable (response : ServerResponse) (format : NumberFormat) (body : JsonValue)
  (source : AsyncIterator StreamResponse Thrown) (fuel : Nat) (calls : List ResponseCall)

/-- `res.status(200).json(…)`, inside the `try` of the endpoint. -/
def replyWith (envelope : Envelope JsonValue) : Responding :=
  tryCatch (response.call (.json 200 envelope.toJSON)) (Compat.catchUnhandled response false body)

/-- What becomes of the response, where `source` is the generator of a streaming method; nothing if it is still
being written after so many rounds.  The header of the extensions is among the calls already. -/
def answerOf : JsonRpcResponse JsonValue → Option (EStateM.Result Thrown (List ResponseCall) Unit)
  | .failed id error => some (replyWith response body ⟨"2.0", id, none, some error⟩ calls)
  | .result id value => some (replyWith response body ⟨"2.0", id, some value, none⟩ calls)
  | .stream id =>
      (Compat.jsonRpcSend response format false body (fun event => .ok (eventEnvelope id event)) source fuel
        calls).map Sent.outcome
  -- `null` for a body makes the checks of the request throw
  | .crashed =>
      some (Compat.catchUnhandled response false body (.error "Cannot read properties of null (reading 'id')") [])

/-- The answer of `jsonRpcHandler` to a request that is none for the layer of v0.3. -/
def currentAnswer : Compat.JsonRpcOutcome RpcParams JsonValue JsonValue →
    Option (EStateM.Result Thrown (List ResponseCall) Unit)
  | .thrown thrown => some (Compat.catchUnhandled response false body thrown [])
  | .current dispatched => answerOf response format body source fuel calls dispatched.response
  | .legacy _ => none

end Answers

end A2A.Server
