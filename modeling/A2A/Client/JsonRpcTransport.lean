import A2A.Client.Responses
import A2A.Server.Transports.JsonRpcMethods

namespace A2A.Client

open Library Errors Server

/-! `JsonRpcTransport`: the request of a call, and what becomes of the response. -/

/-- The request object of a call. -/
def rpcRequest (method : String) (params : JsonValue) (id : Nat) : JsonValue :=
  .object [("jsonrpc", .string "2.0"), ("method", .string method), ("params", params), ("id", .number id)]

/-- The name under which a method is called. -/
def methodName : HandlerMethod → String
  | .sendMessage => "SendMessage"
  | .sendMessageStream => "SendStreamingMessage"
  | .resubscribe => "SubscribeToTask"
  | .getTask => "GetTask"
  | .listTasks => "ListTasks"
  | .cancelTask => "CancelTask"
  | .createTaskPushNotificationConfig => "CreateTaskPushNotificationConfig"
  | .getTaskPushNotificationConfig => "GetTaskPushNotificationConfig"
  | .deleteTaskPushNotificationConfig => "DeleteTaskPushNotificationConfig"
  | .listTaskPushNotificationConfigs => "ListTaskPushNotificationConfigs"
  | .getAuthenticatedExtendedAgentCard => "GetExtendedAgentCard"

/-- `throw mapJsonRpcErrorToSdkError(…)`, which may throw itself. -/
def mapJsonRpcErrorToSdkError (printer : Printer) (error : JsonValue) : ClientError :=
  match fromJsonRpcErrorResponse printer error with
  | .ok error => .mapped error
  | .error .thrown => .typeError

/-- The error that an error object in an event is thrown as. -/
def sseEventError (format : NumberFormat) (printer : Printer) (error : JsonValue) : ClientError :=
  let thrown : Except ClientError ClientError := do
    let message ← property error "message"
    let messageText ← template printer message
    let codeText ← template printer (field error "code")
    let data := field error "data"
    let dataText := Json.stringify format (if (data.map isTruthy).getD false then data.getD .null else .object [])
    return .error ("SSE event contained an error: " ++ messageText ++ " (Code: " ++ codeText ++ ") Data: " ++
      String.ofList dataText) (some (mapJsonRpcErrorToSdkError printer error))
  match thrown, fromJsonRpcErrorResponse printer error with
  | .ok thrown, .ok _ => thrown
  | _, _ => .typeError

/-- `value.id === requestId` -/
def isId (requestId : Nat) : Option JsonValue → Bool
  | some (.number id) => id = requestId
  | _ => false

section Transport

variable {format : NumberFormat} (parser : JsonParser format) (conversions : Conversions) (method : String)
  (requestId : Nat)

def httpErrorMessage (response : FetchResponse) : String :=
  "HTTP error for " ++ method ++ "! Status: " ++ toString response.status ++ " " ++ response.statusText ++
    ". Response: " ++ String.ofList response.text

/-- The `result` that a body holds. -/
def resultOf (json : JsonValue) : Except ClientError (Option JsonValue) := do
  let failed ← hasProperty json "error"
  if failed then .error (mapJsonRpcErrorToSdkError conversions.printer ((field json "error").getD .null))
  else if isId requestId (field json "id") then return field json "result"
  else
    let got ← template conversions.printer (field json "id")
    .error (.error ("JSON-RPC response ID mismatch for method " ++ method ++ ". Expected " ++ toString requestId ++
      ", got " ++ got ++ ".") none)

/-- What the body of a response that is not `ok` is thrown as. -/
def failureOf (response : FetchResponse) (errorJson : JsonValue) : ClientError :=
  match property errorJson "jsonrpc", property errorJson "error" with
  | .ok jsonrpc, .ok error =>
      if (jsonrpc.map isTruthy).getD false && (error.map isTruthy).getD false then
        mapJsonRpcErrorToSdkError conversions.printer (error.getD .null)
      else .error (httpErrorMessage method response) none
  | .error thrown, _ | _, .error thrown => thrown

/-- `_sendRpcRequest` on the response: the `result` of a success. -/
def readRpcResponse (response : FetchResponse) : Except ClientError (Option JsonValue) :=
  match response.ok, parser.parse response.text with
  | true, .ok json => resultOf conversions method requestId json
  | true, .error message => .error (.syntaxError message)
  | false, .ok errorJson => .error (failureOf conversions method response errorJson)
  | false, .error message => .error (.error (httpErrorMessage method response) (some (.syntaxError message)))

/-- The error of a body that holds one, when a stream was expected. -/
def errorOfBody (response : FetchResponse) : Option ClientError :=
  match parser.parse response.text with
  | .error _ => none
  | .ok errorJson =>
      match property errorJson "error" with
      | .error thrown => some thrown
      | .ok error =>
          if (error.map isTruthy).getD false then
            some (mapJsonRpcErrorToSdkError conversions.printer (error.getD .null))
          else none

/-- `_processSseEventData`.  The payload may be missing. -/
def processSseEventData (jsonData : Text) : Except ClientError (Option StreamResponse) :=
  if isBlank jsonData then .error (.error "Attempted to process empty SSE event data." none)
  else
    match parser.parse jsonData with
    | .error message =>
        .error (.error ("Failed to parse SSE event data: \"" ++ String.ofList (jsonData.take 100) ++
          "...\". Original error: " ++ (if message = "" then "Unknown error" else message))
          (some (.syntaxError message)))
    | .ok json => do
        let id ← property json "id"
        if isId requestId id then
          let failed ← hasProperty json "error"
          if failed then .error (sseEventError format conversions.printer ((field json "error").getD .null))
          else
            match field json "result" with
            | none =>
                .error (.error ("SSE event JSON-RPC response is missing 'result' field. Data: " ++
                  String.ofList jsonData) none)
            | some result => (StreamResponse.fromJSON conversions result).mapError thrownBy
        else
          let got ← template conversions.printer id
          .error (.error ("JSON-RPC response ID mismatch in SSE event. Expected " ++ toString requestId ++ ", got " ++
            got ++ ".") none)

/-- `_sendStreamingRequest` on the response: what the generator yields, and how it ends. -/
def readRpcStream (response : FetchResponse) : List (Option StreamResponse) × Except ClientError Unit :=
  if response.ok then
    if response.isEventStream then
      readEvents (fun event => processSseEventData parser conversions requestId event.data) response
    else
      ([], .error ((errorOfBody parser conversions response).getD
        (.error ("Invalid response Content-Type for SSE stream for " ++ method ++
          ". Expected 'text/event-stream'.") none)))
  else
    ([], .error ((errorOfBody parser conversions response).getD
      (.error ("HTTP error establishing stream for " ++ method ++ ": " ++ toString response.status ++ " " ++
        response.statusText ++ ". Response: " ++
        (if response.text = [] then "(empty)" else String.ofList response.text)) none)))

end Transport

/-- What a method makes of the `result`: the key is the first that its decoder reads. -/
def readResult {α : Type} (key : String) (decode : JsonValue → Except Thrown α) (result : Option JsonValue) :
    Except ClientError α :=
  match result with
  | none => .error (thrownBy (RpcParams.undefinedRead key))
  | some value => (decode value).mapError thrownBy

/-- The result of a call, as its method decodes it. -/
def decodeResult (conversions : Conversions) (result : Option JsonValue) :
    (params : RpcParams) → Except ClientError params.Result
  | .sendMessage _ => do
      let response ← readResult "task" (SendMessageResponse.fromJSON conversions) result
      match response.payload with
      | none => .error (.error "Invalid response: missing payload" none)
      | some value => return value
  | .sendMessageStream _ | .resubscribe _ | .deleteTaskPushNotificationConfig _ => .ok ()
  | .getTask _ | .cancelTask _ => readResult "id" (Task.fromJSON conversions) result
  | .listTasks _ => readResult "nextPageToken" (ListTasksResponse.fromJSON conversions) result
  | .createTaskPushNotificationConfig _ | .getTaskPushNotificationConfig _ =>
      readResult "tenant" (TaskPushNotificationConfig.fromJSON conversions) result
  | .listTaskPushNotificationConfigs _ =>
      readResult "nextPageToken" (ListTaskPushNotificationConfigsResponse.fromJSON conversions) result

structure JsonRpcTransport where
  endpoint : String
  requestIdCounter : Nat := 1

namespace JsonRpcTransport

/-- The text that a call sends, with the id that it waits for, and the transport after it. -/
def send (format : NumberFormat) (transport : JsonRpcTransport) (params : RpcParams) :
    Text × Nat × JsonRpcTransport :=
  let requestId := transport.requestIdCounter
  (Json.stringify format (rpcRequest (methodName params.method) params.toJSON requestId), requestId,
    { transport with requestIdCounter := requestId + 1 })

/-- What a call resolves with, given its response. -/
def receive {format : NumberFormat} (parser : JsonParser format) (conversions : Conversions) (requestId : Nat)
    (params : RpcParams) (response : FetchResponse) : Except ClientError params.Result := do
  let result ← readRpcResponse parser conversions (methodName params.method) requestId response
  decodeResult conversions result params

end JsonRpcTransport

end A2A.Client
