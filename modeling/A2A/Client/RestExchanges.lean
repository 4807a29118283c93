import A2A.Client.Responses
import A2A.Server.Transports.JsonRpcMethods

namespace A2A.Client

open Library Errors Server

/-! `RestTransport`: which request a call sends, and what becomes of the response. -/

namespace RestTransport

/-- The call whose request these parameters are sent with. -/
def callFor : RpcParams → RestCall
  | .sendMessage params => .sendMessage params.tenant
  | .sendMessageStream params => .sendMessageStream params.tenant
  | .resubscribe params => .resubscribeTask params.tenant params.id
  | .getTask params => .getTask params.tenant params.id params.historyLength
  | .listTasks params => .listTasks params
  | .cancelTask params => .cancelTask params.tenant params.id
  | .createTaskPushNotificationConfig params => .createTaskPushNotificationConfig params.tenant params.taskId
  | .getTaskPushNotificationConfig params => .getTaskPushNotificationConfig params.tenant params.taskId params.id
  | .deleteTaskPushNotificationConfig params =>
      .deleteTaskPushNotificationConfig params.tenant params.taskId params.id
  | .listTaskPushNotificationConfigs params => .listTaskPushNotificationConfig params.tenant params.taskId

/-- The value whose text is the body of the request. -/
def requestBody : RpcParams → Option JsonValue
  | .sendMessage params | .sendMessageStream params => some params.toJSON
  | .createTaskPushNotificationConfig params => some params.toJSON
  | _ => none

section Errors

variable (printer : Printer)

/-- `throw fromRestErrorBody(…)`, which may throw itself. -/
def restError (response : FetchResponse) (body : JsonValue) : ClientError :=
  match fromRestErrorBody printer response.status (some response.headers) body with
  | .ok error => .mapped error
  | .error .thrown => .typeError

/-- An `error` that is an object. -/
def errorStatus : Option JsonValue → Option JsonValue
  | some (.object fields) => some (.object fields)
  | some (.array values) => some (.array values)
  | _ => none

variable {format : NumberFormat} (parser : JsonParser format)

/-- The `error` in the body of a response. -/
def errorStatusOf (response : FetchResponse) : Option JsonValue :=
  if response.text = [] then none
  else
    match parser.parse response.text with
    | .ok parsed => errorStatus (field parsed "error")
    | .error _ => none

/-- `_handleErrorResponse` -/
def handleErrorResponse (path : List Char) (response : FetchResponse) : ClientError :=
  let fallback := "HTTP error for " ++ String.ofList path ++ ": " ++ toString response.status ++ " " ++
    response.statusText
  restError printer response
    ((errorStatusOf parser response).getD (.object [("message", .string fallback)]))

end Errors

section Responses

variable {format : NumberFormat} (parser : JsonParser format) (conversions : Conversions)

/-- `_sendRequest` on the response, where it reads one: the value of its body, unless it has none. -/
def readResponse (path : List Char) (response : FetchResponse) : Except ClientError (Option JsonValue) :=
  if response.ok then
    if response.status = 204 then .ok none
    else
      match parser.parse response.text with
      | .ok result => .ok (some result)
      | .error message => .error (.syntaxError message)
  else .error (handleErrorResponse conversions.printer parser path response)

/-- `FromProto.sendMessageResult` -/
def sendMessageResult (response : SendMessageResponse) : Except ClientError SendMessageResult :=
  match response.payload with
  | some value => .ok value
  | none =>
      .error (.mapped {
        semantic := none
        name := "A2AError"
        reason := "INTERNAL_ERROR"
        message := "Invalid SendMessageResponse: missing result"
        metadata := none
        transport := .none })

/-- The value of a body, as the method decodes it. -/
def decodeBody (body : JsonValue) : (params : RpcParams) → Except ClientError params.Result
  | .sendMessage _ => do
      let response ← (SendMessageResponse.fromJSON conversions body).mapError thrownBy
      sendMessageResult response
  | .sendMessageStream _ | .resubscribe _ | .deleteTaskPushNotificationConfig _ => .ok ()
  | .getTask _ | .cancelTask _ => (Task.fromJSON conversions body).mapError thrownBy
  | .listTasks _ => (ListTasksResponse.fromJSON conversions body).mapError thrownBy
  | .createTaskPushNotificationConfig _ | .getTaskPushNotificationConfig _ =>
      (TaskPushNotificationConfig.fromJSON conversions body).mapError thrownBy
  | .listTaskPushNotificationConfigs _ =>
      (ListTaskPushNotificationConfigsResponse.fromJSON conversions body).mapError thrownBy

/-- What a method makes of no body. -/
def withoutBody : (params : RpcParams) → Except ClientError (Option params.Result)
  -- reads the payload of the response
  | .sendMessage _ => .error .typeError
  | _ => .ok none

/-- What a call resolves with, given its response; it may be `undefined`. -/
def receive (params : RpcParams) (response : FetchResponse) : Except ClientError (Option params.Result) :=
  let path := (callFor params).request.path
  match params with
  | .deleteTaskPushNotificationConfig _ =>
      if response.ok then .ok (some ())
      else .error (handleErrorResponse conversions.printer parser path response)
  | params =>
      match readResponse parser conversions path response with
      | .error error => .error error
      | .ok none => withoutBody params
      | .ok (some body) => (decodeBody conversions body params).map some

end Responses

section Streams

variable {format : NumberFormat} (parser : JsonParser format) (conversions : Conversions)

/-- The message of what the decoder has thrown. -/
def originalError : Thrown → String
  | .a2a error => error.message
  | .error message => message
  | .other => ""

def unreadableEvent (jsonData : Text) (message : String) : ClientError :=
  .error ("Failed to parse SSE event data: \"" ++ String.ofList (jsonData.take 100) ++ "...\". Original error: " ++
    (if message = "" then "Unknown error" else message)) none

/-- `_processSseEventData`.  The payload may be missing. -/
def processSseEventData (jsonData : Text) : Except ClientError (Option StreamResponse) :=
  if isBlank jsonData then .error (.error "Attempted to process empty SSE event data." none)
  else
    match parser.parse jsonData with
    | .error message => .error (unreadableEvent jsonData message)
    | .ok response =>
        (StreamResponse.fromJSON conversions response).mapError fun thrown =>
          unreadableEvent jsonData (originalError thrown)

/-- The error that an error event is thrown as. -/
def errorEvent (response : FetchResponse) (data : Text) : ClientError :=
  match parser.parse data with
  | .error message => .syntaxError message
  | .ok .null => .typeError
  | .ok errorData =>
      match errorStatus (field errorData "error") with
      | some error => restError conversions.printer response error
      | none => .error ("SSE error event: " ++ String.ofList (Json.stringify format errorData)) none

/-- The body of the loop over the events. -/
def processEvent (response : FetchResponse) (event : SseEvent) : Except ClientError (Option StreamResponse) :=
  if event.type = "error".toList then .error (errorEvent parser conversions response event.data)
  else processSseEventData parser conversions event.data

/-- `_sendStreamingRequest` on the response: what the generator yields, and how it ends. -/
def readStream (path : List Char) (response : FetchResponse) :
    List (Option StreamResponse) × Except ClientError Unit :=
  if response.ok then
    if response.isEventStream then readEvents (processEvent parser conversions response) response
    else
      ([], .error (.error ("Invalid response Content-Type for SSE stream. Expected 'text/event-stream', got '" ++
        response.contentType.getD "null" ++ "'.") none))
  else ([], .error (handleErrorResponse conversions.printer parser path response))

end Streams

end RestTransport

end A2A.Client
