import A2A.Client.RestTransport
import A2A.Client.Responses
import A2A.Compat.EventStreams
import A2A.Server.Transports.JsonRpcMethods

namespace A2A.Server

open Library Errors Client

/-! `RestTransportHandler` behind the routes: the calls of the request handler with their parameters, and
what the routes answer.
-/

/-- What the routes need to read a query. -/
structure QueryLanguage where
  /-- The query parser, on what stands behind the question mark. -/
  parse : List Char → List (String × JsonValue)
  parse_formString : ∀ params : List (String × String), (params.map Prod.fst).Nodup → params.length ≤ 1000 →
    (∀ entry ∈ params, entry.1.toList.all Char.isAlpha = true) →
      parse (formString params) = params.map fun entry => (entry.1, .string entry.2)
  /-- `Number(text)`, unless it is `NaN`; left open where it is no integer. -/
  number : String → Option Int
  number_integer : ∀ value : Int, number (toString value) = some value
  number_state : ∀ state : TaskState, number (Client.taskStateToJSON state) = none

/-- A parameter of a query, where it is given once: `(value as string) || ''`. -/
def queryText (value : Option JsonValue) : String :=
  match value with
  | some (.string text) => text
  | _ => ""

namespace RestTransportHandler

variable (language : QueryLanguage)

def parseIncludeArtifacts (value : Option JsonValue) : Bool :=
  match value with
  | some (.string text) => text = "true"
  | some (.bool flag) => flag
  | _ => false

/-- `value ? Number(value) : undefined` -/
def queryNumber (value : Option JsonValue) : Option Int :=
  if queryText value = "" then none else language.number (queryText value)

/-- `isNaN(Number(value)) ? value : Number(value)` -/
def queryState (value : Option JsonValue) : TaskState :=
  if queryText value = "" then .unspecified
  else
    match language.number (queryText value) with
    | some number => taskStateFromJSON (.number number)
    | none => taskStateFromJSON (.string (queryText value))

/-- `listTasks`, up to its call of the request handler. -/
def listTasksParams (tenant : String) (queryParams : List (String × JsonValue)) : ListTasksRequest where
  tenant
  contextId := queryText (OrderedMap.lookup queryParams "contextId")
  status := queryState language (OrderedMap.lookup queryParams "status")
  pageSize := queryNumber language (OrderedMap.lookup queryParams "pageSize")
  pageToken := queryText (OrderedMap.lookup queryParams "pageToken")
  historyLength := queryNumber language (OrderedMap.lookup queryParams "historyLength")
  statusTimestampAfter := orUndefined (some (queryText (OrderedMap.lookup queryParams "statusTimestampAfter")))
  includeArtifacts := some (parseIncludeArtifacts (OrderedMap.lookup queryParams "includeArtifacts"))

/-- The parameters of the call of the request handler.  The extended agent card has none of these. -/
def params (method : HandlerMethod) (tenant : String) :
    RestParams SendMessageRequest → Option RpcParams
  | .message content =>
      match method with
      | .sendMessage => some (.sendMessage { content with tenant })
      | _ => some (.sendMessageStream { content with tenant })
  | .task id historyLength =>
      match method with
      | .resubscribe => some (.resubscribe { id, tenant })
      | .cancelTask => some (.cancelTask { id, tenant, metadata := some .empty })
      | _ => some (.getTask { id, tenant, historyLength })
  | .list query => some (.listTasks (listTasksParams language tenant query))
  | .config config => some (.createTaskPushNotificationConfig { config with tenant })
  | .configsOf taskId =>
      some (.listTaskPushNotificationConfigs { taskId, tenant, pageSize := 0, pageToken := "" })
  | .configOf taskId id =>
      match method with
      | .deleteTaskPushNotificationConfig => some (.deleteTaskPushNotificationConfig { taskId, id, tenant })
      | _ => some (.getTaskPushNotificationConfig { taskId, id, tenant })
  | .none => none

end RestTransportHandler

namespace RestHandler

/-- `SendMessageRequest.fromJSON(req.body ?? {})`, but for the tenant. -/
def readContent (conversions : Conversions) (body : Option JsonValue) : Except Thrown SendMessageRequest :=
  let given :=
    match body with
    | none | some .null => JsonValue.object []
    | some body => body
  (SendMessageRequest.fromJSON conversions given).map fun params => { params with tenant := "" }

/-- The status that a route answers with. -/
def successStatus : HandlerMethod → Int
  | .createTaskPushNotificationConfig => 201
  | .deleteTaskPushNotificationConfig => 204
  | _ => 200

/-- The content type that the router has set. -/
def A2A_CONTENT_TYPE : String := "application/a2a+json"

section Answers

variable (format : NumberFormat)

/-- `sendResponse` -/
def sendResponse (method : HandlerMethod) (body : JsonValue) : HttpReply where
  status := successStatus method
  contentType := some (if successStatus method = 204 then A2A_CONTENT_TYPE else withCharset A2A_CONTENT_TYPE)
  text := if successStatus method = 204 then [] else Json.stringify format body

/-- `handleError`, before anything has been sent. -/
def handleError (thrown : Thrown) : HttpReply where
  status := restStatusFor thrown
  contentType := some (withCharset A2A_CONTENT_TYPE)
  text := Json.stringify format (toHTTPError thrown (restStatusFor thrown))

variable (response : ServerResponse)

/-- `handleError`, on the response of a stream. -/
def handleStreamError (thrown : Thrown) : Responding := do
  if response.headersSent (← get) then response.unlessEnded (response.call .finish)
  else response.call (.json (restStatusFor thrown) (toHTTPError thrown (restStatusFor thrown)))

/-- `sendStreamResponse`, inside the `try` of its route. -/
def sendStreamResponse (activated : Option Extensions) (source : AsyncIterator StreamResponse Thrown) (fuel : Nat) :
    Option HttpReply :=
  let sent := (streamSender response format activated fun event => .ok event.toJSON).send source fuel
    [.setHeader "Content-Type" [A2A_CONTENT_TYPE]]
  sent.map fun sent =>
    match sent.outcome with
    | .ok _ calls => HttpReply.ofCalls format calls
    | .error thrown calls =>
        match handleStreamError response thrown calls with
        | .ok _ calls | .error _ calls => HttpReply.ofCalls format calls

/-- What `restHandler` answers, where `source` is the generator of a streaming method; nothing if it is still being
written after so many rounds.  Express itself answers a path that no route takes. -/
def answer (language : QueryLanguage) (agent : RpcAgent) (source : AsyncIterator StreamResponse Thrown) (fuel : Nat) :
    RestOutcome SendMessageRequest → Option HttpReply
  | .notFound | .malformed => none
  | .thrown thrown => some (handleError format thrown)
  | .called call =>
      match RestTransportHandler.params language call.method (queryText call.tenant) call.params with
      | none => none
      | some params =>
          let ended := agent params call.context
          if call.method.streams then
            sendStreamResponse format response (call.context.updateAll ended.1).activatedExtensions source fuel
          else
            match ended.2 with
            | .ok result => some (sendResponse format call.method (params.encodeResult result))
            | .error thrown => some (handleError format thrown)

end Answers

end RestHandler

end A2A.Server
