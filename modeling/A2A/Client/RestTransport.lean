import A2A.Library.DotSegments
import A2A.Server.Transports.Rest
import A2A.Types

namespace A2A.Client

open Library Percent Server

/-! `RestTransport`: the method and the path of the request that each operation sends. -/

structure RestRequest where
  method : HttpMethod
  path : List Char

/-- What `URLSearchParams` keeps. -/
def formKept (char : Char) : Bool := char.isAlphanum || "-_.*".toList.contains char

def formEncode (text : List Char) : List Char :=
  text.flatMap (fun char => if char = ' ' then ['+'] else escapeChar formKept char)

/-- `URLSearchParams.toString` -/
def formString (params : List (String × String)) : List Char :=
  ['&'].intercalate (params.map (fun entry => formEncode entry.1.toList ++ '=' :: formEncode entry.2.toList))

/-- The query string behind a path, if there is one. -/
def query (params : List (String × String)) : List Char :=
  if formString params = [] then [] else '?' :: formString params

def setIfPresent (name : String) (value : Option String) : List (String × String) :=
  value.toList.map (name, ·)

def setIfTruthy (name value : String) : List (String × String) :=
  if value = "" then [] else [(name, value)]

def taskStateToJSON : TaskState → String
  | .unspecified => "TASK_STATE_UNSPECIFIED"
  | .submitted => "TASK_STATE_SUBMITTED"
  | .working => "TASK_STATE_WORKING"
  | .completed => "TASK_STATE_COMPLETED"
  | .failed => "TASK_STATE_FAILED"
  | .canceled => "TASK_STATE_CANCELED"
  | .inputRequired => "TASK_STATE_INPUT_REQUIRED"
  | .rejected => "TASK_STATE_REJECTED"
  | .authRequired => "TASK_STATE_AUTH_REQUIRED"
  | .unrecognized => "UNRECOGNIZED"

namespace RestTransport

def buildPath (path : List Char) (tenant : String) : List Char :=
  if tenant = "" then path else '/' :: (encodeURIComponent tenant.toList ++ path)

def getExtendedAgentCard (tenant : String) : RestRequest :=
  ⟨.get, buildPath "/extendedAgentCard".toList tenant⟩

def sendMessage (tenant : String) : RestRequest :=
  ⟨.post, buildPath "/message:send".toList tenant⟩

def sendMessageStream (tenant : String) : RestRequest :=
  ⟨.post, buildPath "/message:stream".toList tenant⟩

def taskPath (taskId : String) : List Char := "/tasks/".toList ++ encodeURIComponent taskId.toList

def configsPath (taskId : String) : List Char := taskPath taskId ++ "/pushNotificationConfigs".toList

def configPath (taskId id : String) : List Char :=
  configsPath taskId ++ '/' :: encodeURIComponent id.toList

def createTaskPushNotificationConfig (tenant taskId : String) : RestRequest :=
  ⟨.post, buildPath (configsPath taskId) tenant⟩

def getTaskPushNotificationConfig (tenant taskId id : String) : RestRequest :=
  ⟨.get, buildPath (configPath taskId id) tenant⟩

def listTaskPushNotificationConfig (tenant taskId : String) : RestRequest :=
  ⟨.get, buildPath (configsPath taskId) tenant⟩

def deleteTaskPushNotificationConfig (tenant taskId id : String) : RestRequest :=
  ⟨.delete, buildPath (configPath taskId id) tenant⟩

def getTaskQuery (historyLength : Option Int) : List Char :=
  query (setIfPresent "historyLength" (historyLength.map toString))

def getTask (tenant id : String) (historyLength : Option Int) : RestRequest :=
  ⟨.get, buildPath (taskPath id ++ getTaskQuery historyLength) tenant⟩

def cancelTask (tenant id : String) : RestRequest :=
  ⟨.post, buildPath (taskPath id ++ ":cancel".toList) tenant⟩

def listTasksQuery (params : ListTasksRequest) : List Char :=
  query
    (setIfTruthy "contextId" params.contextId ++
      setIfPresent "status"
        (if params.status = .unspecified then none else some (taskStateToJSON params.status)) ++
      setIfPresent "pageSize" (params.pageSize.map toString) ++
      setIfTruthy "pageToken" params.pageToken ++
      setIfPresent "historyLength" (params.historyLength.map toString) ++
      setIfTruthy "statusTimestampAfter" (params.statusTimestampAfter.getD "") ++
      setIfPresent "includeArtifacts" (params.includeArtifacts.map toString))

def listTasks (params : ListTasksRequest) : RestRequest :=
  ⟨.get, buildPath ("/tasks".toList ++ listTasksQuery params) params.tenant⟩

def resubscribeTask (tenant id : String) : RestRequest :=
  ⟨.post, buildPath (taskPath id ++ ":subscribe".toList) tenant⟩

end RestTransport

/-- A call of one of the transport's operations, with what its path is built from. -/
inductive RestCall where
  | getExtendedAgentCard (tenant : String)
  | sendMessage (tenant : String)
  | sendMessageStream (tenant : String)
  | createTaskPushNotificationConfig (tenant taskId : String)
  | getTaskPushNotificationConfig (tenant taskId id : String)
  | listTaskPushNotificationConfig (tenant taskId : String)
  | deleteTaskPushNotificationConfig (tenant taskId id : String)
  | getTask (tenant id : String) (historyLength : Option Int)
  | cancelTask (tenant id : String)
  | listTasks (params : ListTasksRequest)
  | resubscribeTask (tenant id : String)

namespace RestCall

def request : RestCall → RestRequest
  | .getExtendedAgentCard tenant => RestTransport.getExtendedAgentCard tenant
  | .sendMessage tenant => RestTransport.sendMessage tenant
  | .sendMessageStream tenant => RestTransport.sendMessageStream tenant
  | .createTaskPushNotificationConfig tenant taskId =>
      RestTransport.createTaskPushNotificationConfig tenant taskId
  | .getTaskPushNotificationConfig tenant taskId id =>
      RestTransport.getTaskPushNotificationConfig tenant taskId id
  | .listTaskPushNotificationConfig tenant taskId =>
      RestTransport.listTaskPushNotificationConfig tenant taskId
  | .deleteTaskPushNotificationConfig tenant taskId id =>
      RestTransport.deleteTaskPushNotificationConfig tenant taskId id
  | .getTask tenant id historyLength => RestTransport.getTask tenant id historyLength
  | .cancelTask tenant id => RestTransport.cancelTask tenant id
  | .listTasks params => RestTransport.listTasks params
  | .resubscribeTask tenant id => RestTransport.resubscribeTask tenant id

/-- The operation that the call asks for. -/
def operation : RestCall → HandlerMethod
  | .getExtendedAgentCard _ => .getAuthenticatedExtendedAgentCard
  | .sendMessage _ => .sendMessage
  | .sendMessageStream _ => .sendMessageStream
  | .createTaskPushNotificationConfig _ _ => .createTaskPushNotificationConfig
  | .getTaskPushNotificationConfig _ _ _ => .getTaskPushNotificationConfig
  | .listTaskPushNotificationConfig _ _ => .listTaskPushNotificationConfigs
  | .deleteTaskPushNotificationConfig _ _ _ => .deleteTaskPushNotificationConfig
  | .getTask _ _ _ => .getTask
  | .cancelTask _ _ => .cancelTask
  | .listTasks _ => .listTasks
  | .resubscribeTask _ _ => .resubscribe

def tenant : RestCall → String
  | .getExtendedAgentCard tenant | .sendMessage tenant | .sendMessageStream tenant
  | .createTaskPushNotificationConfig tenant _ | .getTaskPushNotificationConfig tenant _ _
  | .listTaskPushNotificationConfig tenant _ | .deleteTaskPushNotificationConfig tenant _ _
  | .getTask tenant _ _ | .cancelTask tenant _ | .resubscribeTask tenant _ => tenant
  | .listTasks params => params.tenant

/-- The ids that the call names. -/
def ids : RestCall → List (PathParam × String)
  | .getExtendedAgentCard _ | .sendMessage _ | .sendMessageStream _ | .listTasks _ => []
  | .createTaskPushNotificationConfig _ taskId | .listTaskPushNotificationConfig _ taskId =>
      [(.taskId, taskId)]
  | .getTaskPushNotificationConfig _ taskId id | .deleteTaskPushNotificationConfig _ taskId id =>
      [(.taskId, taskId), (.configId, id)]
  | .getTask _ id _ | .cancelTask _ id | .resubscribeTask _ id => [(.taskId, id)]

/-- What the path of the call names: its ids, and its tenant unless that is empty. -/
def names (call : RestCall) : List (PathParam × String) :=
  (if call.tenant = "" then [] else [(.tenant, call.tenant)]) ++ call.ids

end RestCall

/-- Where a request goes that `fetch` sends behind an endpoint, at which the server has mounted its routes. -/
def RestRequest.fetched (mount : DotSegments.Mount) (request : RestRequest) :
    Router.Dispatch PathParam HandlerMethod :=
  match mount.arriving request.path with
  | some path => routeRequest RestHandler.routes request.method path
  | none => .notFound

end A2A.Client
