import A2A.Compat.Translate
import A2A.Library.Decimal
import A2A.Server.RequestHandler.Steps

namespace A2A.Compat

open Library Server

/-! The three v0.3 transports on the two requests that return a task with its history. -/

/-- What the transports reach of the request handler: the stored tasks of the caller, and the task
with which the run of a sent message ends. -/
structure Handler where
  load : String → Option A2A.Task
  ended : A2A.Task

namespace Handler

/-- `DefaultRequestHandler.getTask` -/
def getTask (handler : Handler) (id : String) (historyLength : Option Int) :
    Except CompatError A2A.Task :=
  match handler.load id with
  | none => .error (.taskNotFound ("Task not found: " ++ id))
  | some task => .ok (applyHistoryLengthSemantics historyLength task)

/-- The task that `DefaultRequestHandler.sendMessage` returns. -/
def sendMessage (handler : Handler) (request : A2A.SendMessageRequest) : A2A.Task :=
  applyHistoryLengthSemantics (historyLengthOf request) handler.ended

end Handler

namespace JsonRpc

def getTask (handler : Handler) (params : Legacy.TaskQueryParams) : Except CompatError Legacy.Task := do
  let core ← handler.getTask params.id params.historyLength
  toCompatTask core

def sendMessage (handler : Handler) (params : Legacy.MessageSendParams) :
    Except CompatError Legacy.Task := do
  let request ← toCoreSendMessageRequest params ""
  toCompatTask (handler.sendMessage request)

end JsonRpc

namespace Rest

def parseHistoryLength (value : String) : Except CompatError Int :=
  match Decimal.parseInt value with
  | none => .error (.invalidParams "historyLength must be a valid integer")
  | some parsed =>
      if parsed < 0 then .error (.invalidParams "historyLength must be non-negative") else .ok parsed

/-- `parseHistoryLength` where the query may name none. -/
def parseHistoryLength? : Option String → Except CompatError (Option Int)
  | none => .ok none
  | some value => (parseHistoryLength value).map some

/-- `GET /v1/tasks/:taskId` with the query's `historyLength ?? history_length`. -/
def getTask (handler : Handler) (taskId : String) (historyLength : Option String) :
    Except CompatError Proto.Task := do
  let parsed ← parseHistoryLength? historyLength
  let core ← handler.getTask taskId parsed
  let task ← toCompatTask core
  ToProto.task task

def validateMessageSendParams (params : Legacy.MessageSendParams) : Except CompatError Unit :=
  if params.message.messageId = "" then .error (.invalidParams "message.messageId is required") else .ok ()

/-- `POST /v1/message:send`, whose body is the protobuf request in JSON. -/
def sendMessage (handler : Handler) (tenant : String) (body : Proto.SendMessageRequest) :
    Except CompatError Proto.Task := do
  let params ← FromProto.messageSendParams body
  validateMessageSendParams params
  let request ← toCoreSendMessageRequest params tenant
  let task ← toCompatTask (handler.sendMessage request)
  ToProto.task task

end Rest

namespace Grpc

def getTask (handler : Handler) (request : Proto.GetTaskRequest) : Except CompatError Proto.Task := do
  let params ← FromProto.taskQueryParams request
  let core ← handler.getTask params.id params.historyLength
  let task ← toCompatTask core
  ToProto.task task

def sendMessage (handler : Handler) (request : Proto.SendMessageRequest) :
    Except CompatError Proto.Task := do
  let params ← FromProto.messageSendParams request
  let coreRequest ← toCoreSendMessageRequest params ""
  let task ← toCompatTask (handler.sendMessage coreRequest)
  ToProto.task task

end Grpc

end A2A.Compat
