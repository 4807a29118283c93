import A2A.Server.Stores
import A2A.Server.ResultManager

namespace A2A.Server

/-! One call of `DefaultRequestHandler`, from its request to its settled promise.

A call's record holds everything the source keeps in local variables, in the
call's own `ResultManager`, in its `ExecutionEventQueue` and in the execution it
starts.  The program counter names the `await` the call is suspended at.
-/

/-- A call, and the bus that the call creates when the registry has none. -/
abbrev Pid := Nat

abbrev BusId := Nat

/-- The identity of a published event object, which every queue on the bus shares: an object made
for the event, or the task in the request context of a call. -/
inductive EventId where
  | made (number : Nat)
  | contextTask (owner : Pid)
deriving DecidableEq, Repr

namespace EventId

instance (number : Nat) : OfNat EventId number := ⟨.made number⟩

def isMade : EventId → Bool
  | .made _ => true
  | .contextTask _ => false

end EventId

/-- An `ExecutionEventQueue`.  Its two listeners are always registered and
removed together. -/
structure Queue where
  eventBus : BusId
  eventQueue : List EventId
  stopped : Bool
  attached : Bool

namespace Queue

def new (eventBus : BusId) : Queue := ⟨eventBus, [], false, true⟩

/-- `handleEvent`, for an event dispatched on the bus `bus`. -/
def handleEvent (queue : Queue) (bus : BusId) (event : EventId) : Queue :=
  if queue.attached = true ∧ queue.eventBus = bus ∧ queue.stopped = false then
    { queue with eventQueue := queue.eventQueue ++ [event] }
  else queue

def stop (queue : Queue) : Queue := { queue with stopped := true, attached := false }

/-- `handleFinished`, for a `finished` event on the bus `bus`. -/
def handleFinished (queue : Queue) (bus : BusId) : Queue :=
  if queue.attached = true ∧ queue.eventBus = bus then queue.stop else queue

/-- `bus.removeAllListeners()`, seen from the queue. -/
def removeListeners (queue : Queue) (bus : BusId) : Queue :=
  if queue.eventBus = bus then { queue with attached := false } else queue

end Queue

/-- The listener of `trackLatestTaskState` and `trackLatestTaskAndState`. -/
structure Tracker where
  attached : Bool
  lastTask : Option Task
  lastState : Option TaskState

namespace Tracker

def new : Tracker := ⟨true, none, none⟩

def listener (tracker : Tracker) (event : AgentExecutionEvent) : Tracker :=
  { tracker with
    lastTask := match event with
      | .task data => some data
      | _ => tracker.lastTask
    lastState := event.state <|> tracker.lastState }

def detach (tracker : Tracker) : Tracker := { tracker with attached := false }

end Tracker

structure RequestContext where
  userMessage : Message
  taskId : String
  contextId : String
  task : Option Task
  referenceTasks : Option (List Task)

/-- Where the promise returned by `execute()` and the handlers chained to it are.
`failed` remembers that the rejection handler ran. -/
inductive Phase where
  | running
  | rejected (errorMessage : String)
  | settling (failed : Bool)
  | settled (failed : Bool)
deriving DecidableEq, Repr

structure Execution where
  requestContext : RequestContext
  eventBus : BusId
  tracker : Tracker
  phase : Phase

namespace Execution

/-- The tracker's listener, for an event dispatched on the bus `bus`. -/
def receive (bus : BusId) (event : AgentExecutionEvent) (execution : Execution) : Execution :=
  if execution.tracker.attached = true ∧ execution.eventBus = bus then
    { execution with tracker := execution.tracker.listener event }
  else execution

def removeListeners (bus : BusId) (execution : Execution) : Execution :=
  if execution.eventBus = bus then { execution with tracker := execution.tracker.detach }
  else execution

end Execution

def Phase.done : Phase → Bool
  | .settled _ => true
  | _ => false

inductive Request where
  | sendMessage (params : SendMessageRequest)
  | sendMessageStream (params : SendMessageRequest)
  | cancelTask (id : String)
  | resubscribe (id : String)
  | getTask (id : String) (historyLength : Option Int)
  | listTasks (params : ListTasksRequest)
  | createTaskPushNotificationConfig (params : TaskPushNotificationConfig)
  | getTaskPushNotificationConfig (taskId id : String)
  | listTaskPushNotificationConfigs (taskId : String)
  | deleteTaskPushNotificationConfig (taskId id : String)

inductive ServerError where
  | requestMalformed (message : String)
  | taskNotFound (message : String)
  | taskNotCancelable (message : String)
  | unsupportedOperation (message : String)
  | extensionSupportRequired (message : String)
  | pushNotificationNotSupported
  | a2a (message : String)
  | typeError
  | external (message : String)
deriving DecidableEq, Repr

inductive Outcome where
  | message (value : Message)
  | task (value : Task)
  | tasks (value : ListTasksResponse)
  | config (value : TaskPushNotificationConfig)
  | configs (values : List TaskPushNotificationConfig)
  | done
  | error (reason : ServerError)

/-- Random identifiers and the clock, as the call reads them. -/
structure Fresh where
  taskUuid : String
  contextUuid : String
  messageUuid : String
  configUuid : String
  timestamp : String

/-- An event in the loop: one taken from the bus, or the failure update that
`_handleProcessingError` makes itself. -/
inductive EventRef where
  | published (id : EventId)
  | own (event : AgentExecutionEvent)

/-- The `await` a call is suspended at. -/
inductive Pc where
  | loadTask (message : Message)
  | saveHistory (message : Message) (task : Task)
  | loadReferences (message : Message) (task : Option Task) (taskId : String)
      (pending : List String) (loaded : List Task)
  | getAgentCard (message : Message) (task : Option Task) (taskId : String)
      (referenceTasks : Option (List Task))
  | savePushConfig (requestContext : RequestContext) (config : TaskPushNotificationConfig)
  | pull
  | lock (event : EventRef) (key : Option String)
  | save (event : EventRef) (key : Option String) (merged : AgentExecutionEvent)
  | map (event : EventId)
  | suspended (last : Option EventId)
  | cancelLoad
  | cancelExecute
  | cancelSave (task : Task)
  | cancelReload
  | resubscribeLoad
  | getTaskLoad
  | listTasks
  | configLoadTask
  | configApply
  | finished

/-- The lock key of the section a call is in or waits for. -/
def Pc.key : Pc → Option String
  | .lock _ key | .save _ key _ => key
  | _ => none

structure Call where
  request : Request
  context : ServerCallContext
  fresh : Fresh
  requestedExtensions : Option (List String)
  pc : Pc
  resultManager : ResultManager
  eventQueue : Option Queue
  execution : Option Execution
  outcome : Option Outcome
  yielded : List StreamResponse
  notifications : List (StreamResponse × Option Task)
  firstResultSent : Bool
  authRequiredSnapshotSent : Bool
  streamPattern : StreamPattern
  /-- History only: the events this call's queue accepted, and those its loop has merged
  (or, when resubscribed, looked at), with their value at that moment. -/
  received : List (EventId × AgentExecutionEvent)
  handled : List (EventId × AgentExecutionEvent)

/-- The static part of a handler. -/
structure Handler where
  agentCard : AgentCard
  ownerResolver : OwnerResolver
  keepBusAliveStates : List TaskState
  agentCardSignatureGenerator : Option (AgentCard → AgentCard)
  runtime : Runtime

namespace Handler

def scope (handler : Handler) (context : ServerCallContext) : Scope :=
  scopeOf handler.ownerResolver context

/-- `getAgentCard` -/
def servedCard (handler : Handler) : AgentCard :=
  match handler.agentCardSignatureGenerator with
  | some sign => sign handler.agentCard
  | none => handler.agentCard

def pushNotifications (handler : Handler) : Bool :=
  (handler.agentCard.capabilities.map AgentCapabilities.pushNotifications).getD false

def streaming (handler : Handler) : Bool :=
  (handler.agentCard.capabilities.map AgentCapabilities.streaming).getD false

end Handler

/-- Why a row was saved; `Effect.saveTask` records it beside the saved task. -/
inductive Write where
  | append (message : Message)
  | cancel (status : TaskStatus)
  | event (latestUserMessage : Option Message) (event : AgentExecutionEvent)

/-- What a step does outside its own call's record. -/
inductive Effect where
  | saveTask (scope : Scope) (task : Task) (write : Write)
  | savePushConfig (scope : Scope) (taskId requestedVersion : String)
      (config : TaskPushNotificationConfig) (uuid : String)
  | deletePushConfig (scope : Scope) (taskId configId : String)
  | acquire (key : String)
  | release (key : String)
  | register (taskId : String) (bus : BusId)
  | cleanup (taskId : String)
  | publish (bus : BusId) (id : EventId) (event : AgentExecutionEvent)
  | finished (bus : BusId)
  | trim (id : EventId) (historyLength : Option Int)

/-- What a step may read outside its own call's record. -/
structure View where
  load : String → Option Task
  /-- The rows of the caller's bucket. -/
  bucket : List Task
  pushConfigs : String → List TaskPushNotificationConfig
  eventBus : String → Option BusId
  event : EventId → Option AgentExecutionEvent
  holdsLock : String → Bool

/-- Did the operation the call waits for succeed? -/
inductive Fate where
  | ok
  | fail (error : String)
deriving DecidableEq, Repr

namespace Call

/-- Promise settlement is one-shot. -/
def settle (call : Call) (outcome : Outcome) : Call :=
  { call with outcome := call.outcome <|> some outcome }

def finish (call : Call) (outcome : Outcome) : Call :=
  { call.settle outcome with pc := .finished }

def reject (call : Call) (reason : ServerError) : Call := call.finish (.error reason)

def stopQueue (call : Call) : Call :=
  { call with eventQueue := call.eventQueue.map Queue.stop }

/-- `eventBus.on` listeners run for a published event. -/
def receive (bus : BusId) (id : EventId) (event : AgentExecutionEvent) (call : Call) : Call :=
  { call with
    received :=
      match call.eventQueue with
      | some queue =>
          if queue.attached = true ∧ queue.eventBus = bus ∧ queue.stopped = false then
            call.received ++ [(id, event)]
          else call.received
      | none => call.received
    eventQueue := call.eventQueue.map (fun queue => queue.handleEvent bus id)
    execution := call.execution.map (Execution.receive bus event) }

def receiveFinished (bus : BusId) (call : Call) : Call :=
  { call with eventQueue := call.eventQueue.map (fun queue => queue.handleFinished bus) }

def removeListeners (bus : BusId) (call : Call) : Call :=
  { call with
    eventQueue := call.eventQueue.map (fun queue => queue.removeListeners bus)
    execution := call.execution.map (Execution.removeListeners bus) }

/-- No step of the call itself is pending: it has returned, its consumer is
suspended at a yield, or its queue is empty and still open. -/
def idle (call : Call) : Bool :=
  match call.pc with
  | .finished | .suspended _ => true
  | .pull =>
      match call.eventQueue with
      | some queue => queue.eventQueue.isEmpty && !queue.stopped
      | none => true
  | _ => false

/-- An executor publishes an object of its own, or the task that its request context has given it. -/
def mayPublish (pid : Pid) (call : Call) : EventId → AgentExecutionEvent → Bool
  | .made _, _ => true
  | .contextTask owner, .task _ =>
      owner == pid && (call.execution.bind fun execution => execution.requestContext.task).isSome
  | .contextTask _, _ => false

def executorDone (call : Call) : Bool :=
  match call.execution with
  | some execution => execution.phase.done
  | none => true

end Call

end A2A.Server
