import A2A.Library.Transition
import A2A.Server.RequestHandler.Steps

namespace A2A.Server

open Library

/-! The request handler with its stores, locks, buses and calls as one transition system.

A label names the call that takes the step and every choice the environment
makes in it: the outcome of an awaited operation, a published event, the
settlement of `execute()`.  Any interleaving of the calls is a list of labels.
-/

/-- A completed save, kept for the history of a row. -/
structure SavedWrite where
  pid : Pid
  scope : Scope
  taskId : String
  write : Write

/-- A call of `eventBus.publish`, kept for the history of a bus. -/
structure Publication where
  pid : Pid
  bus : BusId
  id : EventId
  event : AgentExecutionEvent

structure State where
  taskStore : InMemoryTaskStore
  pushNotificationStore : InMemoryPushNotificationStore
  /-- `taskWriteLocks`: for each key the calls in its promise chain, the running one first. -/
  locks : String → List Pid
  taskIdToBus : String → Option BusId
  events : EventId → Option AgentExecutionEvent
  calls : Pid → Option Call
  /-- History only. -/
  writes : List SavedWrite
  publications : List Publication

/-- What the synthetic failure events read from the clock and the random source, and
the identities of the two event objects. -/
structure FailureFresh where
  taskMessageUuid : String
  statusMessageUuid : String
  taskTimestamp : String
  statusTimestamp : String
  taskEvent : EventId
  statusEvent : EventId

inductive Action where
  | call (request : Request) (context : ServerCallContext)
      (requestedExtensions : Option (List String)) (fresh : Fresh)
  | resume (fate : Fate)
  | publish (id : EventId) (event : AgentExecutionEvent)
  | finishBus
  | executorSettled (result : Except String Unit)
  | executorReaped (fresh : FailureFresh)
  | abandon

structure Label where
  pid : Pid
  action : Action

namespace State

def view (state : State) (pid : Pid) (scope : Scope) : View where
  load := state.taskStore.load scope
  bucket := (state.taskStore.scopedStore.bucket scope).values
  pushConfigs := state.pushNotificationStore.load scope
  eventBus := state.taskIdToBus
  event := state.events
  holdsLock := fun key => (state.locks key).head? = some pid

def setCall (state : State) (pid : Pid) (call : Call) : State :=
  { state with calls := Function.update state.calls pid (some call) }

/-- A bus listener is run in every call. -/
def mapCalls (state : State) (listener : Call → Call) : State :=
  { state with calls := fun pid => (state.calls pid).map listener }

def apply (pid : Pid) (state : State) : Effect → State
  | .saveTask scope task write =>
      { state with
        taskStore := state.taskStore.save scope task
        writes := state.writes ++ [⟨pid, scope, task.id, write⟩] }
  | .savePushConfig scope taskId requestedVersion config uuid =>
      { state with
        pushNotificationStore :=
          state.pushNotificationStore.save scope taskId requestedVersion config uuid }
  | .deletePushConfig scope taskId configId =>
      { state with
        pushNotificationStore := state.pushNotificationStore.delete scope taskId (some configId) }
  | .acquire key =>
      { state with locks := Function.update state.locks key (state.locks key ++ [pid]) }
  | .release key =>
      { state with locks := Function.update state.locks key ((state.locks key).erase pid) }
  | .register taskId bus =>
      { state with taskIdToBus := Function.update state.taskIdToBus taskId (some bus) }
  | .cleanup taskId =>
      let unregistered :=
        { state with taskIdToBus := Function.update state.taskIdToBus taskId none }
      match state.taskIdToBus taskId with
      | some bus => unregistered.mapCalls (Call.removeListeners bus)
      | none => unregistered
  | .publish bus id event =>
      { state.mapCalls (Call.receive bus id event) with
        events := Function.update state.events id (some event)
        publications := state.publications ++ [⟨pid, bus, id, event⟩] }
  | .finished bus => state.mapCalls (Call.receiveFinished bus)
  | .trim id historyLength =>
      { state with
        events := Function.update state.events id
          ((state.events id).map (AgentExecutionEvent.trim historyLength)) }

/-- The step of one call: its new record, then its effects in order. -/
def commit (state : State) (pid : Pid) (result : Call × List Effect) : State :=
  result.2.foldl (apply pid) (state.setCall pid result.1)

end State

/-- The bus an executor was handed: `execute` gets its call's bus, `cancelTask` the bus
its call has attached to. -/
def Call.executorBus (call : Call) : Option BusId :=
  match call.request with
  | .cancelTask _ => call.eventQueue.map Queue.eventBus
  | _ => call.execution.map Execution.eventBus

namespace Execution

/-- The task both runners synthesize for a rejected `execute()`.  `task` is the request context's
task as it is when the rejection is handled. -/
def errorTask (execution : Execution) (task : Option Task)
    (errorMessage messageUuid timestamp : String) : Task :=
  let context := execution.requestContext
  let message := context.userMessage
  let history := (task.map Task.history).getD []
  { id := context.taskId
    contextId := message.contextId
    status := some {
      state := .failed
      message := some (agentMessage messageUuid context.taskId message.contextId
        ("Agent execution error: " ++ errorMessage))
      timestamp := some timestamp }
    artifacts := []
    history := if hasMessage history message.messageId then history else history ++ [message]
    metadata := some .empty }

/-- The two events `_runExecutor` publishes for a rejection. -/
def failureEvents (execution : Execution) (task : Option Task) (errorMessage : String)
    (fresh : FailureFresh) : List (EventId × AgentExecutionEvent) :=
  let errorTask :=
    execution.errorTask task errorMessage fresh.taskMessageUuid fresh.taskTimestamp
  [(fresh.taskEvent, .task errorTask),
    (fresh.statusEvent, .statusUpdate {
      taskId := errorTask.id
      contextId := errorTask.contextId
      status := errorTask.status
      metadata := some .empty })]

/-- The events `_runStreamExecutor` publishes for a rejection: the task only when the
executor has published none. -/
def streamFailureEvents (execution : Execution) (task : Option Task) (errorMessage : String)
    (fresh : FailureFresh) : List (EventId × AgentExecutionEvent) :=
  let context := execution.requestContext
  let taskId := (execution.tracker.lastTask.map Task.id).getD context.taskId
  let contextId := (execution.tracker.lastTask.map Task.contextId).getD context.userMessage.contextId
  let errorTask :=
    execution.errorTask task errorMessage fresh.taskMessageUuid fresh.taskTimestamp
  let update := (fresh.statusEvent, .statusUpdate {
    taskId, contextId
    status := some {
      state := .failed
      message := some (agentMessage fresh.statusMessageUuid taskId contextId
        ("Agent execution error: " ++ errorMessage))
      timestamp := some fresh.statusTimestamp }
    metadata := some .empty })
  if execution.tracker.lastTask.isSome then [update]
  else [(fresh.taskEvent, .task errorTask), update]

def publishAll (execution : Execution) (events : List (EventId × AgentExecutionEvent)) :
    List Effect :=
  events.map (fun entry => .publish execution.eventBus entry.1 entry.2)

/-- `_settleBus` -/
def settleBus (keepBusAliveStates : List TaskState) (execution : Execution) : List Effect :=
  if execution.tracker.lastState.any keepBusAliveStates.contains then []
  else [.finished execution.eventBus, .cleanup execution.requestContext.taskId]

/-- One promise job chained to `execute()`: the rejection handler, then the `finally`.
The streaming handler reads its tracker, and so detaches it, before it publishes. -/
def reap (keepBusAliveStates : List TaskState) (streaming : Bool) (execution : Execution)
    (task : Option Task) (fresh : FailureFresh) : Option (Execution × List Effect) :=
  match execution.phase with
  | .rejected errorMessage =>
      if streaming then
        some ({ execution with tracker := execution.tracker.detach, phase := .settling true },
          execution.publishAll (execution.streamFailureEvents task errorMessage fresh))
      else
        some ({ execution with phase := .settling true },
          execution.publishAll (execution.failureEvents task errorMessage fresh))
  | .settling failed =>
      some ({ execution with tracker := execution.tracker.detach, phase := .settled failed },
        execution.settleBus keepBusAliveStates)
  | .running | .settled _ => none

end Execution

def Call.isStream (call : Call) : Bool :=
  match call.request with
  | .sendMessageStream _ => true
  | _ => false

namespace State

def beginCall (handler : Handler) (state : State) (pid : Pid) (request : Request)
    (context : ServerCallContext) (requestedExtensions : Option (List String)) (fresh : Fresh) :
    Option State :=
  match state.calls pid with
  | some _ => none
  | none =>
      let view := state.view pid (handler.scope context)
      some (state.setCall pid (handler.begin view request context requestedExtensions fresh))

def resumeCall (handler : Handler) (state : State) (pid : Pid) (call : Call) (fate : Fate) :
    Option State :=
  (call.resume handler (state.view pid (handler.scope call.context)) pid fate).map
    (state.commit pid)

def publish (state : State) (pid : Pid) (call : Call) (id : EventId)
    (event : AgentExecutionEvent) : Option State :=
  match call.executorBus, state.events id with
  | some bus, none =>
      if call.mayPublish pid id event then
        some (state.commit pid (call, [.publish bus id event]))
      else none
  | _, _ => none

def finishBus (state : State) (pid : Pid) (call : Call) : Option State :=
  call.executorBus.map (fun bus => state.commit pid (call, [.finished bus]))

def executorSettled (state : State) (pid : Pid) (call : Call) (result : Except String Unit) :
    Option State :=
  match call.execution with
  | none => none
  | some execution =>
      if execution.phase = .running then
        let phase := match result with
          | .ok _ => .settling false
          | .error errorMessage => .rejected errorMessage
        some (state.setCall pid { call with execution := some { execution with phase } })
      else none

/-- The task of the request context as it is now: once the executor has published the object, a
truncation of the event changes it. -/
def contextTask (state : State) (pid : Pid) (execution : Execution) : Option Task :=
  match state.events (.contextTask pid) with
  | some (.task data) => some data
  | _ => execution.requestContext.task

def executorReaped (handler : Handler) (state : State) (pid : Pid) (call : Call)
    (fresh : FailureFresh) : Option State :=
  match call.execution with
  | none => none
  | some execution =>
      if (state.events fresh.taskEvent).isNone ∧ (state.events fresh.statusEvent).isNone ∧
          fresh.taskEvent ≠ fresh.statusEvent ∧
          fresh.taskEvent.isMade ∧ fresh.statusEvent.isMade then
        (execution.reap handler.keepBusAliveStates call.isStream
          (state.contextTask pid execution) fresh).map (fun result =>
            state.commit pid ({ call with execution := some result.1 }, result.2))
      else none

def step (handler : Handler) (state : State) (label : Label) : Option State :=
  match label.action with
  | .call request context requestedExtensions fresh =>
      state.beginCall handler label.pid request context requestedExtensions fresh
  | action =>
      match state.calls label.pid with
      | none => none
      | some call =>
          match action with
          | .call _ _ _ _ => none
          | .resume fate => state.resumeCall handler label.pid call fate
          | .publish id event => state.publish label.pid call id event
          | .finishBus => state.finishBus label.pid call
          | .executorSettled result => state.executorSettled label.pid call result
          | .executorReaped fresh => state.executorReaped handler label.pid call fresh
          | .abandon => call.abandon.map (state.setCall label.pid)

/-- No call of the handler and no executor run exists. -/
def initial (taskStore : InMemoryTaskStore) (pushNotificationStore : InMemoryPushNotificationStore)
    (taskIdToBus : String → Option BusId) : State where
  taskStore := taskStore
  pushNotificationStore := pushNotificationStore
  locks := fun _ => []
  taskIdToBus := taskIdToBus
  events := fun _ => none
  calls := fun _ => none
  writes := []
  publications := []

/-- No executor is running and no promise job is pending. -/
def Quiescent (state : State) : Prop :=
  ∀ pid call, state.calls pid = some call → call.idle = true ∧ call.executorDone = true

/-- The row of a task as a scope sees it. -/
def row (state : State) (scope : Scope) (taskId : String) : Option Task :=
  state.taskStore.load scope taskId

end State

def handlerSystem (handler : Handler) : System State Label where
  step := State.step handler

end A2A.Server
