import A2A.Types

namespace A2A.Server

inductive AgentExecutionEvent where
  | message (data : Message)
  | task (data : Task)
  | statusUpdate (data : TaskStatusUpdateEvent)
  | artifactUpdate (data : TaskArtifactUpdateEvent)

def terminalStateList : List TaskState := [.completed, .failed, .canceled, .rejected]

def inputRequiredStateList : List TaskState := [.inputRequired]

def authRequiredStateList : List TaskState := [.authRequired]

def interruptedStateList : List TaskState := inputRequiredStateList ++ authRequiredStateList

/-- Ordering patterns a stream of events can follow. -/
inductive StreamPattern where
  | undetermined
  | messageOnly
  | taskLifecycle
deriving DecidableEq, Repr

namespace AgentExecutionEvent

def kind : AgentExecutionEvent → String
  | .message _ => "message"
  | .task _ => "task"
  | .statusUpdate _ => "statusUpdate"
  | .artifactUpdate _ => "artifactUpdate"

/-- The task whose row the event is merged into; a message is merged into none. -/
def target : AgentExecutionEvent → Option String
  | .message _ => none
  | .task data => some data.id
  | .statusUpdate data => some data.taskId
  | .artifactUpdate data => some data.taskId

/-- The status an event carries: only task events and status updates have one. -/
def status : AgentExecutionEvent → Option TaskStatus
  | .task data => data.status
  | .statusUpdate data => data.status
  | .message _ | .artifactUpdate _ => none

/-- `event.data.status?.state`, as the executor's state trackers read it. -/
def state (event : AgentExecutionEvent) : Option TaskState := event.status.map TaskStatus.state

/-- The condition under which `ExecutionEventQueue.events` ends after a yield. -/
def endsQueue : AgentExecutionEvent → Bool
  | .message _ => true
  | .statusUpdate data =>
      match data.status with
      | some status =>
          terminalStateList.contains status.state || inputRequiredStateList.contains status.state
      | none => false
  | .task _ | .artifactUpdate _ => false

/-- `AUTH_REQUIRED_STATE_LIST.includes(event.data.status.state)` for a status update. -/
def requiresAuth : AgentExecutionEvent → Bool
  | .statusUpdate data =>
      match data.status with
      | some status => authRequiredStateList.contains status.state
      | none => false
  | .message _ | .task _ | .artifactUpdate _ => false

/-- The raw stream response of an event, before any stored task replaces it. -/
def toStreamResponse : AgentExecutionEvent → StreamResponse
  | .message data => .message data
  | .task data => .task data
  | .statusUpdate data => .statusUpdate data
  | .artifactUpdate data => .artifactUpdate data

end AgentExecutionEvent

/-- `_advanceStreamPattern`; the error is the text of the exception it throws. -/
def advanceStreamPattern (event : AgentExecutionEvent) :
    StreamPattern → Except String StreamPattern
  | .undetermined =>
      match event with
      | .message _ => .ok .messageOnly
      | .task _ => .ok .taskLifecycle
      | _ => .error ("Received " ++ event.kind ++ " before initial 'Message'/'Task' event.")
  | .messageOnly => .error ("Received " ++ event.kind ++ " after message-only response.")
  | .taskLifecycle =>
      match event with
      | .statusUpdate _ | .artifactUpdate _ => .ok .taskLifecycle
      | _ => .error ("Stream ordering violation: received " ++ event.kind ++
          " in task lifecycle stream.")

/-- `_applyHistoryLengthSemantics` -/
def applyHistoryLengthSemantics (historyLength : Option Int) (task : Task) : Task :=
  match historyLength with
  | none => task
  | some length =>
      if length ≤ 0 then { task with history := [] }
      else { task with history := task.history.drop (task.history.length - length.toNat) }

/-- What an in-place trim of `event.data` does to an event object. -/
def AgentExecutionEvent.trim (historyLength : Option Int) :
    AgentExecutionEvent → AgentExecutionEvent
  | .task data => .task (applyHistoryLengthSemantics historyLength data)
  | event => event

end A2A.Server
