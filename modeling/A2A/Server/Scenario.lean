import A2A.Library.Base64
import A2A.Server.Semantics.Listeners

namespace A2A.Server.Scenario

open Library

/-! Requests, events and schedules from which concrete runs are put together. -/

def card (streaming pushNotifications : Bool) : AgentCard where
  capabilities := some { streaming, pushNotifications, extensions := [] }

/-- A runtime whose strings sort by code point, and whose encodings change nothing. -/
def runtime : Runtime where
  localeCompare := compare
  dateParse := fun _ => none
  toBase64 := id
  fromBase64 := id

/-- Base64 over UTF-8, and strings compared by code point, as they are on timestamps. -/
def utf8Runtime : Runtime where
  localeCompare := compare
  dateParse := fun _ => none
  toBase64 := fun text => Base64.encode text.toByteArray.data.toList
  fromBase64 := fun token =>
    (String.fromUTF8? ⟨(Base64.decode token).toArray⟩).getD "\uFFFD"

/-- A handler with the default options and the default owner resolver. -/
def server (pushNotifications : Bool) : Handler where
  agentCard := card true pushNotifications
  ownerResolver := resolveUserScope
  keepBusAliveStates := interruptedStateList
  agentCardSignatureGenerator := none
  runtime := runtime

def context (tenant userName : String) : ServerCallContext where
  tenant := some tenant
  user := some { userName, isAuthenticated := true }
  requestedVersion := "1.0"
  state := .empty

def fresh (taskUuid : String) : Fresh where
  taskUuid := taskUuid
  contextUuid := "ctx"
  messageUuid := "generated"
  configUuid := "config"
  timestamp := "now"

def failureFresh (taskEvent statusEvent : EventId) : FailureFresh where
  taskMessageUuid := "failure"
  statusMessageUuid := "failure"
  taskTimestamp := "now"
  statusTimestamp := "now"
  taskEvent := taskEvent
  statusEvent := statusEvent

def textPart (text : String) : Part := ⟨some (.text text), none, "", "text/plain"⟩

def message (messageId taskId : String) : Message where
  messageId := messageId
  contextId := ""
  taskId := taskId
  role := .user
  parts := [textPart messageId]
  metadata := none
  extensions := []
  referenceTaskIds := []

def status (state : TaskState) : TaskStatus where
  state := state
  message := none
  timestamp := none

def task (id : String) (state : TaskState) : Task where
  id := id
  contextId := "ctx"
  status := some (status state)
  artifacts := []
  history := []
  metadata := none

def stampedTask (id timestamp : String) : Task :=
  { task id .working with status := some { status .working with timestamp := some timestamp } }

def aliceScope : Scope := ⟨"", "alice"⟩

def storeOf (tasks : List Task) : InMemoryTaskStore :=
  tasks.foldl (fun store task => store.save aliceScope task) .empty

/-- Three tasks, the latest first. -/
def threeTasks : List Task :=
  [stampedTask "t1" "2026-01-03", stampedTask "t2|x" "2026-01-02", stampedTask "t3" "2026-01-01"]

/-- A timestamp of digits and dashes. -/
def dated (timestamp : String) : Prop := ∀ char ∈ timestamp.toList, char.isDigit ∨ char = '-'

instance (timestamp : String) : Decidable (dated timestamp) :=
  List.decidableBAll (fun char : Char => char.isDigit = true ∨ char = '-') timestamp.toList

/-- A request for all tasks, two at a time. -/
def inPairs : ListTasksRequest where
  tenant := ""
  contextId := ""
  status := .unspecified
  pageSize := some 2
  pageToken := ""
  historyLength := none
  statusTimestampAfter := none
  includeArtifacts := none

def taskEvent (id : String) (state : TaskState) : AgentExecutionEvent := .task (task id state)

def statusEvent (taskId : String) (state : TaskState) : AgentExecutionEvent :=
  .statusUpdate { taskId, contextId := "ctx", status := some (status state), metadata := none }

def artifact (artifactId : String) (texts : List String) : Artifact where
  artifactId := artifactId
  name := ""
  description := ""
  parts := texts.map textPart
  metadata := none
  extensions := []

def artifactEvent (taskId artifactId text : String) (append : Bool) : AgentExecutionEvent :=
  .artifactUpdate {
    taskId
    contextId := "ctx"
    artifact := some (artifact artifactId [text])
    append
    lastChunk := false
    metadata := none }

def params (message : Message) (returnImmediately : Bool) : SendMessageRequest where
  tenant := ""
  message := some message
  configuration := some {
    acceptedOutputModes := []
    taskPushNotificationConfig := none
    historyLength := none
    returnImmediately }
  metadata := none

def withPushConfig (params : SendMessageRequest) (id : String) : SendMessageRequest :=
  { params with
    configuration := params.configuration.map (fun configuration =>
      { configuration with
        taskPushNotificationConfig := some ⟨"", id, "", "https://example.org/hook", "", none⟩ }) }

def calls (pid : Pid) (request : Request) (context : ServerCallContext) (taskUuid : String) : Label :=
  ⟨pid, .call request context none (fresh taskUuid)⟩

def resumes (pid : Pid) (count : Nat) : List Label := List.replicate count ⟨pid, .resume .ok⟩

def fails (pid : Pid) : Label := ⟨pid, .resume (.fail "store unavailable")⟩

def publishes (pid : Pid) (id : EventId) (event : AgentExecutionEvent) : Label :=
  ⟨pid, .publish id event⟩

def returns (pid : Pid) : Label := ⟨pid, .executorSettled (.ok ())⟩

def throws (pid : Pid) : Label := ⟨pid, .executorSettled (.error "boom")⟩

def reaps (pid : Pid) (taskEvent statusEvent : EventId) : Label :=
  ⟨pid, .executorReaped (failureFresh taskEvent statusEvent)⟩

/-- A handler before its first call, with the given rows in one scope. -/
def seeded (scope : Scope) (tasks : List Task) : State :=
  .initial (tasks.foldl (fun store task => store.save scope task) .empty) .empty (fun _ => none)

/-- The calls of `pids` have come to rest. -/
def settled (pids : List Pid) (state : State) : Bool :=
  pids.all fun pid =>
    match state.calls pid with
    | some call => call.idle && call.executorDone
    | none => true

theorem quiescent_of_settled {handler : Handler} {allowed : State → Label → Prop}
    {start state : State} {labels : List Label}
    (runs : (handlerSystem handler).Runs allowed start labels state)
    (idle : start.calls = fun _ => none) (rests : settled (labels.map Label.pid) state = true) :
    state.Quiescent := by
  intro pid call found
  have listed := State.calls_labelled runs idle found
  simpa [found] using List.all_eq_true.mp rests pid listed

/-- Every call of the state is one of `pids`. -/
def Within (pids : List Pid) (state : State) : Prop :=
  ∀ pid call, state.calls pid = some call → pid ∈ pids

theorem within_step {handler : Handler} {pids : List Pid} {state next : State} {label : Label}
    (within : Within pids state) (listed : pids.contains label.pid = true)
    (stepped : state.step handler label = some next) : Within pids next := by
  intro pid call found
  rcases State.calls_step stepped found with rfl | ⟨before, earlier⟩
  · simpa using listed
  · exact within pid before earlier

theorem within_seeded (pids : List Pid) (scope : Scope) (tasks : List Task) :
    Within pids (seeded scope tasks) := by
  intro pid call found
  simp [seeded, State.initial] at found

end A2A.Server.Scenario
