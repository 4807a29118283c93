import A2A.Compat.Types
import A2A.Library.Base64

namespace A2A.Compat

open Library

/-! `FromProto` and `ToProto`: the converters between the v0.3 protobuf
messages and the v0.3 JSON types.
-/

/-- `value || undefined` on a string -/
def nonEmpty (value : String) : Option String :=
  if value = "" then none else some value

@[simp] theorem getD_nonEmpty (value : String) : (nonEmpty value).getD "" = value := by
  unfold nonEmpty
  split
  · rename_i empty
    exact empty.symm
  · rfl

namespace FromProto

def part (part : Proto.Part) : Except CompatError Legacy.Part :=
  match part.part with
  | some (.text value) => .ok (.text value none)
  | some (.file filePart) =>
      match filePart.file with
      | some (.fileWithUri value) => .ok (.file ⟨none, some value, some filePart.mimeType, none⟩ none)
      | some (.fileWithBytes value) =>
          .ok (.file ⟨some (Base64.encode value), none, some filePart.mimeType, none⟩ none)
      | none => .error (.invalidParams "Invalid file part type")
  | some (.data value) => .ok (.data (value.data.getD []) none)
  | none => .error (.invalidParams "Invalid part type")

/-- The number that the error of `role` prints. -/
def roleNumber : A2A.Role → Int
  | .unspecified => 0
  | .user => 1
  | .agent => 2
  | .unrecognized => -1

def role : A2A.Role → Except CompatError Legacy.Role
  | .agent => .ok .agent
  | .user => .ok .user
  | other => .error (.invalidParams ("Invalid role: " ++ toString (roleNumber other)))

def message (message : Proto.Message) : Except CompatError Legacy.Message := do
  let parts ← message.content.mapM part
  let role ← role message.role
  return {
    messageId := message.messageId
    parts
    contextId := nonEmpty message.contextId
    taskId := nonEmpty message.taskId
    role
    metadata := message.metadata
    extensions := some message.extensions
    referenceTaskIds := none }

/-- `message` where the message may be missing. -/
def message? : Option Proto.Message → Except CompatError (Option Legacy.Message)
  | none => .ok none
  | some value => (message value).map some

def taskState : A2A.TaskState → Except CompatError Legacy.TaskState
  | .submitted => .ok .submitted
  | .working => .ok .working
  | .inputRequired => .ok .inputRequired
  | .completed => .ok .completed
  | .canceled => .ok .canceled
  | .failed => .ok .failed
  | .rejected => .ok .rejected
  | .authRequired => .ok .authRequired
  | .unspecified => .ok .unknown
  | .unrecognized =>
      .error (.invalidParams ("Invalid task state: " ++ toString TaskState.unrecognized.toNumber))

def taskStatus (status : Proto.TaskStatus) : Except CompatError Legacy.TaskStatus := do
  let message ← message? status.update
  let state ← taskState status.state
  return { message, state, timestamp := status.timestamp }

def artifact (artifact : Proto.Artifact) : Except CompatError Legacy.Artifact := do
  let parts ← artifact.parts.mapM part
  return {
    artifactId := artifact.artifactId
    name := nonEmpty artifact.name
    description := nonEmpty artifact.description
    parts
    metadata := artifact.metadata
    extensions := none }

def task (task : Proto.Task) : Except CompatError Legacy.Task :=
  match task.status with
  | none => .error (.internalError "Task missing status")
  | some current => do
      let status ← taskStatus current
      let artifacts ← task.artifacts.mapM artifact
      let history ← task.history.mapM message
      return {
        id := task.id
        status
        contextId := task.contextId
        artifacts := some artifacts
        history := some history
        metadata := task.metadata }

def taskStatusUpdateEvent (event : Proto.TaskStatusUpdateEvent) :
    Except CompatError Legacy.TaskStatusUpdateEvent :=
  match event.status with
  | none => .error (.invalidParams "Invalid TaskStatusUpdateEvent: missing status")
  | some current => do
      let status ← taskStatus current
      return {
        taskId := event.taskId
        status
        contextId := event.contextId
        metadata := event.metadata
        final := event.final }

def taskArtifactUpdateEvent (event : Proto.TaskArtifactUpdateEvent) :
    Except CompatError Legacy.TaskArtifactUpdateEvent :=
  match event.artifact with
  | none => .error (.invalidParams "Invalid TaskArtifactUpdateEvent: missing artifact")
  | some current => do
      let artifact ← artifact current
      return {
        taskId := event.taskId
        artifact
        contextId := event.contextId
        metadata := event.metadata
        -- The source assigns no `append`.
        append := none
        lastChunk := some event.lastChunk }

def messageStreamResult (event : Proto.StreamResponse) : Except CompatError Legacy.StreamResult :=
  match event.payload with
  | some (.msg value) => (message value).map .message
  | some (.task value) => (task value).map .task
  | some (.statusUpdate value) => (taskStatusUpdateEvent value).map .statusUpdate
  | some (.artifactUpdate value) => (taskArtifactUpdateEvent value).map .artifactUpdate
  | none => .error (.internalError "Invalid event type in StreamResponse")

def pushNotificationAuthenticationInfo (authInfo : Proto.AuthenticationInfo) :
    Legacy.PushNotificationAuthenticationInfo :=
  { schemes := authInfo.schemes, credentials := some authInfo.credentials }

def pushNotificationConfig (config : Proto.PushNotificationConfig) : Legacy.PushNotificationConfig where
  id := some config.id
  url := config.url
  token := nonEmpty config.token
  authentication := config.authentication.map pushNotificationAuthenticationInfo

def messageSendConfiguration (configuration : Proto.SendMessageConfiguration) :
    Legacy.MessageSendConfiguration where
  blocking := some configuration.blocking
  acceptedOutputModes := some configuration.acceptedOutputModes
  pushNotificationConfig := configuration.pushNotification.map pushNotificationConfig
  -- The source assigns no `historyLength`.
  historyLength := none

def messageSendParams (request : Proto.SendMessageRequest) :
    Except CompatError Legacy.MessageSendParams :=
  match request.request with
  | none => .error (.invalidParams "SendMessageRequest missing message")
  | some value => do
      let message ← message value
      return {
        message
        configuration := request.configuration.map messageSendConfiguration
        metadata := request.metadata }

/-- `name.match(/^tasks\/([^/]+)(?:\/|$)/)`: the segment behind `tasks/`, which is not empty. -/
def extractTaskId (name : String) : Except CompatError String :=
  let missing := CompatError.invalidParams ("Invalid or missing task ID in: \"" ++ name ++ "\"")
  match name.toList with
  | 't' :: 'a' :: 's' :: 'k' :: 's' :: '/' :: rest =>
      let taskId := rest.takeWhile (· ≠ '/')
      if taskId.isEmpty then .error missing else .ok (String.ofList taskId)
  | _ => .error missing

def taskQueryParams (request : Proto.GetTaskRequest) : Except CompatError Legacy.TaskQueryParams := do
  let id ← extractTaskId request.name
  return { id, historyLength := some request.historyLength }

end FromProto

namespace ToProto

def part : Legacy.Part → Except CompatError Proto.Part
  | .text text _ => .ok ⟨some (.text text)⟩
  | .file file _ =>
      match file.uri, file.bytes with
      | some uri, _ => .ok ⟨some (.file ⟨some (.fileWithUri uri), file.mimeType.getD ""⟩)⟩
      | none, some bytes =>
          .ok ⟨some (.file ⟨some (.fileWithBytes (Base64.decode bytes)), file.mimeType.getD ""⟩)⟩
      | none, none => .error (.internalError "Invalid file part")
  | .data data _ => .ok ⟨some (.data ⟨some data⟩)⟩

def role : Legacy.Role → A2A.Role
  | .agent => .agent
  | .user => .user

def message (message : Legacy.Message) : Except CompatError Proto.Message := do
  let content ← message.parts.mapM part
  return {
    messageId := message.messageId
    content
    contextId := message.contextId.getD ""
    taskId := message.taskId.getD ""
    role := role message.role
    metadata := message.metadata
    extensions := message.extensions.getD [] }

def message? : Option Legacy.Message → Except CompatError (Option Proto.Message)
  | none => .ok none
  | some value => (message value).map some

def taskState : Legacy.TaskState → A2A.TaskState
  | .submitted => .submitted
  | .working => .working
  | .inputRequired => .inputRequired
  | .rejected => .rejected
  | .authRequired => .authRequired
  | .completed => .completed
  | .failed => .failed
  | .canceled => .canceled
  | .unknown => .unspecified

def taskStatus (status : Legacy.TaskStatus) : Except CompatError Proto.TaskStatus := do
  let update ← message? status.message
  return { state := taskState status.state, update, timestamp := status.timestamp }

def artifact (artifact : Legacy.Artifact) : Except CompatError Proto.Artifact := do
  let parts ← artifact.parts.mapM part
  return {
    artifactId := artifact.artifactId
    name := artifact.name.getD ""
    description := artifact.description.getD ""
    parts
    metadata := artifact.metadata
    extensions := artifact.extensions.getD [] }

def task (task : Legacy.Task) : Except CompatError Proto.Task := do
  let status ← taskStatus task.status
  let artifacts ← (task.artifacts.getD []).mapM artifact
  let history ← (task.history.getD []).mapM message
  return {
    id := task.id
    contextId := task.contextId
    status := some status
    artifacts
    history
    metadata := task.metadata }

def taskStatusUpdateEvent (event : Legacy.TaskStatusUpdateEvent) :
    Except CompatError Proto.TaskStatusUpdateEvent := do
  let status ← taskStatus event.status
  return {
    taskId := event.taskId
    status := some status
    contextId := event.contextId
    metadata := event.metadata
    final := event.final }

def taskArtifactUpdateEvent (event : Legacy.TaskArtifactUpdateEvent) :
    Except CompatError Proto.TaskArtifactUpdateEvent := do
  let artifact ← artifact event.artifact
  return {
    taskId := event.taskId
    artifact := some artifact
    contextId := event.contextId
    metadata := event.metadata
    append := event.append.getD false
    lastChunk := event.lastChunk.getD false }

def messageStreamResult : Legacy.StreamResult → Except CompatError Proto.StreamResponse
  | .message value => do return ⟨some (.msg (← message value))⟩
  | .task value => do return ⟨some (.task (← task value))⟩
  | .statusUpdate value => do return ⟨some (.statusUpdate (← taskStatusUpdateEvent value))⟩
  | .artifactUpdate value => do return ⟨some (.artifactUpdate (← taskArtifactUpdateEvent value))⟩

def generateTaskName (taskId : String) : String := "tasks/" ++ taskId

def pushNotificationAuthenticationInfo (authInfo : Legacy.PushNotificationAuthenticationInfo) :
    Proto.AuthenticationInfo :=
  { schemes := authInfo.schemes, credentials := authInfo.credentials.getD "" }

def pushNotificationConfig (config : Legacy.PushNotificationConfig) : Proto.PushNotificationConfig where
  id := config.id.getD ""
  url := config.url
  token := config.token.getD ""
  authentication := config.authentication.map pushNotificationAuthenticationInfo

def configuration (configuration : Legacy.MessageSendConfiguration) : Proto.SendMessageConfiguration where
  blocking := configuration.blocking.getD false
  acceptedOutputModes := configuration.acceptedOutputModes.getD []
  pushNotification := configuration.pushNotificationConfig.map pushNotificationConfig
  historyLength := configuration.historyLength.getD 0

def messageSendParams (params : Legacy.MessageSendParams) :
    Except CompatError Proto.SendMessageRequest := do
  let request ← message params.message
  return {
    request := some request
    configuration := params.configuration.map configuration
    metadata := params.metadata }

def taskQueryParams (params : Legacy.TaskQueryParams) : Proto.GetTaskRequest where
  name := generateTaskName params.id
  historyLength := params.historyLength.getD 0

end ToProto

end A2A.Compat
