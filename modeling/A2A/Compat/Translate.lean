import A2A.Compat.Converters

namespace A2A.Compat

open Library

/-! The translators between the v0.3 JSON types and today's protocol. -/

/-- `DATA_PART_COMPAT_FLAG`, the metadata key that marks a wrapped value. -/
def dataPartCompatFlag : String := "data_part_compat"

/-- `value === true` -/
def isTrue : Option JsonValue → Bool
  | some (.bool true) => true
  | _ => false

def toCorePart : Legacy.Part → Except CompatError A2A.Part
  | .text text metadata => .ok ⟨some (.text text), metadata, "", ""⟩
  | .file file metadata =>
      let mediaType := file.mimeType.getD ""
      let filename := file.name.getD ""
      match file.bytes, file.uri with
      | some bytes, _ => .ok ⟨some (.raw (Base64.decode bytes)), metadata, filename, mediaType⟩
      | none, some uri => .ok ⟨some (.url uri), metadata, filename, mediaType⟩
      | none, none => .error (.invalidParams "Invalid file part: missing `bytes` or `uri`")
  | .data data none => .ok ⟨some (.data (some (.object data))), none, "", ""⟩
  | .data data (some metadata) =>
      if isTrue (metadata.get? dataPartCompatFlag) then
        let value := (OrderedMap.lookup data "value").getD (.object data)
        let stripped := metadata.erase dataPartCompatFlag
        let outMetadata := if stripped.entries.isEmpty then none else some stripped
        .ok ⟨some (.data (some value)), outMetadata, "", ""⟩
      else .ok ⟨some (.data (some (.object data))), some metadata, "", ""⟩

/-- A v1.0 data part's value that v0.3 has no room for is wrapped as `{ value }` and flagged. -/
def toCompatPart (corePart : A2A.Part) : Except CompatError Legacy.Part :=
  let metadata := corePart.metadata
  let mimeType := nonEmpty corePart.mediaType
  let name := nonEmpty corePart.filename
  match corePart.content with
  | none => .error (.invalidParams "Invalid v1.0 part: missing content")
  | some (.text value) => .ok (.text value metadata)
  | some (.raw value) => .ok (.file ⟨some (Base64.encode value), none, mimeType, name⟩ metadata)
  | some (.url value) => .ok (.file ⟨none, some value, mimeType, name⟩ metadata)
  | some (.data (some (.object fields))) => .ok (.data fields metadata)
  | some (.data (some value)) =>
      .ok (.data [("value", value)]
        (some ((metadata.getD .empty).set dataPartCompatFlag (.bool true))))
  | some (.data none) =>
      .error (.invalidParams
        ("Cannot translate v1 data part to v0.3: value is neither a plain object " ++
          "nor a wrap-eligible primitive / array / null " ++
          "(e.g., Symbol, function, bigint, undefined, Buffer). " ++
          "Primitives, arrays, and null are wrapped as \x7b value: ... \x7d with data_part_compat=true; " ++
          "all other non-plain-object values are rejected."))

def toCoreRole : Legacy.Role → A2A.Role
  | .user => .user
  | .agent => .agent

def toCompatRole (role : A2A.Role) : Legacy.Role :=
  if role = .user then .user else .agent

/-- A list that v0.3 leaves out when it is empty. -/
def nonEmptyArray {α : Type} (values : List α) : Option (List α) :=
  if values.isEmpty then none else some values

@[simp] theorem getD_nonEmptyArray {α : Type} (values : List α) : (nonEmptyArray values).getD [] = values := by
  cases values <;> rfl

def toCoreMessage (compatMsg : Legacy.Message) : Except CompatError A2A.Message :=
  if compatMsg.messageId = "" then .error (.invalidParams "message.messageId is required")
  else do
    let parts ← compatMsg.parts.mapM toCorePart
    return {
      messageId := compatMsg.messageId
      contextId := compatMsg.contextId.getD ""
      taskId := compatMsg.taskId.getD ""
      role := toCoreRole compatMsg.role
      parts
      metadata := compatMsg.metadata
      extensions := compatMsg.extensions.getD []
      referenceTaskIds := compatMsg.referenceTaskIds.getD [] }

def toCompatMessage (coreMsg : A2A.Message) : Except CompatError Legacy.Message := do
  let parts ← coreMsg.parts.mapM toCompatPart
  return {
    messageId := coreMsg.messageId
    role := toCompatRole coreMsg.role
    parts
    contextId := nonEmpty coreMsg.contextId
    taskId := nonEmpty coreMsg.taskId
    metadata := coreMsg.metadata
    extensions := nonEmptyArray coreMsg.extensions
    referenceTaskIds := nonEmptyArray coreMsg.referenceTaskIds }

def toCompatTaskState : A2A.TaskState → Legacy.TaskState
  | .submitted => .submitted
  | .working => .working
  | .completed => .completed
  | .failed => .failed
  | .canceled => .canceled
  | .inputRequired => .inputRequired
  | .rejected => .rejected
  | .authRequired => .authRequired
  | .unspecified | .unrecognized => .unknown

/-- `toCompatMessage` where the message may be missing. -/
def toCompatMessage? : Option A2A.Message → Except CompatError (Option Legacy.Message)
  | none => .ok none
  | some value => (toCompatMessage value).map some

def toCompatTaskStatus (coreStatus : A2A.TaskStatus) : Except CompatError Legacy.TaskStatus := do
  let message ← toCompatMessage? coreStatus.message
  return {
    state := toCompatTaskState coreStatus.state
    message
    timestamp := coreStatus.timestamp.bind nonEmpty }

def toCompatArtifact (coreArtifact : A2A.Artifact) : Except CompatError Legacy.Artifact := do
  let parts ← coreArtifact.parts.mapM toCompatPart
  return {
    artifactId := coreArtifact.artifactId
    parts
    name := nonEmpty coreArtifact.name
    description := nonEmpty coreArtifact.description
    metadata := coreArtifact.metadata
    extensions := nonEmptyArray coreArtifact.extensions }

/-- The status of a task that may have none. -/
def toCompatTaskStatus? : Option A2A.TaskStatus → Except CompatError Legacy.TaskStatus
  | none => .ok { state := .unknown, message := none, timestamp := none }
  | some value => toCompatTaskStatus value

def toCompatTask (coreTask : A2A.Task) : Except CompatError Legacy.Task := do
  let status ← toCompatTaskStatus? coreTask.status
  let history ← coreTask.history.mapM toCompatMessage
  let artifacts ← coreTask.artifacts.mapM toCompatArtifact
  return {
    id := coreTask.id
    contextId := coreTask.contextId
    status
    history := nonEmptyArray history
    artifacts := nonEmptyArray artifacts
    metadata := coreTask.metadata }

/-- `TASK_STATE_COMPAT_TO_CORE` -/
def toCoreTaskState : Legacy.TaskState → A2A.TaskState
  | .unknown => .unspecified
  | .submitted => .submitted
  | .working => .working
  | .completed => .completed
  | .failed => .failed
  | .canceled => .canceled
  | .inputRequired => .inputRequired
  | .rejected => .rejected
  | .authRequired => .authRequired

/-- `toCoreMessage` where the message may be missing. -/
def toCoreMessage? : Option Legacy.Message → Except CompatError (Option A2A.Message)
  | none => .ok none
  | some value => (toCoreMessage value).map some

def toCoreTaskStatus (compatStatus : Legacy.TaskStatus) : Except CompatError A2A.TaskStatus := do
  let message ← toCoreMessage? compatStatus.message
  return {
    state := toCoreTaskState compatStatus.state
    message
    timestamp := compatStatus.timestamp }

def toCoreArtifact (compatArtifact : Legacy.Artifact) : Except CompatError A2A.Artifact := do
  let parts ← compatArtifact.parts.mapM toCorePart
  return {
    artifactId := compatArtifact.artifactId
    name := compatArtifact.name.getD ""
    description := compatArtifact.description.getD ""
    parts
    metadata := compatArtifact.metadata
    extensions := compatArtifact.extensions.getD [] }

def toCoreTask (compatTask : Legacy.Task) : Except CompatError A2A.Task := do
  let status ← toCoreTaskStatus compatTask.status
  let artifacts ← (compatTask.artifacts.getD []).mapM toCoreArtifact
  let history ← (compatTask.history.getD []).mapM toCoreMessage
  return {
    id := compatTask.id
    contextId := compatTask.contextId
    status := some status
    artifacts
    history
    metadata := compatTask.metadata }

/-- `FINAL_LEGACY_STATES` -/
def finalLegacyStates : List Legacy.TaskState := [.completed, .canceled, .failed, .rejected]

/-- `final` is dropped. -/
def toCoreTaskStatusUpdateEvent (compatEvent : Legacy.TaskStatusUpdateEvent) :
    Except CompatError A2A.TaskStatusUpdateEvent := do
  let status ← toCoreTaskStatus compatEvent.status
  return {
    taskId := compatEvent.taskId
    contextId := compatEvent.contextId
    status := some status
    metadata := compatEvent.metadata }

def toCompatTaskStatusUpdateEvent (coreEvent : A2A.TaskStatusUpdateEvent) :
    Except CompatError Legacy.TaskStatusUpdateEvent := do
  let status ← toCompatTaskStatus? coreEvent.status
  return {
    taskId := coreEvent.taskId
    contextId := coreEvent.contextId
    status
    final := finalLegacyStates.contains status.state
    metadata := coreEvent.metadata }

def toCoreTaskArtifactUpdateEvent (compatEvent : Legacy.TaskArtifactUpdateEvent) :
    Except CompatError A2A.TaskArtifactUpdateEvent := do
  let artifact ← toCoreArtifact compatEvent.artifact
  return {
    taskId := compatEvent.taskId
    contextId := compatEvent.contextId
    artifact := some artifact
    append := compatEvent.append.getD false
    lastChunk := compatEvent.lastChunk.getD false
    metadata := compatEvent.metadata }

def toCompatTaskArtifactUpdateEvent (coreEvent : A2A.TaskArtifactUpdateEvent) :
    Except CompatError Legacy.TaskArtifactUpdateEvent :=
  match coreEvent.artifact with
  | none => .error (.invalidParams "Invalid TaskArtifactUpdateEvent: missing artifact")
  | some coreArtifact => do
      let artifact ← toCompatArtifact coreArtifact
      return {
        taskId := coreEvent.taskId
        contextId := coreEvent.contextId
        artifact
        append := some coreEvent.append
        lastChunk := some coreEvent.lastChunk
        metadata := coreEvent.metadata }

/-- The `result` of `toCompatStreamResponse`. -/
def toCompatStreamResult : A2A.StreamResponse → Except CompatError Legacy.StreamResult
  | .message value => (toCompatMessage value).map .message
  | .task value => (toCompatTask value).map .task
  | .statusUpdate value => (toCompatTaskStatusUpdateEvent value).map .statusUpdate
  | .artifactUpdate value => (toCompatTaskArtifactUpdateEvent value).map .artifactUpdate

def toCompatStreamResponse (core : A2A.StreamResponse) (requestId : JsonValue) :
    Except CompatError Legacy.SendStreamingMessageResponse := do
  let result ← toCompatStreamResult core
  return .success requestId result

/-- The payload of `toCoreStreamResponse`. -/
def toCoreStreamPayload : Legacy.StreamResult → Except CompatError A2A.StreamResponse
  | .message value => (toCoreMessage value).map .message
  | .task value => (toCoreTask value).map .task
  | .statusUpdate value => (toCoreTaskStatusUpdateEvent value).map .statusUpdate
  | .artifactUpdate value => (toCoreTaskArtifactUpdateEvent value).map .artifactUpdate

def toCoreStreamResponse : Legacy.SendStreamingMessageResponse → Except CompatError A2A.StreamResponse
  | .error _ =>
      .error (.internalError "Cannot translate a v0.3 error response into a v1.0 StreamResponse")
  | .success _ result => toCoreStreamPayload result

/-- Only the first scheme is kept. -/
def toCoreAuthenticationInfo (compat : Legacy.PushNotificationAuthenticationInfo) :
    A2A.AuthenticationInfo :=
  { scheme := compat.schemes.headD "", credentials := compat.credentials.getD "" }

def toCorePushNotificationConfig (compat : Legacy.PushNotificationConfig) :
    A2A.TaskPushNotificationConfig where
  tenant := ""
  taskId := ""
  id := compat.id.getD ""
  url := compat.url
  token := compat.token.getD ""
  authentication := compat.authentication.map toCoreAuthenticationInfo

def toCoreSendMessageConfiguration (compat : Legacy.MessageSendConfiguration) :
    A2A.SendMessageConfiguration where
  acceptedOutputModes := compat.acceptedOutputModes.getD []
  taskPushNotificationConfig := compat.pushNotificationConfig.map toCorePushNotificationConfig
  historyLength := compat.historyLength
  returnImmediately :=
    match compat.blocking with
    | none => true
    | some blocking => !blocking

def toCoreSendMessageRequest (params : Legacy.MessageSendParams) (tenant : String) :
    Except CompatError A2A.SendMessageRequest := do
  let message ← toCoreMessage params.message
  return {
    tenant
    message := some message
    configuration := params.configuration.map toCoreSendMessageConfiguration
    metadata := params.metadata }

end A2A.Compat
