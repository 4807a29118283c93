import A2A.Client.Interceptors
import A2A.Client.RestTransport
import A2A.Library.Base64

namespace A2A

open Library Errors Server Client

/-! The generated codecs between the messages of the protocol and JSON values.

`toJSON` leaves out what has its default, and `fromJSON` reads each field under its JSON name or, where
that is not set, under its name in the protocol definition.
-/

structure GetTaskRequest where
  tenant : String
  id : String
  historyLength : Option Int

structure CancelTaskRequest where
  tenant : String
  id : String
  metadata : Option Metadata

structure SubscribeToTaskRequest where
  tenant : String
  id : String

/-- `GetTaskPushNotificationConfigRequest` and `DeleteTaskPushNotificationConfigRequest` -/
structure TaskPushNotificationConfigRequest where
  tenant : String
  taskId : String
  id : String

structure ListTaskPushNotificationConfigsRequest where
  tenant : String
  taskId : String
  pageSize : Int
  pageToken : String

structure ListTaskPushNotificationConfigsResponse where
  configs : List TaskPushNotificationConfig
  nextPageToken : String

/-- A response whose payload may be missing. -/
structure SendMessageResponse where
  payload : Option SendMessageResult

/-- The conversions of the language that the decoders use. -/
structure Conversions where
  printer : Printer
  /-- `Number(value)`, which is left open where it is no integer. -/
  number : JsonValue → Int
  number_integer : ∀ value : Int, number (.number value) = value
  /-- `Buffer.from(value, "base64")` on a value that is no string. -/
  bytes : JsonValue → Except Thrown (List UInt8)

section Writing

/-- An object with the fields that are given. -/
def JsonValue.ofEntries (entries : List (String × Option JsonValue)) : JsonValue :=
  .object (entries.filterMap fun entry => entry.2.map (entry.1, ·))

/-- A text that is not empty. -/
def presentText (text : String) : Option JsonValue :=
  if text = "" then none else some (.string text)

def presentFlag (flag : Bool) : Option JsonValue :=
  if flag then some (.bool true) else none

/-- `Math.round(value)` -/
def numberToJSON (value : Int) : JsonValue := .number value

def presentNumber (value : Int) : Option JsonValue :=
  if value = 0 then none else some (numberToJSON value)

/-- A repeated field that has elements. -/
def presentList {α : Type} (encode : α → JsonValue) (values : List α) : Option JsonValue :=
  if values.isEmpty then none else some (.array (values.map encode))

def Metadata.toJSON (metadata : Metadata) : JsonValue := .object metadata.entries

def roleToJSON : Role → String
  | .unspecified => "ROLE_UNSPECIFIED"
  | .user => "ROLE_USER"
  | .agent => "ROLE_AGENT"
  | .unrecognized => "UNRECOGNIZED"

/-- The field of a content.  A data part may hold `undefined`, which is no JSON value. -/
def PartContent.entry : PartContent → String × Option JsonValue
  | .text value => ("text", some (.string value))
  | .raw value => ("raw", some (.string (Base64.encode value)))
  | .url value => ("url", some (.string value))
  | .data value => ("data", value)

def Part.toJSON (message : Part) : JsonValue :=
  .ofEntries ((message.content.map PartContent.entry).toList ++
    [("metadata", message.metadata.map Metadata.toJSON), ("filename", presentText message.filename),
      ("mediaType", presentText message.mediaType)])

def Message.toJSON (message : Message) : JsonValue :=
  .ofEntries [
    ("messageId", presentText message.messageId),
    ("contextId", presentText message.contextId),
    ("taskId", presentText message.taskId),
    ("role", if message.role = .unspecified then none else some (.string (roleToJSON message.role))),
    ("parts", presentList Part.toJSON message.parts),
    ("metadata", message.metadata.map Metadata.toJSON),
    ("extensions", presentList .string message.extensions),
    ("referenceTaskIds", presentList .string message.referenceTaskIds)]

def Artifact.toJSON (message : Artifact) : JsonValue :=
  .ofEntries [
    ("artifactId", presentText message.artifactId),
    ("name", presentText message.name),
    ("description", presentText message.description),
    ("parts", presentList Part.toJSON message.parts),
    ("metadata", message.metadata.map Metadata.toJSON),
    ("extensions", presentList .string message.extensions)]

/-- The field of a state, which is left out when it is unspecified. -/
def presentState (state : TaskState) : Option JsonValue :=
  if state = .unspecified then none else some (.string (taskStateToJSON state))

def TaskStatus.toJSON (message : TaskStatus) : JsonValue :=
  .ofEntries [
    ("state", presentState message.state),
    ("message", message.message.map Message.toJSON),
    ("timestamp", message.timestamp.map .string)]

def Task.toJSON (message : Task) : JsonValue :=
  .ofEntries [
    ("id", presentText message.id),
    ("contextId", presentText message.contextId),
    ("status", message.status.map TaskStatus.toJSON),
    ("artifacts", presentList Artifact.toJSON message.artifacts),
    ("history", presentList Message.toJSON message.history),
    ("metadata", message.metadata.map Metadata.toJSON)]

def TaskStatusUpdateEvent.toJSON (message : TaskStatusUpdateEvent) : JsonValue :=
  .ofEntries [
    ("taskId", presentText message.taskId),
    ("contextId", presentText message.contextId),
    ("status", message.status.map TaskStatus.toJSON),
    ("metadata", message.metadata.map Metadata.toJSON)]

def TaskArtifactUpdateEvent.toJSON (message : TaskArtifactUpdateEvent) : JsonValue :=
  .ofEntries [
    ("taskId", presentText message.taskId),
    ("contextId", presentText message.contextId),
    ("artifact", message.artifact.map Artifact.toJSON),
    ("append", presentFlag message.append),
    ("lastChunk", presentFlag message.lastChunk),
    ("metadata", message.metadata.map Metadata.toJSON)]

def AuthenticationInfo.toJSON (message : AuthenticationInfo) : JsonValue :=
  .ofEntries [
    ("scheme", presentText message.scheme),
    ("credentials", presentText message.credentials)]

def TaskPushNotificationConfig.toJSON (message : TaskPushNotificationConfig) : JsonValue :=
  .ofEntries [
    ("tenant", presentText message.tenant),
    ("id", presentText message.id),
    ("taskId", presentText message.taskId),
    ("url", presentText message.url),
    ("token", presentText message.token),
    ("authentication", message.authentication.map AuthenticationInfo.toJSON)]

def SendMessageConfiguration.toJSON (message : SendMessageConfiguration) : JsonValue :=
  .ofEntries [
    ("acceptedOutputModes", presentList .string message.acceptedOutputModes),
    ("taskPushNotificationConfig", message.taskPushNotificationConfig.map TaskPushNotificationConfig.toJSON),
    ("historyLength", message.historyLength.map numberToJSON),
    ("returnImmediately", presentFlag message.returnImmediately)]

def SendMessageRequest.toJSON (message : SendMessageRequest) : JsonValue :=
  .ofEntries [
    ("tenant", presentText message.tenant),
    ("message", message.message.map Message.toJSON),
    ("configuration", message.configuration.map SendMessageConfiguration.toJSON),
    ("metadata", message.metadata.map Metadata.toJSON)]

def GetTaskRequest.toJSON (message : GetTaskRequest) : JsonValue :=
  .ofEntries [
    ("tenant", presentText message.tenant),
    ("id", presentText message.id),
    ("historyLength", message.historyLength.map numberToJSON)]

def ListTasksRequest.toJSON (message : ListTasksRequest) : JsonValue :=
  .ofEntries [
    ("tenant", presentText message.tenant),
    ("contextId", presentText message.contextId),
    ("status", presentState message.status),
    ("pageSize", message.pageSize.map numberToJSON),
    ("pageToken", presentText message.pageToken),
    ("historyLength", message.historyLength.map numberToJSON),
    ("statusTimestampAfter", message.statusTimestampAfter.map .string),
    ("includeArtifacts", message.includeArtifacts.map .bool)]

def ListTasksResponse.toJSON (message : ListTasksResponse) : JsonValue :=
  .ofEntries [
    ("tasks", presentList Task.toJSON message.tasks),
    ("nextPageToken", presentText message.nextPageToken),
    ("pageSize", presentNumber message.pageSize),
    ("totalSize", presentNumber message.totalSize)]

def CancelTaskRequest.toJSON (message : CancelTaskRequest) : JsonValue :=
  .ofEntries [
    ("tenant", presentText message.tenant),
    ("id", presentText message.id),
    ("metadata", message.metadata.map Metadata.toJSON)]

def TaskPushNotificationConfigRequest.toJSON (message : TaskPushNotificationConfigRequest) : JsonValue :=
  .ofEntries [
    ("tenant", presentText message.tenant),
    ("taskId", presentText message.taskId),
    ("id", presentText message.id)]

def SubscribeToTaskRequest.toJSON (message : SubscribeToTaskRequest) : JsonValue :=
  .ofEntries [("tenant", presentText message.tenant), ("id", presentText message.id)]

def ListTaskPushNotificationConfigsRequest.toJSON (message : ListTaskPushNotificationConfigsRequest) :
    JsonValue :=
  .ofEntries [
    ("tenant", presentText message.tenant),
    ("taskId", presentText message.taskId),
    ("pageSize", presentNumber message.pageSize),
    ("pageToken", presentText message.pageToken)]

def ListTaskPushNotificationConfigsResponse.toJSON (message : ListTaskPushNotificationConfigsResponse) :
    JsonValue :=
  .ofEntries [
    ("configs", presentList TaskPushNotificationConfig.toJSON message.configs),
    ("nextPageToken", presentText message.nextPageToken)]

def SendMessageResponse.toJSON (message : SendMessageResponse) : JsonValue :=
  .ofEntries (match message.payload with
    | none => []
    | some (.task value) => [("task", some value.toJSON)]
    | some (.message value) => [("message", some value.toJSON)])

/-- A `StreamResponse` with a payload. -/
def StreamResponse.toJSON (message : StreamResponse) : JsonValue :=
  .ofEntries (match message with
    | .task value => [("task", some value.toJSON)]
    | .message value => [("message", some value.toJSON)]
    | .statusUpdate value => [("statusUpdate", some value.toJSON)]
    | .artifactUpdate value => [("artifactUpdate", some value.toJSON)])

/-- Restores the empty list of artifacts that the encoder left out. -/
def withMaterializedArtifacts : JsonValue → JsonValue
  | .object fields =>
      match OrderedMap.lookup fields "artifacts" with
      | some _ => .object fields
      | none => .object (fields ++ [("artifacts", .array [])])
  | task => task

/-- `serialized.tasks ?? []` -/
def serializedTasks (serialized : JsonValue) : List JsonValue :=
  match field serialized "tasks" with
  | some (.array tasks) => tasks
  | _ => []

def serializeListTasksResponse (response : ListTasksResponse) (includeArtifacts : Option Bool) : JsonValue :=
  let serialized := response.toJSON
  let tasks := serializedTasks serialized
  .object [
    ("tasks", .array (if includeArtifacts.getD false then tasks.map withMaterializedArtifacts else tasks)),
    ("nextPageToken", (field serialized "nextPageToken").getD (.string "")),
    ("pageSize", (field serialized "pageSize").getD (.number 0)),
    ("totalSize", (field serialized "totalSize").getD (.number 0))]

end Writing

section Reading

/-- Reading a property of `null` throws. -/
def requireObject (object : JsonValue) (key : String) : Except Thrown Unit :=
  match object with
  | .null => .error (.error ("Cannot read properties of null (reading '" ++ key ++ "')"))
  | _ => .ok ()

/-- A repeated field, under the first of its names that holds an array. -/
def readList {α : Type} (decode : JsonValue → Except Thrown α) : List (Option JsonValue) → Except Thrown (List α)
  | [] => .ok []
  | some (.array values) :: _ => values.mapM decode
  | _ :: rest => readList decode rest

def readNested {α : Type} (decode : JsonValue → Except Thrown α) (values : List (Option JsonValue)) :
    Except Thrown (Option α) :=
  (firstSet values).mapM decode

def readFlag (values : List (Option JsonValue)) : Bool := ((firstSet values).map isTruthy).getD false

/-- The entries of an object, whose keys are distinct. -/
def Metadata.ofFields (fields : List (String × JsonValue)) : Metadata :=
  fields.foldl (fun metadata entry => metadata.set entry.1 entry.2) .empty

/-- `isObject(value) ? value : undefined`.  An array passes too, with its indices for keys. -/
def readMetadata : Option JsonValue → Option Metadata
  | some (.object fields) => some (.ofFields fields)
  | some (.array values) => some (.ofFields (values.zipIdx.map fun entry => (toString entry.2, entry.1)))
  | _ => none

def taskStates : List TaskState :=
  [.unspecified, .submitted, .working, .completed, .failed, .canceled, .inputRequired, .rejected, .authRequired]

def taskStateFromJSON : JsonValue → TaskState
  | .number value => (taskStates.find? fun state => (state.toNumber : Rat) = value).getD .unrecognized
  | .string name => (taskStates.find? fun state => taskStateToJSON state = name).getD .unrecognized
  | _ => .unrecognized

def roleFromJSON : JsonValue → Role
  | .number value =>
      if value = 0 then .unspecified else if value = 1 then .user else if value = 2 then .agent else .unrecognized
  | .string name =>
      ([Role.unspecified, .user, .agent].find? fun role => roleToJSON role = name).getD .unrecognized
  | _ => .unrecognized

def readState (value : Option JsonValue) : TaskState :=
  ((firstSet [value]).map taskStateFromJSON).getD .unspecified

variable (conversions : Conversions)

/-- `String(value)` -/
def readString (value : JsonValue) : Except Thrown String := toText conversions.printer value

def readField (values : List (Option JsonValue)) : Except Thrown String := readText conversions.printer values

def readNumber (values : List (Option JsonValue)) : Option Int := (firstSet values).map conversions.number

/-- `Buffer.from(bytesFromBase64(value))` -/
def bytesFromBase64 : JsonValue → Except Thrown (List UInt8)
  | .string text => .ok (Base64.decode text)
  | value => conversions.bytes value

def PartContent.fromJSON (object : JsonValue) : Except Thrown (Option PartContent) :=
  match firstSet [field object "text"], firstSet [field object "raw"], firstSet [field object "url"],
      firstSet [field object "data"] with
  | some value, _, _, _ => do return some (.text (← readString conversions value))
  | none, some value, _, _ => do return some (.raw (← bytesFromBase64 conversions value))
  | none, none, some value, _ => do return some (.url (← readString conversions value))
  | none, none, none, some value => .ok (some (.data (some value)))
  | none, none, none, none => .ok none

def Part.fromJSON (object : JsonValue) : Except Thrown Part := do
  requireObject object "text"
  let content ← PartContent.fromJSON conversions object
  let metadata := readMetadata (field object "metadata")
  let filename ← readField conversions [field object "filename"]
  let mediaType ← readField conversions [field object "mediaType", field object "media_type"]
  return { content, metadata, filename, mediaType }

def Message.fromJSON (object : JsonValue) : Except Thrown Message := do
  requireObject object "messageId"
  let messageId ← readField conversions [field object "messageId", field object "message_id"]
  let contextId ← readField conversions [field object "contextId", field object "context_id"]
  let taskId ← readField conversions [field object "taskId", field object "task_id"]
  let role := ((firstSet [field object "role"]).map roleFromJSON).getD .unspecified
  let parts ← readList (Part.fromJSON conversions) [field object "parts"]
  let metadata := readMetadata (field object "metadata")
  let extensions ← readList (readString conversions) [field object "extensions"]
  let referenceTaskIds ← readList (readString conversions)
    [field object "referenceTaskIds", field object "reference_task_ids"]
  return { messageId, contextId, taskId, role, parts, metadata, extensions, referenceTaskIds }

def Artifact.fromJSON (object : JsonValue) : Except Thrown Artifact := do
  requireObject object "artifactId"
  let artifactId ← readField conversions [field object "artifactId", field object "artifact_id"]
  let name ← readField conversions [field object "name"]
  let description ← readField conversions [field object "description"]
  let parts ← readList (Part.fromJSON conversions) [field object "parts"]
  let metadata := readMetadata (field object "metadata")
  let extensions ← readList (readString conversions) [field object "extensions"]
  return { artifactId, name, description, parts, metadata, extensions }

def TaskStatus.fromJSON (object : JsonValue) : Except Thrown TaskStatus := do
  requireObject object "state"
  let state := readState (field object "state")
  let message ← readNested (Message.fromJSON conversions) [field object "message"]
  let timestamp ← readNested (readString conversions) [field object "timestamp"]
  return { state, message, timestamp }

def Task.fromJSON (object : JsonValue) : Except Thrown Task := do
  requireObject object "id"
  let id ← readField conversions [field object "id"]
  let contextId ← readField conversions [field object "contextId", field object "context_id"]
  let status ← readNested (TaskStatus.fromJSON conversions) [field object "status"]
  let artifacts ← readList (Artifact.fromJSON conversions) [field object "artifacts"]
  let history ← readList (Message.fromJSON conversions) [field object "history"]
  let metadata := readMetadata (field object "metadata")
  return { id, contextId, status, artifacts, history, metadata }

def TaskStatusUpdateEvent.fromJSON (object : JsonValue) : Except Thrown TaskStatusUpdateEvent := do
  requireObject object "taskId"
  let taskId ← readField conversions [field object "taskId", field object "task_id"]
  let contextId ← readField conversions [field object "contextId", field object "context_id"]
  let status ← readNested (TaskStatus.fromJSON conversions) [field object "status"]
  let metadata := readMetadata (field object "metadata")
  return { taskId, contextId, status, metadata }

def TaskArtifactUpdateEvent.fromJSON (object : JsonValue) : Except Thrown TaskArtifactUpdateEvent := do
  requireObject object "taskId"
  let taskId ← readField conversions [field object "taskId", field object "task_id"]
  let contextId ← readField conversions [field object "contextId", field object "context_id"]
  let artifact ← readNested (Artifact.fromJSON conversions) [field object "artifact"]
  let append := readFlag [field object "append"]
  let lastChunk := readFlag [field object "lastChunk", field object "last_chunk"]
  let metadata := readMetadata (field object "metadata")
  return { taskId, contextId, artifact, append, lastChunk, metadata }

def TaskPushNotificationConfig.fromJSON (object : JsonValue) : Except Thrown TaskPushNotificationConfig := do
  requireObject object "tenant"
  readConfig conversions.printer (field object)

def SendMessageConfiguration.fromJSON (object : JsonValue) : Except Thrown SendMessageConfiguration := do
  requireObject object "taskPushNotificationConfig"
  let acceptedOutputModes ← readList (readString conversions)
    [field object "acceptedOutputModes", field object "accepted_output_modes"]
  let taskPushNotificationConfig ← readNested (TaskPushNotificationConfig.fromJSON conversions)
    [field object "taskPushNotificationConfig", field object "task_push_notification_config"]
  let historyLength := readNumber conversions [field object "historyLength", field object "history_length"]
  let returnImmediately := readFlag [field object "returnImmediately", field object "return_immediately"]
  return { acceptedOutputModes, taskPushNotificationConfig, historyLength, returnImmediately }

def SendMessageRequest.fromJSON (object : JsonValue) : Except Thrown SendMessageRequest := do
  requireObject object "tenant"
  let tenant ← readField conversions [field object "tenant"]
  let message ← readNested (Message.fromJSON conversions) [field object "message"]
  let configuration ← readNested (SendMessageConfiguration.fromJSON conversions) [field object "configuration"]
  let metadata := readMetadata (field object "metadata")
  return { tenant, message, configuration, metadata }

def GetTaskRequest.fromJSON (object : JsonValue) : Except Thrown GetTaskRequest := do
  requireObject object "tenant"
  let tenant ← readField conversions [field object "tenant"]
  let id ← readField conversions [field object "id"]
  let historyLength := readNumber conversions [field object "historyLength", field object "history_length"]
  return { tenant, id, historyLength }

def ListTasksRequest.fromJSON (object : JsonValue) : Except Thrown ListTasksRequest := do
  requireObject object "tenant"
  let tenant ← readField conversions [field object "tenant"]
  let contextId ← readField conversions [field object "contextId", field object "context_id"]
  let status := readState (field object "status")
  let pageSize := readNumber conversions [field object "pageSize", field object "page_size"]
  let pageToken ← readField conversions [field object "pageToken", field object "page_token"]
  let historyLength := readNumber conversions [field object "historyLength", field object "history_length"]
  let statusTimestampAfter ← readNested (readString conversions)
    [field object "statusTimestampAfter", field object "status_timestamp_after"]
  let includeArtifacts :=
    (firstSet [field object "includeArtifacts", field object "include_artifacts"]).map isTruthy
  return {
    tenant, contextId, status, pageSize, pageToken, historyLength, statusTimestampAfter, includeArtifacts }

/-- The total is a count. -/
def ListTasksResponse.fromJSON (object : JsonValue) : Except Thrown ListTasksResponse := do
  let tasks ← readList (Task.fromJSON conversions) [field object "tasks"]
  requireObject object "nextPageToken"
  let nextPageToken ← readField conversions [field object "nextPageToken", field object "next_page_token"]
  let pageSize := (readNumber conversions [field object "pageSize", field object "page_size"]).getD 0
  let totalSize := (readNumber conversions [field object "totalSize", field object "total_size"]).getD 0
  return { tasks, nextPageToken, pageSize, totalSize := totalSize.toNat }

def CancelTaskRequest.fromJSON (object : JsonValue) : Except Thrown CancelTaskRequest := do
  requireObject object "tenant"
  let tenant ← readField conversions [field object "tenant"]
  let id ← readField conversions [field object "id"]
  let metadata := readMetadata (field object "metadata")
  return { tenant, id, metadata }

def TaskPushNotificationConfigRequest.fromJSON (object : JsonValue) :
    Except Thrown TaskPushNotificationConfigRequest := do
  requireObject object "tenant"
  let tenant ← readField conversions [field object "tenant"]
  let taskId ← readField conversions [field object "taskId", field object "task_id"]
  let id ← readField conversions [field object "id"]
  return { tenant, taskId, id }

def SubscribeToTaskRequest.fromJSON (object : JsonValue) : Except Thrown SubscribeToTaskRequest := do
  requireObject object "tenant"
  let tenant ← readField conversions [field object "tenant"]
  let id ← readField conversions [field object "id"]
  return { tenant, id }

def ListTaskPushNotificationConfigsRequest.fromJSON (object : JsonValue) :
    Except Thrown ListTaskPushNotificationConfigsRequest := do
  requireObject object "tenant"
  let tenant ← readField conversions [field object "tenant"]
  let taskId ← readField conversions [field object "taskId", field object "task_id"]
  let pageSize := (readNumber conversions [field object "pageSize", field object "page_size"]).getD 0
  let pageToken ← readField conversions [field object "pageToken", field object "page_token"]
  return { tenant, taskId, pageSize, pageToken }

def ListTaskPushNotificationConfigsResponse.fromJSON (object : JsonValue) :
    Except Thrown ListTaskPushNotificationConfigsResponse := do
  let configs ← readList (TaskPushNotificationConfig.fromJSON conversions) [field object "configs"]
  requireObject object "nextPageToken"
  let nextPageToken ← readField conversions [field object "nextPageToken", field object "next_page_token"]
  return { configs, nextPageToken }

def SendMessageResponse.fromJSON (object : JsonValue) : Except Thrown SendMessageResponse := do
  requireObject object "task"
  match firstSet [field object "task"], firstSet [field object "message"] with
  | some task, _ => return ⟨some (.task (← Task.fromJSON conversions task))⟩
  | none, some message => return ⟨some (.message (← Message.fromJSON conversions message))⟩
  | none, none => return ⟨none⟩

/-- A `StreamResponse`, or nothing where its payload is missing. -/
def StreamResponse.fromJSON (object : JsonValue) : Except Thrown (Option StreamResponse) := do
  requireObject object "task"
  match firstSet [field object "task"], firstSet [field object "message"],
      firstSet [field object "statusUpdate", field object "status_update"],
      firstSet [field object "artifactUpdate", field object "artifact_update"] with
  | some value, _, _, _ => return some (.task (← Task.fromJSON conversions value))
  | none, some value, _, _ => return some (.message (← Message.fromJSON conversions value))
  | none, none, some value, _ =>
      return some (.statusUpdate (← TaskStatusUpdateEvent.fromJSON conversions value))
  | none, none, none, some value =>
      return some (.artifactUpdate (← TaskArtifactUpdateEvent.fromJSON conversions value))
  | none, none, none, none => return none

end Reading

end A2A
