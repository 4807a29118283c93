import A2A.Types

namespace A2A.Compat

open Library

/-! The v0.3 protocol's data types, once as its JSON schema declares them and
once as its protobuf messages do.  An optional JSON field is an `Option`; the
protobuf enumerations have the members of today's.
-/

/-- The errors that end a v0.3 call. -/
inductive CompatError where
  | invalidParams (message : String)
  | internalError (message : String)
  | taskNotFound (message : String)
deriving DecidableEq, Repr

/-- The fields of a JSON object, in order. -/
abbrev JsonObject := List (String × JsonValue)

namespace Legacy

/-- `FileWithBytes | FileWithUri`, told apart by the field that is present. -/
structure File where
  bytes : Option String
  uri : Option String
  mimeType : Option String
  name : Option String

inductive Part where
  | text (text : String) (metadata : Option Metadata)
  | file (file : File) (metadata : Option Metadata)
  | data (data : JsonObject) (metadata : Option Metadata)

inductive Role where
  | agent
  | user
deriving DecidableEq, Repr

structure Message where
  messageId : String
  contextId : Option String
  taskId : Option String
  role : Role
  parts : List Part
  metadata : Option Metadata
  extensions : Option (List String)
  referenceTaskIds : Option (List String)

inductive TaskState where
  | submitted
  | working
  | inputRequired
  | completed
  | canceled
  | failed
  | rejected
  | authRequired
  | unknown
deriving DecidableEq, Repr

structure TaskStatus where
  state : TaskState
  message : Option Message
  timestamp : Option String

structure Artifact where
  artifactId : String
  name : Option String
  description : Option String
  parts : List Part
  metadata : Option Metadata
  extensions : Option (List String)

structure Task where
  id : String
  contextId : String
  status : TaskStatus
  artifacts : Option (List Artifact)
  history : Option (List Message)
  metadata : Option Metadata

structure TaskStatusUpdateEvent where
  taskId : String
  contextId : String
  status : TaskStatus
  final : Bool
  metadata : Option Metadata

structure TaskArtifactUpdateEvent where
  taskId : String
  contextId : String
  artifact : Artifact
  append : Option Bool
  lastChunk : Option Bool
  metadata : Option Metadata

/-- The `result` of a streaming response, told apart by `kind`. -/
inductive StreamResult where
  | message (value : Message)
  | task (value : Task)
  | statusUpdate (value : TaskStatusUpdateEvent)
  | artifactUpdate (value : TaskArtifactUpdateEvent)

/-- A streaming response: an error, or a result.  The id is a string, a number or `null`. -/
inductive SendStreamingMessageResponse where
  | error (id : JsonValue)
  | success (id : JsonValue) (result : StreamResult)

structure PushNotificationAuthenticationInfo where
  schemes : List String
  credentials : Option String

structure PushNotificationConfig where
  id : Option String
  url : String
  token : Option String
  authentication : Option PushNotificationAuthenticationInfo

structure MessageSendConfiguration where
  acceptedOutputModes : Option (List String)
  blocking : Option Bool
  historyLength : Option Int
  pushNotificationConfig : Option PushNotificationConfig

structure MessageSendParams where
  message : Message
  configuration : Option MessageSendConfiguration
  metadata : Option Metadata

structure TaskQueryParams where
  id : String
  historyLength : Option Int

end Legacy

namespace Proto

inductive FileContent where
  | fileWithUri (value : String)
  | fileWithBytes (value : List UInt8)

structure FilePart where
  file : Option FileContent
  mimeType : String

structure DataPart where
  data : Option JsonObject

inductive PartContent where
  | text (value : String)
  | file (value : FilePart)
  | data (value : DataPart)

structure Part where
  part : Option PartContent

structure Message where
  messageId : String
  contextId : String
  taskId : String
  role : Role
  content : List Part
  metadata : Option Metadata
  extensions : List String

structure Artifact where
  artifactId : String
  name : String
  description : String
  parts : List Part
  metadata : Option Metadata
  extensions : List String

structure TaskStatus where
  state : TaskState
  update : Option Message
  timestamp : Option String

structure Task where
  id : String
  contextId : String
  status : Option TaskStatus
  artifacts : List Artifact
  history : List Message
  metadata : Option Metadata

structure TaskStatusUpdateEvent where
  taskId : String
  contextId : String
  status : Option TaskStatus
  final : Bool
  metadata : Option Metadata

structure TaskArtifactUpdateEvent where
  taskId : String
  contextId : String
  artifact : Option Artifact
  append : Bool
  lastChunk : Bool
  metadata : Option Metadata

inductive Payload where
  | msg (value : Message)
  | task (value : Task)
  | statusUpdate (value : TaskStatusUpdateEvent)
  | artifactUpdate (value : TaskArtifactUpdateEvent)

structure StreamResponse where
  payload : Option Payload

structure AuthenticationInfo where
  schemes : List String
  credentials : String

structure PushNotificationConfig where
  id : String
  url : String
  token : String
  authentication : Option AuthenticationInfo

/-- A scalar that is not set reads as its default: `historyLength` as zero. -/
structure SendMessageConfiguration where
  acceptedOutputModes : List String
  pushNotification : Option PushNotificationConfig
  historyLength : Int
  blocking : Bool

structure SendMessageRequest where
  request : Option Message
  configuration : Option SendMessageConfiguration
  metadata : Option Metadata

structure GetTaskRequest where
  name : String
  historyLength : Int

end Proto

end A2A.Compat
