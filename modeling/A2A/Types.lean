import A2A.Library.OrderedMap

namespace A2A

open Library

/-! The protocol's data types, as the generated TypeScript interfaces declare them.

A repeated field that is absent and one that is empty are the same list here;
every function of the repository that reads such a field treats them alike.
-/

/-- JSON values.  Finite doubles are rationals, and objects keep the order of
their keys. -/
inductive JsonValue where
  | null
  | bool (value : Bool)
  | number (value : Rat)
  | string (value : String)
  | array (values : List JsonValue)
  | object (fields : List (String × JsonValue))

abbrev Metadata := OrderedMap String JsonValue

inductive TaskState where
  | unspecified
  | submitted
  | working
  | completed
  | failed
  | canceled
  | inputRequired
  | rejected
  | authRequired
  | unrecognized
deriving DecidableEq, Repr

/-- The enumeration's wire number, which error messages print. -/
def TaskState.toNumber : TaskState → Int
  | .unspecified => 0
  | .submitted => 1
  | .working => 2
  | .completed => 3
  | .failed => 4
  | .canceled => 5
  | .inputRequired => 6
  | .rejected => 7
  | .authRequired => 8
  | .unrecognized => -1

inductive Role where
  | unspecified
  | user
  | agent
  | unrecognized
deriving DecidableEq, Repr

inductive PartContent where
  | text (value : String)
  | raw (value : List UInt8)
  | url (value : String)
  | data (value : Option JsonValue)

structure Part where
  content : Option PartContent
  metadata : Option Metadata
  filename : String
  mediaType : String

structure Message where
  messageId : String
  contextId : String
  taskId : String
  role : Role
  parts : List Part
  metadata : Option Metadata
  extensions : List String
  referenceTaskIds : List String

structure Artifact where
  artifactId : String
  name : String
  description : String
  parts : List Part
  metadata : Option Metadata
  extensions : List String

structure TaskStatus where
  state : TaskState
  message : Option Message
  timestamp : Option String

structure Task where
  id : String
  contextId : String
  status : Option TaskStatus
  artifacts : List Artifact
  history : List Message
  metadata : Option Metadata

/-- `task.status?.state` -/
def Task.state (task : Task) : Option TaskState := task.status.map TaskStatus.state

structure TaskStatusUpdateEvent where
  taskId : String
  contextId : String
  status : Option TaskStatus
  metadata : Option Metadata

structure TaskArtifactUpdateEvent where
  taskId : String
  contextId : String
  artifact : Option Artifact
  append : Bool
  lastChunk : Bool
  metadata : Option Metadata

structure AuthenticationInfo where
  scheme : String
  credentials : String

structure TaskPushNotificationConfig where
  tenant : String
  id : String
  taskId : String
  url : String
  token : String
  authentication : Option AuthenticationInfo

structure SendMessageConfiguration where
  acceptedOutputModes : List String
  taskPushNotificationConfig : Option TaskPushNotificationConfig
  historyLength : Option Int
  returnImmediately : Bool

structure SendMessageRequest where
  tenant : String
  message : Option Message
  configuration : Option SendMessageConfiguration
  metadata : Option Metadata

structure ListTasksRequest where
  tenant : String
  contextId : String
  status : TaskState
  pageSize : Option Int
  pageToken : String
  historyLength : Option Int
  statusTimestampAfter : Option String
  includeArtifacts : Option Bool

structure ListTasksResponse where
  tasks : List Task
  nextPageToken : String
  pageSize : Int
  totalSize : Nat

/-- `StreamResponse.payload`, whose cases are the events of an execution. -/
inductive StreamResponse where
  | task (value : Task)
  | message (value : Message)
  | statusUpdate (value : TaskStatusUpdateEvent)
  | artifactUpdate (value : TaskArtifactUpdateEvent)

structure AgentExtension where
  uri : String
  description : String
  required : Bool

structure AgentCapabilities where
  streaming : Bool
  pushNotifications : Bool
  extensions : List AgentExtension

/-- The part of the agent card that the request handler reads. -/
structure AgentCard where
  capabilities : Option AgentCapabilities

end A2A
