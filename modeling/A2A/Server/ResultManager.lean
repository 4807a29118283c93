import A2A.Server.Events

namespace A2A.Server

/-! The merge rules of `ResultManager`, as functions of the event and the loaded row.

Every function here is what one locked section computes between its load and
its save; the sections themselves are steps of the request handler's system.
-/

def hasMessage (history : List Message) (messageId : String) : Bool :=
  history.any (fun message => message.messageId = messageId)

/-- `incomingById`: the last incoming artifact with the id. -/
def incomingById (incoming : List Artifact) (artifactId : String) : Option Artifact :=
  incoming.reverse.find? (fun artifact => artifact.artifactId = artifactId)

/-- `ResultManager.mergeArtifacts` -/
def mergeArtifacts (persisted incoming : List Artifact) : List Artifact :=
  if persisted.isEmpty then incoming
  else if incoming.isEmpty then persisted
  else
    persisted.map (fun artifact => (incomingById incoming artifact.artifactId).getD artifact) ++
      incoming.filter (fun artifact =>
        !persisted.any (fun stored => stored.artifactId = artifact.artifactId))

def mergeMetadata : Option Metadata → Option Metadata → Option Metadata
  | none, none => none
  | persisted, incoming =>
      some ((persisted.getD .empty).overlay (incoming.getD .empty))

/-- The merge with a persisted task, lines 184 to 202 of `processTaskEventLocked`. -/
def mergePersisted (persisted taskEvent : Task) : Task :=
  { taskEvent with
    history := if taskEvent.history.isEmpty then persisted.history else taskEvent.history
    artifacts := mergeArtifacts persisted.artifacts taskEvent.artifacts
    metadata := mergeMetadata persisted.metadata taskEvent.metadata }

def prependUserMessage (latestUserMessage : Option Message) (task : Task) : Task :=
  match latestUserMessage with
  | none => task
  | some latest =>
      if hasMessage task.history latest.messageId then task
      else { task with history := latest :: task.history }

/-- The task `processTaskEventLocked` saves. -/
def mergeTaskEvent (latestUserMessage : Option Message) (persistedTask : Option Task)
    (taskEvent : Task) : Task :=
  prependUserMessage latestUserMessage
    (match persistedTask with
      | some persisted => if persisted.id = taskEvent.id then mergePersisted persisted taskEvent
          else taskEvent
      | none => taskEvent)

/-- The task `applyStatusUpdate` saves. -/
def mergeStatusUpdate (task : Task) (updateEvent : TaskStatusUpdateEvent) : Task :=
  { task with
    status := updateEvent.status
    history :=
      match updateEvent.status.bind TaskStatus.message with
      | none => task.history
      | some update =>
          if hasMessage task.history update.messageId then task.history
          else task.history ++ [update] }

def appendToArtifact (existing artifact : Artifact) : Artifact :=
  { existing with
    parts := existing.parts ++ artifact.parts
    description := if artifact.description = "" then existing.description else artifact.description
    name := if artifact.name = "" then existing.name else artifact.name
    metadata :=
      match artifact.metadata with
      | none => existing.metadata
      | some incoming => some ((existing.metadata.getD .empty).overlay incoming) }

/-- The artifact list `applyArtifactUpdate` leaves behind: the first artifact
with the id is extended or replaced, a new one goes to the end. -/
def updateArtifacts (append : Bool) (artifact : Artifact) : List Artifact → List Artifact
  | [] => [artifact]
  | existing :: rest =>
      if existing.artifactId = artifact.artifactId then
        (if append then appendToArtifact existing artifact else artifact) :: rest
      else existing :: updateArtifacts append artifact rest

/-- The task `applyArtifactUpdate` saves. -/
def mergeArtifactUpdate (task : Task) (append : Bool) (artifact : Artifact) : Task :=
  { task with artifacts := updateArtifacts append artifact task.artifacts }

structure ResultManager where
  currentTask : Option Task
  latestUserMessage : Option Message
  finalMessageResult : Option Message

namespace ResultManager

def new : ResultManager := ⟨none, none, none⟩

def setContext (manager : ResultManager) (latestUserMessage : Message) : ResultManager :=
  { manager with latestUserMessage := some latestUserMessage }

inductive FinalResult where
  | message (value : Message)
  | task (value : Task)

def getFinalResult (manager : ResultManager) : Option FinalResult :=
  match manager.finalMessageResult with
  | some message => some (.message message)
  | none => manager.currentTask.map .task

/-- Does the locked section call `taskStore.load`, and can it fail there? -/
def needsLoad : AgentExecutionEvent → Bool
  | .message _ => false
  | .task data => data.id != ""
  | .statusUpdate data => data.taskId != ""
  | .artifactUpdate data => data.artifact.isSome && data.taskId != ""

/-- One locked section after its load: the new manager, and whether it saves
its current task.  `loaded` is `none` when the section loads nothing. -/
def merge (manager : ResultManager) (loaded : Option Task) :
    AgentExecutionEvent → ResultManager × Bool
  | .message data => ({ manager with finalMessageResult := some data }, false)
  | .task data =>
      ({ manager with currentTask := some (mergeTaskEvent manager.latestUserMessage loaded data) },
        true)
  | .statusUpdate data =>
      match loaded with
      | some task =>
          if task.id = data.taskId then
            ({ manager with currentTask := some (mergeStatusUpdate task data) }, true)
          else ({ manager with currentTask := some task }, false)
      | none => ({ manager with currentTask := none }, false)
  | .artifactUpdate data =>
      match data.artifact with
      | none => (manager, false)
      | some artifact =>
          match loaded with
          | some task =>
              if task.id = data.taskId then
                ({ manager with
                  currentTask := some (mergeArtifactUpdate task data.append artifact) }, true)
              else ({ manager with currentTask := some task }, false)
          | none => ({ manager with currentTask := none }, false)

end ResultManager

end A2A.Server
