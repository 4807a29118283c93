import A2A.Compat.Converters
import A2A.Library.Codec

namespace A2A.Compat

open Library

/-! What the JSON view of a v0.3 stream response keeps of its protobuf message. -/

namespace Proto

def Part.IsSet (part : Part) : Prop :=
  match part.part with
  | some (.file value) => value.file.isSome = true
  | some _ => True
  | none => False

/-- The part after a round trip: a data part is given an empty object when it had none. -/
def Part.kept (part : Part) : Part :=
  match part.part with
  | some (.data value) => ⟨some (.data ⟨some (value.data.getD [])⟩)⟩
  | _ => part

/-- A data part has its data. -/
def Part.Carried (part : Part) : Prop :=
  match part.part with
  | some (.data value) => value.data.isSome = true
  | _ => True

theorem Part.kept_eq_iff (part : Part) : part.kept = part ↔ part.Carried := by
  rcases part with ⟨_ | _ | _ | ⟨_ | data⟩⟩ <;> simp [kept, Carried]

theorem Part.keeps {part : Part} (set : part.IsSet) :
    Keeps FromProto.part ToProto.part part part.kept := by
  rcases part with ⟨_ | text | ⟨_ | uri | bytes, mimeType⟩ | data⟩
  · exact set.elim
  · exact ⟨_, rfl, rfl⟩
  · simp [IsSet] at set
  · exact ⟨_, rfl, rfl⟩
  · refine ⟨_, rfl, ?_⟩
    simp [ToProto.part, kept]
  · exact ⟨_, rfl, rfl⟩

structure Message.WellFormed (message : Message) : Prop where
  role : message.role = .user ∨ message.role = .agent
  content : ∀ part ∈ message.content, part.IsSet

def Message.kept (message : Message) : Message :=
  { message with content := message.content.map Part.kept }

def Message.Carried (message : Message) : Prop := ∀ part ∈ message.content, part.Carried

theorem Message.kept_eq_iff (message : Message) : message.kept = message ↔ message.Carried := by
  rcases message with ⟨messageId, contextId, taskId, role, content, metadata, extensions⟩
  simp [kept, Carried, map_eq_self_iff, Part.kept_eq_iff]

theorem Message.keeps {message : Message} (formed : message.WellFormed) :
    Keeps FromProto.message ToProto.message message message.kept := by
  obtain ⟨parts, read, written⟩ :=
    Keeps.mapM message.content (fun part member => Part.keeps (formed.content part member))
  rcases formed.role with user | agent
  · refine ⟨_, by rw [FromProto.message, read, user]; rfl, ?_⟩
    simp only [ToProto.message, written, getD_nonEmpty, kept, user]
    rfl
  · refine ⟨_, by rw [FromProto.message, read, agent]; rfl, ?_⟩
    simp only [ToProto.message, written, getD_nonEmpty, kept, agent]
    rfl

structure TaskStatus.WellFormed (status : TaskStatus) : Prop where
  state : status.state ≠ .unrecognized
  update : ∀ message ∈ status.update, message.WellFormed

def TaskStatus.kept (status : TaskStatus) : TaskStatus :=
  { status with update := status.update.map Message.kept }

def TaskStatus.Carried (status : TaskStatus) : Prop := ∀ message ∈ status.update, message.Carried

theorem TaskStatus.kept_eq_iff (status : TaskStatus) : status.kept = status ↔ status.Carried := by
  rcases status with ⟨state, _ | update, timestamp⟩
  · simp [kept, Carried]
  · simp [kept, Carried, Message.kept_eq_iff]

/-- Every state that the enumeration recognises has one name. -/
theorem taskState_keeps {state : TaskState} (recognized : state ≠ .unrecognized) :
    ∃ name, FromProto.taskState state = .ok name ∧ ToProto.taskState name = state := by
  cases state with
  | unrecognized => exact (recognized rfl).elim
  | _ => exact ⟨_, rfl, rfl⟩

theorem TaskStatus.keeps {status : TaskStatus} (formed : status.WellFormed) :
    Keeps FromProto.taskStatus ToProto.taskStatus status status.kept := by
  rcases status with ⟨state, update, timestamp⟩
  obtain ⟨name, named, back⟩ := taskState_keeps formed.state
  cases update with
  | none =>
      refine ⟨⟨name, none, timestamp⟩, ?_, ?_⟩
      · rw [FromProto.taskStatus]
        simp only at named
        rw [named]
        rfl
      · simp only at back
        rw [← back]
        rfl
  | some update =>
      obtain ⟨message, read, written⟩ := Message.keeps (formed.update update rfl)
      simp only at named back
      refine ⟨⟨name, some message, timestamp⟩, ?_, ?_⟩
      · rw [FromProto.taskStatus, FromProto.message?, read, named]
        rfl
      · rw [ToProto.taskStatus, ToProto.message?, written, back]
        rfl

def Artifact.WellFormed (artifact : Artifact) : Prop := ∀ part ∈ artifact.parts, part.IsSet

/-- The artifact after a round trip, without its extensions. -/
def Artifact.kept (artifact : Artifact) : Artifact :=
  { artifact with parts := artifact.parts.map Part.kept, extensions := [] }

structure Artifact.Carried (artifact : Artifact) : Prop where
  parts : ∀ part ∈ artifact.parts, part.Carried
  extensions : artifact.extensions = []

theorem Artifact.kept_eq_iff (artifact : Artifact) : artifact.kept = artifact ↔ artifact.Carried := by
  rcases artifact with ⟨artifactId, name, description, parts, metadata, extensions⟩
  simp only [kept, mk.injEq, map_eq_self_iff, Part.kept_eq_iff, true_and]
  exact ⟨fun same => ⟨same.1, same.2.symm⟩, fun carried => ⟨carried.parts, carried.extensions.symm⟩⟩

theorem Artifact.keeps {artifact : Artifact} (formed : artifact.WellFormed) :
    Keeps FromProto.artifact ToProto.artifact artifact artifact.kept := by
  obtain ⟨parts, read, written⟩ :=
    Keeps.mapM artifact.parts (fun part member => Part.keeps (formed part member))
  refine ⟨_, by rw [FromProto.artifact, read]; rfl, ?_⟩
  simp only [ToProto.artifact, written, getD_nonEmpty, kept]
  rfl

structure Task.WellFormed (task : Task) : Prop where
  status : ∃ status, task.status = some status ∧ status.WellFormed
  artifacts : ∀ artifact ∈ task.artifacts, artifact.WellFormed
  history : ∀ message ∈ task.history, message.WellFormed

def Task.kept (task : Task) : Task :=
  { task with
    status := task.status.map TaskStatus.kept
    artifacts := task.artifacts.map Artifact.kept
    history := task.history.map Message.kept }

structure Task.Carried (task : Task) : Prop where
  status : ∀ status ∈ task.status, status.Carried
  artifacts : ∀ artifact ∈ task.artifacts, artifact.Carried
  history : ∀ message ∈ task.history, message.Carried

theorem Task.kept_eq_iff (task : Task) : task.kept = task ↔ task.Carried := by
  rcases task with ⟨id, contextId, _ | status, artifacts, history, metadata⟩
  all_goals
    simp only [kept, mk.injEq, Option.map_none, Option.map_some, Option.some.injEq, map_eq_self_iff,
      TaskStatus.kept_eq_iff, Artifact.kept_eq_iff, Message.kept_eq_iff, true_and, and_true]
  · exact ⟨fun same => ⟨nofun, same.1, same.2⟩, fun carried => ⟨carried.artifacts, carried.history⟩⟩
  · constructor
    · intro same
      exact ⟨fun other listed => Option.some.inj listed ▸ same.1, same.2.1, same.2.2⟩
    · intro carried
      exact ⟨carried.status status rfl, carried.artifacts, carried.history⟩

theorem Task.keeps {task : Task} (formed : task.WellFormed) :
    Keeps FromProto.task ToProto.task task task.kept := by
  rcases task with ⟨id, contextId, current, artifacts, history, metadata⟩
  obtain ⟨status, present, statusFormed⟩ := formed.status
  obtain ⟨readStatus, hasStatus, wroteStatus⟩ := TaskStatus.keeps statusFormed
  obtain ⟨readArtifacts, hasArtifacts, wroteArtifacts⟩ :=
    Keeps.mapM artifacts (fun artifact member => Artifact.keeps (formed.artifacts artifact member))
  obtain ⟨readHistory, hasHistory, wroteHistory⟩ :=
    Keeps.mapM history (fun message member => Message.keeps (formed.history message member))
  simp only at present
  subst present
  refine ⟨⟨id, contextId, readStatus, some readArtifacts, some readHistory, metadata⟩, ?_, ?_⟩
  · simp only [FromProto.task, hasStatus, hasArtifacts, hasHistory]
    rfl
  · simp only [ToProto.task, wroteStatus, Option.getD_some, wroteArtifacts, wroteHistory, kept]
    rfl

def TaskStatusUpdateEvent.WellFormed (event : TaskStatusUpdateEvent) : Prop :=
  ∃ status, event.status = some status ∧ status.WellFormed

def TaskStatusUpdateEvent.kept (event : TaskStatusUpdateEvent) : TaskStatusUpdateEvent :=
  { event with status := event.status.map TaskStatus.kept }

def TaskStatusUpdateEvent.Carried (event : TaskStatusUpdateEvent) : Prop :=
  ∀ status ∈ event.status, status.Carried

theorem TaskStatusUpdateEvent.kept_eq_iff (event : TaskStatusUpdateEvent) :
    event.kept = event ↔ event.Carried := by
  rcases event with ⟨taskId, contextId, _ | status, final, metadata⟩
  · simp [kept, Carried]
  · simp [kept, Carried, TaskStatus.kept_eq_iff]

theorem TaskStatusUpdateEvent.keeps {event : TaskStatusUpdateEvent} (formed : event.WellFormed) :
    Keeps FromProto.taskStatusUpdateEvent ToProto.taskStatusUpdateEvent event event.kept := by
  rcases event with ⟨taskId, contextId, current, final, metadata⟩
  obtain ⟨status, present, statusFormed⟩ := formed
  obtain ⟨readStatus, hasStatus, wroteStatus⟩ := TaskStatus.keeps statusFormed
  simp only at present
  subst present
  refine ⟨⟨taskId, contextId, readStatus, final, metadata⟩, ?_, ?_⟩
  · simp only [FromProto.taskStatusUpdateEvent, hasStatus]
    rfl
  · simp only [ToProto.taskStatusUpdateEvent, wroteStatus, kept]
    rfl

def TaskArtifactUpdateEvent.WellFormed (event : TaskArtifactUpdateEvent) : Prop :=
  ∃ artifact, event.artifact = some artifact ∧ artifact.WellFormed

/-- The event after a round trip, which no longer says that the artifact is to be appended. -/
def TaskArtifactUpdateEvent.kept (event : TaskArtifactUpdateEvent) : TaskArtifactUpdateEvent :=
  { event with artifact := event.artifact.map Artifact.kept, append := false }

structure TaskArtifactUpdateEvent.Carried (event : TaskArtifactUpdateEvent) : Prop where
  artifact : ∀ artifact ∈ event.artifact, artifact.Carried
  append : event.append = false

theorem TaskArtifactUpdateEvent.kept_eq_iff (event : TaskArtifactUpdateEvent) :
    event.kept = event ↔ event.Carried := by
  rcases event with ⟨taskId, contextId, _ | artifact, append, lastChunk, metadata⟩
  all_goals
    simp only [kept, mk.injEq, Option.map_none, Option.map_some, Option.some.injEq,
      Artifact.kept_eq_iff, true_and, and_true]
  · exact ⟨fun same => ⟨nofun, same.symm⟩, fun carried => carried.append.symm⟩
  · constructor
    · intro same
      exact ⟨fun other listed => Option.some.inj listed ▸ same.1, same.2.symm⟩
    · intro carried
      exact ⟨carried.artifact artifact rfl, carried.append.symm⟩

theorem TaskArtifactUpdateEvent.keeps {event : TaskArtifactUpdateEvent} (formed : event.WellFormed) :
    Keeps FromProto.taskArtifactUpdateEvent ToProto.taskArtifactUpdateEvent event event.kept := by
  rcases event with ⟨taskId, contextId, current, append, lastChunk, metadata⟩
  obtain ⟨artifact, present, artifactFormed⟩ := formed
  obtain ⟨readArtifact, hasArtifact, wroteArtifact⟩ := Artifact.keeps artifactFormed
  simp only at present
  subst present
  refine ⟨⟨taskId, contextId, readArtifact, none, some lastChunk, metadata⟩, ?_, ?_⟩
  · simp only [FromProto.taskArtifactUpdateEvent, hasArtifact]
    rfl
  · simp only [ToProto.taskArtifactUpdateEvent, wroteArtifact, kept]
    rfl

/-- The oneofs that a stream response needs are set, roles are a user's or an agent's, and
states are recognised. -/
def StreamResponse.WellFormed (response : StreamResponse) : Prop :=
  match response.payload with
  | some (.msg value) => value.WellFormed
  | some (.task value) => value.WellFormed
  | some (.statusUpdate value) => value.WellFormed
  | some (.artifactUpdate value) => value.WellFormed
  | none => False

def StreamResponse.kept (response : StreamResponse) : StreamResponse :=
  match response.payload with
  | some (.msg value) => ⟨some (.msg value.kept)⟩
  | some (.task value) => ⟨some (.task value.kept)⟩
  | some (.statusUpdate value) => ⟨some (.statusUpdate value.kept)⟩
  | some (.artifactUpdate value) => ⟨some (.artifactUpdate value.kept)⟩
  | none => response

/-- Every data part has its data, no artifact has extensions, and nothing is to be appended. -/
def StreamResponse.Carried (response : StreamResponse) : Prop :=
  match response.payload with
  | some (.msg value) => value.Carried
  | some (.task value) => value.Carried
  | some (.statusUpdate value) => value.Carried
  | some (.artifactUpdate value) => value.Carried
  | none => True

theorem StreamResponse.kept_eq_iff (response : StreamResponse) :
    response.kept = response ↔ response.Carried := by
  rcases response with ⟨_ | value | value | value | value⟩
  · simp [kept, Carried]
  · simp [kept, Carried, Message.kept_eq_iff]
  · simp [kept, Carried, Task.kept_eq_iff]
  · simp [kept, Carried, TaskStatusUpdateEvent.kept_eq_iff]
  · simp [kept, Carried, TaskArtifactUpdateEvent.kept_eq_iff]

theorem StreamResponse.keeps {response : StreamResponse} (formed : response.WellFormed) :
    Keeps FromProto.messageStreamResult ToProto.messageStreamResult response response.kept := by
  rcases response with ⟨_ | value | value | value | value⟩
  · exact formed.elim
  · obtain ⟨decoded, read, written⟩ := Message.keeps formed
    exact ⟨.message decoded, by simp [FromProto.messageStreamResult, read, Except.map],
      by simp [ToProto.messageStreamResult, written, kept]⟩
  · obtain ⟨decoded, read, written⟩ := Task.keeps formed
    exact ⟨.task decoded, by simp [FromProto.messageStreamResult, read, Except.map],
      by simp [ToProto.messageStreamResult, written, kept]⟩
  · obtain ⟨decoded, read, written⟩ := TaskStatusUpdateEvent.keeps formed
    exact ⟨.statusUpdate decoded, by simp [FromProto.messageStreamResult, read, Except.map],
      by simp [ToProto.messageStreamResult, written, kept]⟩
  · obtain ⟨decoded, read, written⟩ := TaskArtifactUpdateEvent.keeps formed
    exact ⟨.artifactUpdate decoded, by simp [FromProto.messageStreamResult, read, Except.map],
      by simp [ToProto.messageStreamResult, written, kept]⟩

end Proto

/-- The view a v0.3 JSON-RPC peer gets of a stream response stands for the same message exactly
when nothing of it is lost on the way. -/
theorem messageStreamResult_roundTrip_iff (response : Proto.StreamResponse)
    (formed : response.WellFormed) :
    (FromProto.messageStreamResult response >>= ToProto.messageStreamResult) = .ok response ↔
      response.Carried :=
  (Proto.StreamResponse.keeps formed).bind_eq_self_iff.trans response.kept_eq_iff

/-- A chunk that continues an artifact. -/
def continuedChunk : Proto.StreamResponse :=
  ⟨some (.artifactUpdate {
    taskId := "t"
    contextId := "c"
    artifact := some ⟨"a", "", "", [⟨some (.text "more")⟩], none, []⟩
    append := true
    lastChunk := false
    metadata := none })⟩

theorem continuedChunk_wellFormed : continuedChunk.WellFormed :=
  ⟨_, rfl, fun part member => by
    rw [List.mem_singleton] at member
    subst member
    trivial⟩

theorem continuedChunk_roundTrip :
    continuedChunk.WellFormed ∧
      ((FromProto.messageStreamResult continuedChunk >>= ToProto.messageStreamResult) =
        .ok continuedChunk ↔ continuedChunk.Carried) :=
  ⟨continuedChunk_wellFormed, messageStreamResult_roundTrip_iff continuedChunk continuedChunk_wellFormed⟩

/-- The chunk arrives as the start of an artifact. -/
theorem messageStreamResult_loses_append :
    ¬ ∀ response : Proto.StreamResponse, response.WellFormed →
      (FromProto.messageStreamResult response >>= ToProto.messageStreamResult) = .ok response := by
  intro always
  have same := (Proto.StreamResponse.keeps continuedChunk_wellFormed).bind_eq_self_iff.mp
    (always continuedChunk continuedChunk_wellFormed)
  have carried := continuedChunk.kept_eq_iff.mp same
  exact absurd carried.append (by decide)

end A2A.Compat
