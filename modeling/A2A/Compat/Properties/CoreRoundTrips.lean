import A2A.Compat.Translate
import A2A.Library.Codec

namespace A2A.Compat

open Library

/-! Today's stream responses through the v0.3 JSON types and back.

`Representable` names, type by type, the values that v0.3 has room for; each of
them comes back whole.
-/

/-- Metadata that the other side tells apart from none, and from that of a wrapped value. -/
structure Distinct (metadata : Metadata) : Prop where
  filled : metadata.entries ≠ []
  unreserved : metadata.get? dataPartCompatFlag = none

/-- A text or a data part names no file, and a data part has its value. -/
def HasRoom (part : A2A.Part) : A2A.PartContent → Prop
  | .text _ => part.filename = "" ∧ part.mediaType = ""
  | .data value => part.filename = "" ∧ part.mediaType = "" ∧ value.isSome = true
  | .raw _ | .url _ => True

structure RepresentablePart (part : A2A.Part) : Prop where
  content : ∃ content, part.content = some content ∧ HasRoom part content
  metadata : ∀ metadata ∈ part.metadata, Distinct metadata

/-- Metadata as a part holds it: an empty map is left out. -/
def unlessEmpty (metadata : Metadata) : Option Metadata :=
  if metadata.entries.isEmpty then none else some metadata

/-- What a wrapped value comes back with, whatever metadata it went out with. -/
theorem wrapper_returns (value : JsonValue) (metadata : Metadata) :
    toCorePart (.data [("value", value)] (some (metadata.set dataPartCompatFlag (.bool true)))) =
      .ok ⟨some (.data (some value)),
        unlessEmpty ((metadata.set dataPartCompatFlag (.bool true)).erase dataPartCompatFlag), "", ""⟩ := by
  have flagged : isTrue ((metadata.set dataPartCompatFlag (.bool true)).get? dataPartCompatFlag) = true := by
    rw [OrderedMap.get?_set_self]
    rfl
  simp only [toCorePart, flagged, if_true, OrderedMap.lookup, Option.getD_some, unlessEmpty]

/-- The flag is set on the way out and taken off again on the way in. -/
theorem wrapper_keeps (value : JsonValue) {metadata : Option Metadata}
    (distinct : ∀ given ∈ metadata, Distinct given) :
    toCorePart (.data [("value", value)]
        (some ((metadata.getD .empty).set dataPartCompatFlag (.bool true)))) =
      .ok ⟨some (.data (some value)), metadata, "", ""⟩ := by
  rw [wrapper_returns]
  cases metadata with
  | none => rfl
  | some given =>
      obtain ⟨filled, unreserved⟩ := distinct given rfl
      simp [OrderedMap.erase_set _ unreserved, unlessEmpty, filled]

theorem object_keeps (fields : JsonObject) {metadata : Option Metadata}
    (distinct : ∀ given ∈ metadata, Distinct given) :
    toCorePart (.data fields metadata) =
      .ok ⟨some (.data (some (.object fields))), metadata, "", ""⟩ := by
  cases metadata with
  | none => rfl
  | some given => simp [toCorePart, (distinct given rfl).unreserved, isTrue]

theorem part_keeps {part : A2A.Part} (representable : RepresentablePart part) :
    Keeps toCompatPart toCorePart part part := by
  obtain ⟨⟨content, given, room⟩, distinct⟩ := representable
  obtain ⟨_, metadata, filename, mediaType⟩ := part
  cases given
  cases content with
  | text value =>
      obtain ⟨rfl, rfl⟩ := room
      exact ⟨_, rfl, rfl⟩
  | raw value => exact ⟨_, rfl, by simp [toCorePart]⟩
  | url value => exact ⟨_, rfl, by simp [toCorePart]⟩
  | data value =>
      obtain ⟨rfl, rfl, present⟩ := room
      obtain ⟨value, rfl⟩ := Option.isSome_iff_exists.mp present
      cases value with
      | object fields => exact ⟨_, rfl, object_keeps fields distinct⟩
      | _ => exact ⟨_, rfl, wrapper_keeps _ distinct⟩

structure RepresentableMessage (message : A2A.Message) : Prop where
  messageId : message.messageId ≠ ""
  role : message.role = .user ∨ message.role = .agent
  parts : ∀ part ∈ message.parts, RepresentablePart part

theorem role_keeps {role : A2A.Role} (named : role = .user ∨ role = .agent) :
    toCoreRole (toCompatRole role) = role := by
  rcases named with rfl | rfl <;> rfl

theorem parts_keep {parts : List A2A.Part} (each : ∀ part ∈ parts, RepresentablePart part) :
    Keeps (List.mapM toCompatPart) (List.mapM toCorePart) parts parts :=
  Keeps.mapM_self parts (fun part listed => part_keeps (each part listed))

theorem message_keeps {message : A2A.Message} (representable : RepresentableMessage message) :
    Keeps toCompatMessage toCoreMessage message message := by
  obtain ⟨parts, written, read⟩ := parts_keep representable.parts
  refine ⟨_, by rw [toCompatMessage, written]; rfl, ?_⟩
  simp only [toCoreMessage, if_neg representable.messageId, read, getD_nonEmpty, getD_nonEmptyArray,
    role_keeps representable.role]
  rfl

structure RepresentableStatus (status : A2A.TaskStatus) : Prop where
  state : status.state ≠ .unrecognized
  message : ∀ message ∈ status.message, RepresentableMessage message
  timestamp : status.timestamp ≠ some ""

/-- v0.3 has a name for every state that today's enumeration recognises. -/
theorem state_keeps {state : A2A.TaskState} (recognized : state ≠ .unrecognized) :
    toCoreTaskState (toCompatTaskState state) = state := by
  cases state with
  | unrecognized => exact absurd rfl recognized
  | _ => rfl

theorem timestamp_keeps {timestamp : Option String} (filled : timestamp ≠ some "") :
    timestamp.bind nonEmpty = timestamp := by
  cases timestamp with
  | none => rfl
  | some text =>
      have filled : text ≠ "" := fun empty => filled (by rw [empty])
      simp [nonEmpty, filled]

theorem message?_keeps {message : Option A2A.Message}
    (representable : ∀ given ∈ message, RepresentableMessage given) :
    Keeps toCompatMessage? toCoreMessage? message message := by
  cases message with
  | none => exact ⟨none, rfl, rfl⟩
  | some given =>
      obtain ⟨compat, written, read⟩ := message_keeps (representable given rfl)
      exact ⟨some compat, by rw [toCompatMessage?, written]; rfl, by rw [toCoreMessage?, read]; rfl⟩

theorem status_keeps {status : A2A.TaskStatus} (representable : RepresentableStatus status) :
    Keeps toCompatTaskStatus toCoreTaskStatus status status := by
  obtain ⟨message, written, read⟩ := message?_keeps representable.message
  refine ⟨_, by rw [toCompatTaskStatus, written]; rfl, ?_⟩
  simp only [toCoreTaskStatus, read, state_keeps representable.state,
    timestamp_keeps representable.timestamp]
  rfl

def RepresentableArtifact (artifact : A2A.Artifact) : Prop :=
  ∀ part ∈ artifact.parts, RepresentablePart part

theorem artifact_keeps {artifact : A2A.Artifact} (representable : RepresentableArtifact artifact) :
    Keeps toCompatArtifact toCoreArtifact artifact artifact := by
  obtain ⟨parts, written, read⟩ := parts_keep representable
  refine ⟨_, by rw [toCompatArtifact, written]; rfl, ?_⟩
  simp only [toCoreArtifact, read, getD_nonEmpty, getD_nonEmptyArray]
  rfl

structure RepresentableTask (task : A2A.Task) : Prop where
  status : ∃ status, task.status = some status ∧ RepresentableStatus status
  artifacts : ∀ artifact ∈ task.artifacts, RepresentableArtifact artifact
  history : ∀ message ∈ task.history, RepresentableMessage message

theorem task_keeps {task : A2A.Task} (representable : RepresentableTask task) :
    Keeps toCompatTask toCoreTask task task := by
  obtain ⟨id, contextId, _, artifacts, history, metadata⟩ := task
  obtain ⟨⟨status, given, representableStatus⟩, eachArtifact, eachMessage⟩ := representable
  cases given
  obtain ⟨compatStatus, statusWritten, statusRead⟩ := status_keeps representableStatus
  obtain ⟨compatHistory, historyWritten, historyRead⟩ := Keeps.mapM_self history
    (fun message listed => message_keeps (eachMessage message listed))
  obtain ⟨compatArtifacts, artifactsWritten, artifactsRead⟩ := Keeps.mapM_self artifacts
    (fun artifact listed => artifact_keeps (eachArtifact artifact listed))
  refine ⟨_, by rw [toCompatTask, toCompatTaskStatus?, statusWritten, historyWritten,
    artifactsWritten]; rfl, ?_⟩
  simp only [toCoreTask, statusRead, getD_nonEmptyArray, artifactsRead, historyRead]
  rfl

def RepresentableStatusUpdate (event : A2A.TaskStatusUpdateEvent) : Prop :=
  ∃ status, event.status = some status ∧ RepresentableStatus status

theorem statusUpdate_keeps {event : A2A.TaskStatusUpdateEvent}
    (representable : RepresentableStatusUpdate event) :
    Keeps toCompatTaskStatusUpdateEvent toCoreTaskStatusUpdateEvent event event := by
  obtain ⟨taskId, contextId, _, metadata⟩ := event
  obtain ⟨status, given, representableStatus⟩ := representable
  cases given
  obtain ⟨compatStatus, written, read⟩ := status_keeps representableStatus
  refine ⟨_, by rw [toCompatTaskStatusUpdateEvent, toCompatTaskStatus?, written]; rfl, ?_⟩
  simp only [toCoreTaskStatusUpdateEvent, read]
  rfl

def RepresentableArtifactUpdate (event : A2A.TaskArtifactUpdateEvent) : Prop :=
  ∃ artifact, event.artifact = some artifact ∧ RepresentableArtifact artifact

theorem artifactUpdate_keeps {event : A2A.TaskArtifactUpdateEvent}
    (representable : RepresentableArtifactUpdate event) :
    Keeps toCompatTaskArtifactUpdateEvent toCoreTaskArtifactUpdateEvent event event := by
  obtain ⟨taskId, contextId, _, append, lastChunk, metadata⟩ := event
  obtain ⟨artifact, given, representableArtifact⟩ := representable
  cases given
  obtain ⟨compatArtifact, written, read⟩ := artifact_keeps representableArtifact
  refine ⟨_, by simp only [toCompatTaskArtifactUpdateEvent, written]; rfl, ?_⟩
  simp only [toCoreTaskArtifactUpdateEvent, read, Option.getD_some]
  rfl

/-- The fragment of the stream responses that v0.3 can say. -/
def Representable : A2A.StreamResponse → Prop
  | .message value => RepresentableMessage value
  | .task value => RepresentableTask value
  | .statusUpdate value => RepresentableStatusUpdate value
  | .artifactUpdate value => RepresentableArtifactUpdate value

theorem streamResult_keeps {core : A2A.StreamResponse} (representable : Representable core) :
    Keeps toCompatStreamResult toCoreStreamPayload core core := by
  cases core with
  | message value =>
      obtain ⟨compat, written, read⟩ := message_keeps representable
      exact ⟨.message compat, by rw [toCompatStreamResult, written]; rfl,
        by rw [toCoreStreamPayload, read]; rfl⟩
  | task value =>
      obtain ⟨compat, written, read⟩ := task_keeps representable
      exact ⟨.task compat, by rw [toCompatStreamResult, written]; rfl,
        by rw [toCoreStreamPayload, read]; rfl⟩
  | statusUpdate value =>
      obtain ⟨compat, written, read⟩ := statusUpdate_keeps representable
      exact ⟨.statusUpdate compat, by rw [toCompatStreamResult, written]; rfl,
        by rw [toCoreStreamPayload, read]; rfl⟩
  | artifactUpdate value =>
      obtain ⟨compat, written, read⟩ := artifactUpdate_keeps representable
      exact ⟨.artifactUpdate compat, by rw [toCompatStreamResult, written]; rfl,
        by rw [toCoreStreamPayload, read]; rfl⟩

/-- What v0.3 can say comes back as it was, under whatever id it was sent. -/
theorem toCore_toCompat {core : A2A.StreamResponse} (representable : Representable core)
    (requestId : JsonValue) :
    (toCompatStreamResponse core requestId >>= toCoreStreamResponse) = .ok core := by
  obtain ⟨result, written, read⟩ := streamResult_keeps representable
  rw [toCompatStreamResponse, written]
  exact read

/-- A status update that says a bare number. -/
def numberUpdate : A2A.TaskStatusUpdateEvent where
  taskId := "t"
  contextId := "c"
  status := some {
    state := .working
    message := some {
      messageId := "m"
      contextId := ""
      taskId := "t"
      role := .agent
      parts := [⟨some (.data (some (.number 5))), none, "", ""⟩]
      metadata := none
      extensions := []
      referenceTaskIds := [] }
    timestamp := none }
  metadata := none

theorem toCore_toCompat_number :
    Representable (.statusUpdate numberUpdate) ∧
      (toCompatStreamResponse (.statusUpdate numberUpdate) (.string "1") >>= toCoreStreamResponse) =
        .ok (.statusUpdate numberUpdate) := by
  have representable : Representable (.statusUpdate numberUpdate) := by
    refine ⟨_, rfl, nofun, ?_, nofun⟩
    rintro message ⟨⟩
    refine ⟨by decide, .inr rfl, ?_⟩
    intro part listed
    rw [List.mem_singleton.mp listed]
    exact ⟨⟨_, rfl, rfl, rfl, rfl⟩, nofun⟩
  exact ⟨representable, toCore_toCompat representable (.string "1")⟩

end A2A.Compat
