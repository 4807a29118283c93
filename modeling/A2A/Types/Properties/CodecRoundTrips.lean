import A2A.Library.Codec
import A2A.Types.Codec

namespace A2A

open Library Errors Server Client

/-! What comes back from a JSON value that the generated encoders wrote.

A field with its default is left out and read as its default again.  A data part is the exception: its
content is lost where it is `null` or missing, and with it the part's kind.
-/

section Entries

theorem lookup_given (entries : List (String × Option JsonValue)) (distinct : (entries.map Prod.fst).Nodup)
    (key : String) :
    OrderedMap.lookup (entries.filterMap fun entry => entry.2.map (entry.1, ·)) key =
      (OrderedMap.lookup entries key).join := by
  induction entries with
  | nil => rfl
  | cons entry rest ih =>
      obtain ⟨name, value⟩ := entry
      rw [List.map_cons, List.nodup_cons] at distinct
      cases value with
      | none =>
          rw [List.filterMap_cons_none rfl, ih distinct.2, OrderedMap.lookup]
          split
          · rename_i same
            rw [OrderedMap.lookup_of_not_mem (same ▸ distinct.1)]
            rfl
          · rfl
      | some value =>
          simp only [List.filterMap_cons, Option.map_some, OrderedMap.lookup]
          split
          · rfl
          · exact ih distinct.2

/-- Reading a field of an encoded object. -/
theorem field_ofEntries {entries : List (String × Option JsonValue)}
    (distinct : (entries.map Prod.fst).Nodup) (key : String) :
    field (.ofEntries entries) key = (OrderedMap.lookup entries key).join :=
  lookup_given entries distinct key

theorem assign_of_absent {α : Type} {entries : List (String × α)} {key : String}
    (absent : key ∉ entries.map Prod.fst) (value : α) :
    OrderedMap.assign entries key value = entries ++ [(key, value)] := by
  induction entries with
  | nil => rfl
  | cons entry rest ih =>
      rw [List.map_cons, List.mem_cons, not_or] at absent
      rw [OrderedMap.assign, if_neg (Ne.symm absent.1), ih absent.2, List.cons_append]

theorem foldl_set_entries (fields : List (String × JsonValue)) (metadata : Metadata)
    (distinct : ((metadata.entries ++ fields).map Prod.fst).Nodup) :
    (fields.foldl (fun metadata entry => metadata.set entry.1 entry.2) metadata).entries =
      metadata.entries ++ fields := by
  induction fields generalizing metadata with
  | nil => simp
  | cons entry rest ih =>
      have absent : entry.1 ∉ metadata.entries.map Prod.fst := by
        rw [List.map_append, List.map_cons, List.nodup_append] at distinct
        intro member
        exact distinct.2.2 entry.1 member entry.1 List.mem_cons_self rfl
      have appended : (metadata.set entry.1 entry.2).entries = metadata.entries ++ [entry] :=
        assign_of_absent absent entry.2
      rw [List.foldl_cons, ih _ (by rw [appended]; simpa using distinct), appended, List.append_assoc,
        List.singleton_append]

@[simp] theorem Metadata.ofFields_entries (metadata : Metadata) :
    Metadata.ofFields metadata.entries = metadata := by
  have same : (Metadata.ofFields metadata.entries).entries = metadata.entries :=
    foldl_set_entries metadata.entries .empty (by simpa [OrderedMap.empty] using metadata.distinct)
  generalize Metadata.ofFields metadata.entries = read at same
  obtain ⟨entries, distinct⟩ := metadata
  obtain ⟨others, _⟩ := read
  exact (OrderedMap.mk.injEq ..).mpr same

end Entries

section Fields

variable {conversions : Conversions} {α : Type}

@[simp] theorem firstSet_none (values : List (Option JsonValue)) :
    firstSet (none :: values) = firstSet values := rfl

@[simp] theorem firstSet_nil : firstSet [] = none := rfl

@[simp] theorem firstSet_string (text : String) (values : List (Option JsonValue)) :
    firstSet (some (.string text) :: values) = some (.string text) := rfl

@[simp] theorem readText_present {printer : Printer} (text : String) :
    readText printer [presentText text] = .ok text := by
  by_cases empty : text = ""
  · rw [presentText, if_pos empty, empty]
    rfl
  · rw [presentText, if_neg empty]
    rfl

@[simp] theorem readText_renamed {printer : Printer} (text : String) :
    readText printer [presentText text, none] = .ok text := by
  by_cases empty : text = ""
  · rw [presentText, if_pos empty, empty]
    rfl
  · rw [presentText, if_neg empty]
    rfl

@[simp] theorem readField_eq (values : List (Option JsonValue)) :
    readField conversions values = readText conversions.printer values := rfl

@[simp] theorem readMetadata_toJSON (metadata : Option Metadata) :
    readMetadata (metadata.map Metadata.toJSON) = metadata := by
  cases metadata with
  | none => rfl
  | some metadata => exact congrArg some metadata.ofFields_entries

theorem ofEntries_ne_null (entries : List (String × Option JsonValue)) : JsonValue.ofEntries entries ≠ .null := by
  intro same
  cases same

/-- Decoders read what encoders wrote one by one. -/
theorem mapM_encoded {decode : JsonValue → Except Thrown α} {encode : α → JsonValue} {read : α → α}
    (each : ∀ value, decode (encode value) = .ok (read value)) (values : List α) :
    (values.map encode).mapM decode = .ok (values.map read) := by
  induction values with
  | nil => rfl
  | cons value rest ih =>
      rw [List.map_cons, List.mapM_cons, each, ih]
      rfl

theorem readList_present {decode : JsonValue → Except Thrown α} {encode : α → JsonValue} {read : α → α}
    (each : ∀ value, decode (encode value) = .ok (read value)) (values : List α)
    {others : List (Option JsonValue)} (absent : readList decode others = .ok []) :
    readList decode (presentList encode values :: others) = .ok (values.map read) := by
  cases values with
  | nil => exact absent
  | cons value rest => exact mapM_encoded each (value :: rest)

@[simp] theorem readList_strings (values : List String) :
    readList (readString conversions) [presentList .string values] = .ok values := by
  simpa using @readList_present _ (readString conversions) JsonValue.string id (fun _ => rfl) values [] rfl

@[simp] theorem readList_strings_renamed (values : List String) :
    readList (readString conversions) [presentList .string values, none] = .ok values := by
  simpa using @readList_present _ (readString conversions) JsonValue.string id (fun _ => rfl) values [none] rfl

theorem firstSet_some {value : JsonValue} (present : value ≠ .null) (values : List (Option JsonValue)) :
    firstSet (some value :: values) = some value := by
  cases value with
  | null => exact absurd rfl present
  | _ => rfl

theorem readNested_encoded {decode : JsonValue → Except Thrown α} {encode : α → JsonValue} {read : α → α}
    (each : ∀ value, decode (encode value) = .ok (read value)) (objects : ∀ value, encode value ≠ .null)
    (value : Option α) {others : List (Option JsonValue)} (absent : firstSet others = none) :
    readNested decode (value.map encode :: others) = .ok (value.map read) := by
  cases value with
  | none =>
      rw [readNested, Option.map_none, firstSet_none, absent]
      rfl
  | some value =>
      rw [readNested, Option.map_some, firstSet_some (objects value), Option.mapM_some, each]
      rfl

@[simp] theorem readNested_string (text : Option String) :
    readNested (readString conversions) [text.map .string] = .ok text := by
  cases text <;> rfl

@[simp] theorem readNested_string_renamed (text : Option String) :
    readNested (readString conversions) [text.map .string, none] = .ok text := by
  cases text <;> rfl

@[simp] theorem readState_present (state : TaskState) : readState (presentState state) = state := by
  cases state <;> decide +kernel

@[simp] theorem readFlag_present (flag : Bool) : readFlag [presentFlag flag] = flag := by
  cases flag <;> rfl

@[simp] theorem readFlag_renamed (flag : Bool) : readFlag [presentFlag flag, none] = flag := by
  cases flag <;> rfl

@[simp] theorem readBoolean_renamed (flag : Option Bool) :
    (firstSet [flag.map .bool, none]).map isTruthy = flag := by
  cases flag <;> rfl

theorem numberToJSON_ne_null (value : Int) : numberToJSON value ≠ .null := by
  intro same
  cases same

@[simp] theorem readNumber_number (value : Option Int) :
    readNumber conversions [value.map numberToJSON, none] = value := by
  cases value with
  | none => rfl
  | some value =>
      rw [readNumber, Option.map_some, firstSet_some (numberToJSON_ne_null value), Option.map_some, numberToJSON,
        conversions.number_integer]

@[simp] theorem readNumber_present (value : Int) :
    (readNumber conversions [presentNumber value, none]).getD 0 = value := by
  by_cases zero : value = 0
  · rw [presentNumber, if_pos zero, zero]
    rfl
  · rw [readNumber, presentNumber, if_neg zero, firstSet_some (numberToJSON_ne_null value), Option.map_some,
      numberToJSON, conversions.number_integer, Option.getD_some]

end Fields

section Relayed

/-- A content after a round trip: a data part that holds nothing has none. -/
def PartContent.relayed : PartContent → Option PartContent
  | .data none | .data (some .null) => none
  | content => some content

def Part.relayed (part : Part) : Part := { part with content := part.content.bind PartContent.relayed }

def Message.relayed (message : Message) : Message := { message with parts := message.parts.map Part.relayed }

def Artifact.relayed (artifact : Artifact) : Artifact :=
  { artifact with parts := artifact.parts.map Part.relayed }

def TaskStatus.relayed (status : TaskStatus) : TaskStatus :=
  { status with message := status.message.map Message.relayed }

def Task.relayed (task : Task) : Task :=
  { task with
    status := task.status.map TaskStatus.relayed
    artifacts := task.artifacts.map Artifact.relayed
    history := task.history.map Message.relayed }

def TaskStatusUpdateEvent.relayed (event : TaskStatusUpdateEvent) : TaskStatusUpdateEvent :=
  { event with status := event.status.map TaskStatus.relayed }

def TaskArtifactUpdateEvent.relayed (event : TaskArtifactUpdateEvent) : TaskArtifactUpdateEvent :=
  { event with artifact := event.artifact.map Artifact.relayed }

def SendMessageRequest.relayed (request : SendMessageRequest) : SendMessageRequest :=
  { request with message := request.message.map Message.relayed }

def ListTasksResponse.relayed (response : ListTasksResponse) : ListTasksResponse :=
  { response with tasks := response.tasks.map Task.relayed }

def Client.SendMessageResult.relayed : SendMessageResult → SendMessageResult
  | .message value => .message value.relayed
  | .task value => .task value.relayed

def StreamResponse.relayed : StreamResponse → StreamResponse
  | .task value => .task value.relayed
  | .message value => .message value.relayed
  | .statusUpdate value => .statusUpdate value.relayed
  | .artifactUpdate value => .artifactUpdate value.relayed

end Relayed

section RoundTrips

variable (conversions : Conversions)

theorem Part.fromJSON_toJSON (part : Part) : Part.fromJSON conversions part.toJSON = .ok part.relayed := by
  obtain ⟨content, metadata, filename, mediaType⟩ := part
  have read : ∀ key, field (Part.toJSON ⟨content, metadata, filename, mediaType⟩) key =
      (OrderedMap.lookup ((content.map PartContent.entry).toList ++ [("metadata", metadata.map Metadata.toJSON),
        ("filename", presentText filename), ("mediaType", presentText mediaType)]) key).join := by
    intro key
    refine field_ofEntries ?_ key
    cases content with
    | none => simp
    | some content => cases content <;> simp [PartContent.entry]
  have contents : PartContent.fromJSON conversions (Part.toJSON ⟨content, metadata, filename, mediaType⟩) =
      .ok (content.bind PartContent.relayed) := by
    simp only [PartContent.fromJSON, read]
    cases content with
    | none => simp [OrderedMap.lookup]
    | some content =>
        cases content with
        | text value | url value =>
            simp [OrderedMap.lookup, PartContent.entry, PartContent.relayed, readString, toText, Printer.print, bind,
              Except.bind, pure, Except.pure]
        | raw value =>
            simp [OrderedMap.lookup, PartContent.entry, PartContent.relayed, bytesFromBase64, bind, Except.bind, pure,
              Except.pure]
        | data value =>
            cases value with
            | none => simp [OrderedMap.lookup, PartContent.entry, PartContent.relayed]
            | some value =>
                cases value <;>
                  simp [OrderedMap.lookup, PartContent.entry, PartContent.relayed, firstSet]
  have beside : ∀ key, key ∉ ["text", "raw", "url", "data"] →
      field (Part.toJSON ⟨content, metadata, filename, mediaType⟩) key =
        (OrderedMap.lookup [("metadata", metadata.map Metadata.toJSON), ("filename", presentText filename),
          ("mediaType", presentText mediaType)] key).join := by
    intro key apart
    rw [read]
    cases content with
    | none => rfl
    | some content =>
        have other : content.entry.1 ≠ key := by
          cases content <;> simp_all [PartContent.entry, eq_comm]
        rw [Option.map_some, Option.toList_some, List.singleton_append, OrderedMap.lookup, if_neg other]
  have named : requireObject (Part.toJSON ⟨content, metadata, filename, mediaType⟩) "text" = .ok () := rfl
  simp only [Part.fromJSON, named, contents, beside "metadata" (by decide), beside "filename" (by decide),
    beside "mediaType" (by decide), beside "media_type" (by decide)]
  simp [OrderedMap.lookup, bind, Except.bind, pure, Except.pure, Part.relayed]

theorem Message.fromJSON_toJSON (message : Message) :
    Message.fromJSON conversions message.toJSON = .ok message.relayed := by
  have read : ∀ key, field message.toJSON key = _ := field_ofEntries (by simp)
  have named : requireObject message.toJSON "messageId" = .ok () := rfl
  have role : ((firstSet [if message.role = .unspecified then none else
      some (.string (roleToJSON message.role))]).map roleFromJSON).getD .unspecified = message.role := by
    cases message.role <;> decide +kernel
  have parts := readList_present (Part.fromJSON_toJSON conversions) message.parts
    (show readList (Part.fromJSON conversions) [] = .ok [] from rfl)
  simp [Message.fromJSON, named, read, OrderedMap.lookup, bind, Except.bind, pure, Except.pure, role, parts,
    Message.relayed]

theorem Artifact.fromJSON_toJSON (artifact : Artifact) :
    Artifact.fromJSON conversions artifact.toJSON = .ok artifact.relayed := by
  have read : ∀ key, field artifact.toJSON key = _ := field_ofEntries (by simp)
  have named : requireObject artifact.toJSON "artifactId" = .ok () := rfl
  have parts := readList_present (Part.fromJSON_toJSON conversions) artifact.parts
    (show readList (Part.fromJSON conversions) [] = .ok [] from rfl)
  simp [Artifact.fromJSON, named, read, OrderedMap.lookup, bind, Except.bind, pure, Except.pure, parts,
    Artifact.relayed]

theorem TaskStatus.fromJSON_toJSON (status : TaskStatus) :
    TaskStatus.fromJSON conversions status.toJSON = .ok status.relayed := by
  have read : ∀ key, field status.toJSON key = _ := field_ofEntries (by simp)
  have named : requireObject status.toJSON "state" = .ok () := rfl
  have message := readNested_encoded (Message.fromJSON_toJSON conversions) (fun value => ofEntries_ne_null _)
    status.message (show firstSet [] = none from rfl)
  simp [TaskStatus.fromJSON, named, read, OrderedMap.lookup, bind, Except.bind, pure, Except.pure, message, TaskStatus.relayed]

theorem Task.fromJSON_toJSON (task : Task) :
    Task.fromJSON conversions task.toJSON = .ok task.relayed := by
  have read : ∀ key, field task.toJSON key = _ := field_ofEntries (by simp)
  have named : requireObject task.toJSON "id" = .ok () := rfl
  have status := readNested_encoded (TaskStatus.fromJSON_toJSON conversions) (fun value => ofEntries_ne_null _)
    task.status (show firstSet [] = none from rfl)
  have artifacts := readList_present (Artifact.fromJSON_toJSON conversions) task.artifacts
    (show readList (Artifact.fromJSON conversions) [] = .ok [] from rfl)
  have history := readList_present (Message.fromJSON_toJSON conversions) task.history
    (show readList (Message.fromJSON conversions) [] = .ok [] from rfl)
  simp [Task.fromJSON, named, read, OrderedMap.lookup, bind, Except.bind, pure, Except.pure, status, artifacts, history, Task.relayed]

theorem TaskStatusUpdateEvent.fromJSON_toJSON (event : TaskStatusUpdateEvent) :
    TaskStatusUpdateEvent.fromJSON conversions event.toJSON = .ok event.relayed := by
  have read : ∀ key, field event.toJSON key = _ := field_ofEntries (by simp)
  have named : requireObject event.toJSON "taskId" = .ok () := rfl
  have status := readNested_encoded (TaskStatus.fromJSON_toJSON conversions) (fun value => ofEntries_ne_null _)
    event.status (show firstSet [] = none from rfl)
  simp [TaskStatusUpdateEvent.fromJSON, named, read, OrderedMap.lookup, bind, Except.bind, pure, Except.pure, status, TaskStatusUpdateEvent.relayed]

theorem TaskArtifactUpdateEvent.fromJSON_toJSON (event : TaskArtifactUpdateEvent) :
    TaskArtifactUpdateEvent.fromJSON conversions event.toJSON = .ok event.relayed := by
  have read : ∀ key, field event.toJSON key = _ := field_ofEntries (by simp)
  have named : requireObject event.toJSON "taskId" = .ok () := rfl
  have artifact := readNested_encoded (Artifact.fromJSON_toJSON conversions) (fun value => ofEntries_ne_null _)
    event.artifact (show firstSet [] = none from rfl)
  simp [TaskArtifactUpdateEvent.fromJSON, named, read, OrderedMap.lookup, bind, Except.bind, pure, Except.pure, artifact, TaskArtifactUpdateEvent.relayed]

theorem readAuthentication_toJSON (authentication : AuthenticationInfo) :
    readAuthentication conversions.printer authentication.toJSON = .ok authentication := by
  have read : ∀ key, field authentication.toJSON key = _ := field_ofEntries (by simp)
  simp [readAuthentication, read, OrderedMap.lookup, bind, Except.bind, pure, Except.pure]

theorem TaskPushNotificationConfig.fromJSON_toJSON (config : TaskPushNotificationConfig) :
    TaskPushNotificationConfig.fromJSON conversions config.toJSON = .ok config := by
  have read : ∀ key, field config.toJSON key = _ := field_ofEntries (by simp)
  have named : requireObject config.toJSON "tenant" = .ok () := rfl
  have authentication : (firstSet [config.authentication.map AuthenticationInfo.toJSON]).mapM
      (readAuthentication conversions.printer) = .ok (config.authentication.map fun value => value) :=
    readNested_encoded (readAuthentication_toJSON conversions) (fun value => ofEntries_ne_null _)
      config.authentication (show firstSet [] = none from rfl)
  simp [TaskPushNotificationConfig.fromJSON, readConfig, named, read, OrderedMap.lookup, authentication, bind,
    Except.bind, pure, Except.pure]

theorem SendMessageConfiguration.fromJSON_toJSON (configuration : SendMessageConfiguration) :
    SendMessageConfiguration.fromJSON conversions configuration.toJSON = .ok configuration := by
  have read : ∀ key, field configuration.toJSON key = _ := field_ofEntries (by simp)
  have named : requireObject configuration.toJSON "taskPushNotificationConfig" = .ok () := rfl
  have taskPushNotificationConfig := readNested_encoded (TaskPushNotificationConfig.fromJSON_toJSON conversions) (fun value => ofEntries_ne_null _)
    configuration.taskPushNotificationConfig (show firstSet [none] = none from rfl)
  simp [SendMessageConfiguration.fromJSON, named, read, OrderedMap.lookup, bind, Except.bind, pure,
    Except.pure, taskPushNotificationConfig]

theorem SendMessageRequest.fromJSON_toJSON (request : SendMessageRequest) :
    SendMessageRequest.fromJSON conversions request.toJSON = .ok request.relayed := by
  have read : ∀ key, field request.toJSON key = _ := field_ofEntries (by simp)
  have named : requireObject request.toJSON "tenant" = .ok () := rfl
  have message := readNested_encoded (Message.fromJSON_toJSON conversions) (fun value => ofEntries_ne_null _)
    request.message (show firstSet [] = none from rfl)
  have configuration := readNested_encoded (SendMessageConfiguration.fromJSON_toJSON conversions) (fun value => ofEntries_ne_null _)
    request.configuration (show firstSet [] = none from rfl)
  simp [SendMessageRequest.fromJSON, named, read, OrderedMap.lookup, bind, Except.bind, pure, Except.pure,
    message, configuration, SendMessageRequest.relayed]

theorem GetTaskRequest.fromJSON_toJSON (request : GetTaskRequest) :
    GetTaskRequest.fromJSON conversions request.toJSON = .ok request := by
  have read : ∀ key, field request.toJSON key = _ := field_ofEntries (by simp)
  have named : requireObject request.toJSON "tenant" = .ok () := rfl
  simp [GetTaskRequest.fromJSON, named, read, OrderedMap.lookup, bind, Except.bind, pure, Except.pure]

theorem ListTasksRequest.fromJSON_toJSON (request : ListTasksRequest) :
    ListTasksRequest.fromJSON conversions request.toJSON = .ok request := by
  have read : ∀ key, field request.toJSON key = _ := field_ofEntries (by simp)
  have named : requireObject request.toJSON "tenant" = .ok () := rfl
  simp [ListTasksRequest.fromJSON, named, read, OrderedMap.lookup, bind, Except.bind, pure, Except.pure]

theorem ListTasksResponse.fromJSON_toJSON (response : ListTasksResponse) :
    ListTasksResponse.fromJSON conversions response.toJSON = .ok response.relayed := by
  have read : ∀ key, field response.toJSON key = _ := field_ofEntries (by simp)
  have named : requireObject response.toJSON "nextPageToken" = .ok () := rfl
  have tasks := readList_present (Task.fromJSON_toJSON conversions) response.tasks
    (show readList (Task.fromJSON conversions) [] = .ok [] from rfl)
  simp [ListTasksResponse.fromJSON, named, read, OrderedMap.lookup, bind, Except.bind, pure, Except.pure,
    tasks, ListTasksResponse.relayed]

theorem CancelTaskRequest.fromJSON_toJSON (request : CancelTaskRequest) :
    CancelTaskRequest.fromJSON conversions request.toJSON = .ok request := by
  have read : ∀ key, field request.toJSON key = _ := field_ofEntries (by simp)
  have named : requireObject request.toJSON "tenant" = .ok () := rfl
  simp [CancelTaskRequest.fromJSON, named, read, OrderedMap.lookup, bind, Except.bind, pure, Except.pure]

theorem TaskPushNotificationConfigRequest.fromJSON_toJSON (request : TaskPushNotificationConfigRequest) :
    TaskPushNotificationConfigRequest.fromJSON conversions request.toJSON = .ok request := by
  have read : ∀ key, field request.toJSON key = _ := field_ofEntries (by simp)
  have named : requireObject request.toJSON "tenant" = .ok () := rfl
  simp [TaskPushNotificationConfigRequest.fromJSON, named, read, OrderedMap.lookup, bind, Except.bind,
    pure, Except.pure]

theorem SubscribeToTaskRequest.fromJSON_toJSON (request : SubscribeToTaskRequest) :
    SubscribeToTaskRequest.fromJSON conversions request.toJSON = .ok request := by
  have read : ∀ key, field request.toJSON key = _ := field_ofEntries (by simp)
  have named : requireObject request.toJSON "tenant" = .ok () := rfl
  simp [SubscribeToTaskRequest.fromJSON, named, read, OrderedMap.lookup, bind, Except.bind, pure, Except.pure]

theorem ListTaskPushNotificationConfigsRequest.fromJSON_toJSON (request : ListTaskPushNotificationConfigsRequest) :
    ListTaskPushNotificationConfigsRequest.fromJSON conversions request.toJSON = .ok request := by
  have read : ∀ key, field request.toJSON key = _ := field_ofEntries (by simp)
  have named : requireObject request.toJSON "tenant" = .ok () := rfl
  simp [ListTaskPushNotificationConfigsRequest.fromJSON, named, read, OrderedMap.lookup, bind, Except.bind,
    pure, Except.pure]

theorem ListTaskPushNotificationConfigsResponse.fromJSON_toJSON (response : ListTaskPushNotificationConfigsResponse) :
    ListTaskPushNotificationConfigsResponse.fromJSON conversions response.toJSON = .ok response := by
  have read : ∀ key, field response.toJSON key = _ := field_ofEntries (by simp)
  have named : requireObject response.toJSON "nextPageToken" = .ok () := rfl
  have configs := readList_present (TaskPushNotificationConfig.fromJSON_toJSON conversions) response.configs
    (show readList (TaskPushNotificationConfig.fromJSON conversions) [] = .ok [] from rfl)
  simp [ListTaskPushNotificationConfigsResponse.fromJSON, named, read, OrderedMap.lookup, bind,
    Except.bind, pure, Except.pure, configs]

theorem SendMessageResponse.fromJSON_toJSON (result : SendMessageResult) :
    SendMessageResponse.fromJSON conversions (SendMessageResponse.toJSON ⟨some result⟩) =
      .ok ⟨some result.relayed⟩ := by
  cases result with
  | task value =>
      have read : ∀ key, field (SendMessageResponse.toJSON ⟨some (.task value)⟩) key = _ :=
        field_ofEntries (by simp)
      have named : requireObject (SendMessageResponse.toJSON ⟨some (.task value)⟩) "task" = .ok () := rfl
      have first : firstSet [some value.toJSON] = some value.toJSON := firstSet_some (ofEntries_ne_null _) []
      simp [SendMessageResponse.fromJSON, named, read, OrderedMap.lookup, first, Task.fromJSON_toJSON, bind,
        Except.bind, pure, Except.pure, SendMessageResult.relayed]
  | message value =>
      have read : ∀ key, field (SendMessageResponse.toJSON ⟨some (.message value)⟩) key = _ :=
        field_ofEntries (by simp)
      have named : requireObject (SendMessageResponse.toJSON ⟨some (.message value)⟩) "task" = .ok () := rfl
      have first : firstSet [some value.toJSON] = some value.toJSON := firstSet_some (ofEntries_ne_null _) []
      simp [SendMessageResponse.fromJSON, named, read, OrderedMap.lookup, first, Message.fromJSON_toJSON, bind,
        Except.bind, pure, Except.pure, SendMessageResult.relayed]

theorem StreamResponse.fromJSON_toJSON (event : StreamResponse) :
    StreamResponse.fromJSON conversions event.toJSON = .ok (some event.relayed) := by
  cases event with
  | task value =>
      have read : ∀ key, field (StreamResponse.task value).toJSON key = _ := field_ofEntries (by simp)
      have named : requireObject (StreamResponse.task value).toJSON "task" = .ok () := rfl
      have first : firstSet [some value.toJSON] = some value.toJSON := firstSet_some (ofEntries_ne_null _) []
      simp [StreamResponse.fromJSON, named, read, OrderedMap.lookup, first, Task.fromJSON_toJSON, bind,
        Except.bind, pure, Except.pure, StreamResponse.relayed]
  | message value =>
      have read : ∀ key, field (StreamResponse.message value).toJSON key = _ := field_ofEntries (by simp)
      have named : requireObject (StreamResponse.message value).toJSON "task" = .ok () := rfl
      have first : firstSet [some value.toJSON] = some value.toJSON := firstSet_some (ofEntries_ne_null _) []
      simp [StreamResponse.fromJSON, named, read, OrderedMap.lookup, first, Message.fromJSON_toJSON, bind,
        Except.bind, pure, Except.pure, StreamResponse.relayed]
  | statusUpdate value =>
      have read : ∀ key, field (StreamResponse.statusUpdate value).toJSON key = _ := field_ofEntries (by simp)
      have named : requireObject (StreamResponse.statusUpdate value).toJSON "task" = .ok () := rfl
      have first : firstSet [some value.toJSON, none] = some value.toJSON :=
        firstSet_some (ofEntries_ne_null _) [none]
      simp [StreamResponse.fromJSON, named, read, OrderedMap.lookup, first, TaskStatusUpdateEvent.fromJSON_toJSON,
        bind, Except.bind, pure, Except.pure, StreamResponse.relayed]
  | artifactUpdate value =>
      have read : ∀ key, field (StreamResponse.artifactUpdate value).toJSON key = _ := field_ofEntries (by simp)
      have named : requireObject (StreamResponse.artifactUpdate value).toJSON "task" = .ok () := rfl
      have first : firstSet [some value.toJSON, none] = some value.toJSON :=
        firstSet_some (ofEntries_ne_null _) [none]
      simp [StreamResponse.fromJSON, named, read, OrderedMap.lookup, first, TaskArtifactUpdateEvent.fromJSON_toJSON,
        bind, Except.bind, pure, Except.pure, StreamResponse.relayed]

theorem field_materialized (entries : List (String × Option JsonValue)) (key : String) :
    field (withMaterializedArtifacts (.ofEntries entries)) key =
      if key = "artifacts" then some ((field (.ofEntries entries) "artifacts").getD (.array []))
      else field (.ofEntries entries) key := by
  rw [JsonValue.ofEntries, withMaterializedArtifacts]
  cases given : OrderedMap.lookup (entries.filterMap fun entry => entry.2.map (entry.1, ·)) "artifacts" with
  | some artifacts =>
      dsimp only
      split
      · rename_i same
        rw [same, field, given]
        rfl
      · rfl
  | none =>
      simp only [field, OrderedMap.lookup_append, given]
      split
      · rename_i same
        rw [same, given]
        rfl
      · rename_i differ
        simp [OrderedMap.lookup, Ne.symm differ]

/-- A list of artifacts that is put back is read as the one that was left out. -/
theorem Task.fromJSON_materialized (task : Task) :
    Task.fromJSON conversions (withMaterializedArtifacts task.toJSON) = .ok task.relayed := by
  have read : ∀ key, field task.toJSON key = _ := field_ofEntries (by simp)
  have put : ∀ key, field (withMaterializedArtifacts task.toJSON) key =
      if key = "artifacts" then some ((field task.toJSON "artifacts").getD (.array []))
      else field task.toJSON key := field_materialized _
  have named : requireObject (withMaterializedArtifacts task.toJSON) "id" = .ok () := by
    rw [Task.toJSON, JsonValue.ofEntries, withMaterializedArtifacts]
    split <;> rfl
  have status := readNested_encoded (TaskStatus.fromJSON_toJSON conversions) (fun value => ofEntries_ne_null _)
    task.status (show firstSet [] = none from rfl)
  have artifacts : readList (Artifact.fromJSON conversions)
      [some ((presentList Artifact.toJSON task.artifacts).getD (.array []))] =
        .ok (task.artifacts.map Artifact.relayed) := by
    cases task.artifacts with
    | nil => rfl
    | cons artifact rest => exact mapM_encoded (Artifact.fromJSON_toJSON conversions) (artifact :: rest)
  have history := readList_present (Message.fromJSON_toJSON conversions) task.history
    (show readList (Message.fromJSON conversions) [] = .ok [] from rfl)
  simp [Task.fromJSON, named, put, read, OrderedMap.lookup, bind, Except.bind, pure, Except.pure, status, artifacts,
    history, Task.relayed]

theorem ListTasksResponse.fromJSON_serialized (response : ListTasksResponse) (includeArtifacts : Option Bool) :
    ListTasksResponse.fromJSON conversions (serializeListTasksResponse response includeArtifacts) =
      .ok response.relayed := by
  have read : ∀ key, field response.toJSON key = _ := field_ofEntries (by simp)
  have serialized : serializedTasks response.toJSON = response.tasks.map Task.toJSON := by
    rw [serializedTasks, read]
    cases response.tasks <;> simp [OrderedMap.lookup, presentList]
  have tasks : (if includeArtifacts.getD false then (response.tasks.map Task.toJSON).map withMaterializedArtifacts
      else response.tasks.map Task.toJSON).mapM (Task.fromJSON conversions) =
        .ok (response.tasks.map Task.relayed) := by
    split
    · rw [List.map_map]
      exact mapM_encoded (Task.fromJSON_materialized conversions) response.tasks
    · exact mapM_encoded (Task.fromJSON_toJSON conversions) response.tasks
  have token : readText conversions.printer
      [some ((presentText response.nextPageToken).getD (.string "")), none] = .ok response.nextPageToken := by
    by_cases empty : response.nextPageToken = ""
    · rw [presentText, if_pos empty, empty]
      rfl
    · rw [presentText, if_neg empty]
      rfl
  have count (value : Int) :
      (readNumber conversions [some ((presentNumber value).getD (.number 0)), none]).getD 0 = value := by
    by_cases zero : value = 0
    · rw [presentNumber, if_pos zero, zero]
      exact conversions.number_integer 0
    · rw [presentNumber, if_neg zero, Option.getD_some, readNumber, firstSet_some (numberToJSON_ne_null value)]
      exact conversions.number_integer value
  have outer : ∀ key, field (serializeListTasksResponse response includeArtifacts) key = OrderedMap.lookup [
      ("tasks", .array (if includeArtifacts.getD false then
        (response.tasks.map Task.toJSON).map withMaterializedArtifacts else response.tasks.map Task.toJSON)),
      ("nextPageToken", (presentText response.nextPageToken).getD (.string "")),
      ("pageSize", (presentNumber response.pageSize).getD (.number 0)),
      ("totalSize", (presentNumber response.totalSize).getD (.number 0))] key := by
    intro key
    simp only [serializeListTasksResponse, serialized, read]
    simp [field, OrderedMap.lookup]
  have named : requireObject (serializeListTasksResponse response includeArtifacts) "nextPageToken" = .ok () := rfl
  simp [ListTasksResponse.fromJSON, outer, named, OrderedMap.lookup, readList, tasks, token, count, bind, Except.bind,
    pure, Except.pure, ListTasksResponse.relayed, -List.map_map]

end RoundTrips

section Carried

/-- The part has a content that its encoding shows. -/
def Part.Carried (part : Part) : Prop :=
  ∀ value, part.content = some (.data value) → value ≠ none ∧ value ≠ some .null

theorem Part.relayed_eq_iff (part : Part) : part.relayed = part ↔ part.Carried := by
  obtain ⟨content, metadata, filename, mediaType⟩ := part
  cases content with
  | none => exact iff_of_true rfl (by simp [Part.Carried])
  | some content =>
      cases content with
      | text | raw | url => exact iff_of_true rfl (by simp [Part.Carried])
      | data value =>
          cases value with
          | none => exact iff_of_false (by simp [Part.relayed, PartContent.relayed]) (by simp [Part.Carried])
          | some value =>
              cases value <;> simp [Part.relayed, PartContent.relayed, Part.Carried]

theorem Message.relayed_eq_iff (message : Message) :
    message.relayed = message ↔ ∀ part ∈ message.parts, part.Carried := by
  have same : message.relayed = message ↔ message.parts.map Part.relayed = message.parts := by
    obtain ⟨_, _, _, _, parts, _, _, _⟩ := message
    simp [Message.relayed]
  simp only [same, map_eq_self_iff, Part.relayed_eq_iff]

theorem Artifact.relayed_eq_iff (artifact : Artifact) :
    artifact.relayed = artifact ↔ ∀ part ∈ artifact.parts, part.Carried := by
  have same : artifact.relayed = artifact ↔ artifact.parts.map Part.relayed = artifact.parts := by
    obtain ⟨_, _, _, parts, _, _⟩ := artifact
    simp [Artifact.relayed]
  simp only [same, map_eq_self_iff, Part.relayed_eq_iff]

/-- The parts of a status's message. -/
def TaskStatus.parts (status : TaskStatus) : List Part := (status.message.map Message.parts).getD []

theorem TaskStatus.relayed_eq_iff (status : TaskStatus) :
    status.relayed = status ↔ ∀ part ∈ status.parts, part.Carried := by
  obtain ⟨state, message, timestamp⟩ := status
  cases message with
  | none => exact iff_of_true rfl (by simp [TaskStatus.parts])
  | some message => simpa [TaskStatus.relayed, TaskStatus.parts] using message.relayed_eq_iff

/-- Every part of a task: those of its status, its artifacts and its history. -/
def Task.parts (task : Task) : List Part :=
  (task.status.map TaskStatus.parts).getD [] ++ task.artifacts.flatMap Artifact.parts ++
    task.history.flatMap Message.parts

theorem Task.relayed_eq_iff (task : Task) : task.relayed = task ↔ ∀ part ∈ task.parts, part.Carried := by
  have status : task.status.map TaskStatus.relayed = task.status ↔
      ∀ part ∈ (task.status.map TaskStatus.parts).getD [], part.Carried := by
    cases task.status with
    | none => simp
    | some status => simpa using status.relayed_eq_iff
  have same : task.relayed = task ↔ task.status.map TaskStatus.relayed = task.status ∧
      task.artifacts.map Artifact.relayed = task.artifacts ∧
      task.history.map Message.relayed = task.history := by
    obtain ⟨_, _, _, _, _, _⟩ := task
    simp [Task.relayed]
  simp only [same, status, map_eq_self_iff, Artifact.relayed_eq_iff, Message.relayed_eq_iff, Task.parts,
    List.forall_mem_append, List.forall_mem_flatMap, and_assoc]

/-- Every part of an event. -/
def StreamResponse.parts : StreamResponse → List Part
  | .task value => value.parts
  | .message value => value.parts
  | .statusUpdate value => (value.status.map TaskStatus.parts).getD []
  | .artifactUpdate value => (value.artifact.map Artifact.parts).getD []

theorem StreamResponse.relayed_eq_iff (event : StreamResponse) :
    event.relayed = event ↔ ∀ part ∈ event.parts, part.Carried := by
  cases event with
  | task value => simpa [StreamResponse.relayed, StreamResponse.parts] using value.relayed_eq_iff
  | message value => simpa [StreamResponse.relayed, StreamResponse.parts] using value.relayed_eq_iff
  | statusUpdate value =>
      obtain ⟨taskId, contextId, status, metadata⟩ := value
      cases status with
      | none => exact iff_of_true rfl (by simp [StreamResponse.parts])
      | some status =>
          simpa [StreamResponse.relayed, TaskStatusUpdateEvent.relayed, StreamResponse.parts]
            using status.relayed_eq_iff
  | artifactUpdate value =>
      obtain ⟨taskId, contextId, artifact, append, lastChunk, metadata⟩ := value
      cases artifact with
      | none => exact iff_of_true rfl (by simp [StreamResponse.parts])
      | some artifact =>
          simpa [StreamResponse.relayed, TaskArtifactUpdateEvent.relayed, StreamResponse.parts]
            using artifact.relayed_eq_iff

/-- The parts of a request's message. -/
def SendMessageRequest.parts (request : SendMessageRequest) : List Part :=
  (request.message.map Message.parts).getD []

theorem SendMessageRequest.relayed_eq_iff (request : SendMessageRequest) :
    request.relayed = request ↔ ∀ part ∈ request.parts, part.Carried := by
  obtain ⟨tenant, message, configuration, metadata⟩ := request
  cases message with
  | none => exact iff_of_true rfl (by simp [SendMessageRequest.parts])
  | some message => simpa [SendMessageRequest.relayed, SendMessageRequest.parts] using message.relayed_eq_iff

theorem ListTasksResponse.relayed_eq_iff (response : ListTasksResponse) :
    response.relayed = response ↔ ∀ task ∈ response.tasks, ∀ part ∈ task.parts, part.Carried := by
  have same : response.relayed = response ↔ response.tasks.map Task.relayed = response.tasks := by
    obtain ⟨tasks, _, _, _⟩ := response
    simp [ListTasksResponse.relayed]
  simp only [same, map_eq_self_iff, Task.relayed_eq_iff]

end Carried

/-- What the decoders make of an encoded message is the message itself, unless a part of it holds
`null` data. -/
theorem codecs_round_trip (conversions : Conversions) :
    (∀ event : StreamResponse, StreamResponse.fromJSON conversions event.toJSON = .ok (some event) ↔
      ∀ part ∈ event.parts, part.Carried) ∧
    (∀ request : SendMessageRequest, SendMessageRequest.fromJSON conversions request.toJSON = .ok request ↔
      ∀ part ∈ request.parts, part.Carried) ∧
    (∀ (response : ListTasksResponse) (includeArtifacts : Option Bool),
      ListTasksResponse.fromJSON conversions (serializeListTasksResponse response includeArtifacts) =
          .ok response ↔
        ∀ task ∈ response.tasks, ∀ part ∈ task.parts, part.Carried) ∧
    (∀ request : ListTasksRequest, ListTasksRequest.fromJSON conversions request.toJSON = .ok request) ∧
    (∀ config : TaskPushNotificationConfig,
      TaskPushNotificationConfig.fromJSON conversions config.toJSON = .ok config) := by
  refine ⟨fun event => ?_, fun request => ?_, fun response includeArtifacts => ?_,
    ListTasksRequest.fromJSON_toJSON conversions, TaskPushNotificationConfig.fromJSON_toJSON conversions⟩
  · rw [StreamResponse.fromJSON_toJSON, Except.ok.injEq, Option.some.injEq, event.relayed_eq_iff]
  · rw [SendMessageRequest.fromJSON_toJSON, Except.ok.injEq, request.relayed_eq_iff]
  · rw [ListTasksResponse.fromJSON_serialized, Except.ok.injEq, response.relayed_eq_iff]

end A2A
