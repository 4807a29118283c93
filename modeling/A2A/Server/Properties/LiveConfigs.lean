import A2A.Library.Recency
import A2A.Server.Properties.StoreIsolation

namespace A2A.Server

open Library

/-! What the push configuration store is for: for each task an ordered map from ids to
configurations, in the order of their last saves.
-/

/-- For each scope and task, its configurations by their ids. -/
abbrev ConfigMaps := Scope → String → OrderedMap String StoredPushNotificationConfig

/-- What `save` stores: the caller's configuration with its id, and the version of the call. -/
def Issued.stored (issued : Issued PushStoreOperation) (config : TaskPushNotificationConfig) (uuid : String) :
    StoredPushNotificationConfig :=
  ⟨InMemoryPushNotificationStore.assignId config uuid,
    if issued.context.requestedVersion = "" then "0.3" else issued.context.requestedVersion⟩

/-- The task that an operation edits, and its edit of this task's configurations. -/
def Issued.edit (issued : Issued PushStoreOperation) :
    Option (String × Edit String StoredPushNotificationConfig) :=
  match issued.operation with
  | .save taskId config uuid =>
      let entry := issued.stored config uuid
      some (taskId, .renew entry.config.id entry)
  | .delete taskId configId => some (taskId, .erase (configId.getD taskId))
  | .load _ | .loadWithMetadata _ => none

def ConfigMaps.edit (maps : ConfigMaps) (scope : Scope) (taskId : String)
    (edit : Edit String StoredPushNotificationConfig) : ConfigMaps :=
  Function.update maps scope (Function.update (maps scope) taskId ((maps scope taskId).edit edit))

/-- The ordered maps under the operations of the store. -/
def configMapService (ownerResolver : OwnerResolver) :
    Service ConfigMaps (Issued PushStoreOperation) PushStoreResult where
  perform maps issued :=
    let scope := issued.scope ownerResolver
    (match issued.edit with
      | some (taskId, edit) => maps.edit scope taskId edit
      | none => maps,
    match issued.operation with
      | .save _ config uuid => .saved (issued.stored config uuid).config
      | .load taskId => .loaded ((maps scope taskId).values.map StoredPushNotificationConfig.config)
      | .loadWithMetadata taskId => .loadedWithMetadata (maps scope taskId).values
      | .delete _ _ => .deleted)

def ConfigMaps.empty : ConfigMaps := fun _ _ => .empty

/-- The store lists the values of the maps, whose keys are the ids of their values. -/
structure InMemoryPushNotificationStore.Lists (store : InMemoryPushNotificationStore) (maps : ConfigMaps) :
    Prop where
  values : ∀ scope taskId, store.loadWithMetadata scope taskId = (maps scope taskId).values
  keyed : ∀ scope taskId, ∀ entry ∈ (maps scope taskId).entries, entry.2.config.id = entry.1

/-- The edit of one task by an operation, if it makes one. -/
def Issued.editOf (ownerResolver : OwnerResolver) (scope : Scope) (taskId : String)
    (issued : Issued PushStoreOperation) : Option (Edit String StoredPushNotificationConfig) :=
  match issued.edit with
  | some (edited, edit) => if issued.scope ownerResolver = scope ∧ edited = taskId then some edit else none
  | none => none

def configEdits (ownerResolver : OwnerResolver) (scope : Scope) (taskId : String)
    (history : List (Issued PushStoreOperation)) : List (Edit String StoredPushNotificationConfig) :=
  history.filterMap (Issued.editOf ownerResolver scope taskId)

/-- The live configurations of a task: those whose save no later save or removal of the same id follows. -/
def liveConfigs (ownerResolver : OwnerResolver) (scope : Scope) (taskId : String)
    (history : List (Issued PushStoreOperation)) : List StoredPushNotificationConfig :=
  (Edit.live (configEdits ownerResolver scope taskId history)).map Prod.snd

/-- The id that a save without one draws. -/
def Issued.drawn? (issued : Issued PushStoreOperation) : Option String :=
  match issued.operation with
  | .save _ config uuid => if config.id = "" then some uuid else none
  | _ => none

/-- The id under which an operation saves. -/
def Issued.savedId? (issued : Issued PushStoreOperation) : Option String :=
  match issued.operation with
  | .save _ config uuid => some (issued.stored config uuid).config.id
  | _ => none

/-- A drawn id is not empty, and no save before it was made under it. -/
structure DrawsFresh (history : List (Issued PushStoreOperation)) : Prop where
  nonempty : ∀ issued ∈ history, ∀ uuid ∈ issued.drawn?, uuid ≠ ""
  unused : history.Pairwise (fun earlier later => ∀ uuid ∈ later.drawn?, earlier.savedId? ≠ some uuid)

def PushStoreOperation.taskId : PushStoreOperation → String
  | .save taskId _ _ | .load taskId | .loadWithMetadata taskId | .delete taskId _ => taskId

section Histories

variable (ownerResolver : OwnerResolver)

/-- The store behind a history. -/
def storeAfter (history : List (Issued PushStoreOperation)) : Nested.InMemoryPushNotificationStore :=
  (Nested.pushService ownerResolver).after ⟨.empty⟩ history

/-- What one operation of a history answers, and what it does to each task's list. -/
structure EditsOneTask (before : List (Issued PushStoreOperation)) (issued : Issued PushStoreOperation) :
    Prop where
  load : ∀ taskId, issued.operation = .load taskId →
    ((Nested.pushService ownerResolver).perform (storeAfter ownerResolver before) issued).2 =
      .loaded ((liveConfigs ownerResolver (issued.scope ownerResolver) taskId before).map
        StoredPushNotificationConfig.config)
  loadWithMetadata : ∀ taskId, issued.operation = .loadWithMetadata taskId →
    ((Nested.pushService ownerResolver).perform (storeAfter ownerResolver before) issued).2 =
      .loadedWithMetadata (liveConfigs ownerResolver (issued.scope ownerResolver) taskId before)
  /-- A save without an id adds a record. -/
  created : ∀ taskId config uuid, issued.operation = .save taskId config uuid → config.id = "" →
    (storeAfter ownerResolver (before ++ [issued])).loadWithMetadata (issued.scope ownerResolver) taskId =
      (storeAfter ownerResolver before).loadWithMetadata (issued.scope ownerResolver) taskId ++
        [issued.stored config uuid]
  deleted : ∀ taskId configId, issued.operation = .delete taskId configId →
    (storeAfter ownerResolver (before ++ [issued])).loadWithMetadata (issued.scope ownerResolver) taskId =
      ((storeAfter ownerResolver before).loadWithMetadata (issued.scope ownerResolver) taskId).filter
        (fun entry => entry.config.id ≠ configId.getD taskId)
  elsewhere : ∀ scope taskId, ¬ (issued.scope ownerResolver = scope ∧ issued.operation.taskId = taskId) →
    (storeAfter ownerResolver (before ++ [issued])).loadWithMetadata scope taskId =
      (storeAfter ownerResolver before).loadWithMetadata scope taskId

end Histories

variable {ownerResolver : OwnerResolver}

theorem ConfigMaps.edit_apply (maps : ConfigMaps) (scope other : Scope) (taskId key : String)
    (edit : Edit String StoredPushNotificationConfig) :
    maps.edit scope taskId edit other key =
      if scope = other ∧ taskId = key then (maps scope taskId).edit edit else maps other key := by
  by_cases scopes : scope = other
  · subst scopes
    by_cases tasks : taskId = key
    · subst tasks
      simp [ConfigMaps.edit]
    · simp [ConfigMaps.edit, Ne.symm tasks, tasks]
  · simp [ConfigMaps.edit, Ne.symm scopes, scopes]

namespace InMemoryPushNotificationStore

variable {store : InMemoryPushNotificationStore} {maps : ConfigMaps}

theorem Lists.eraseP (lists : store.Lists maps) (scope : Scope) (taskId id : String) :
    (store.loadWithMetadata scope taskId).eraseP (fun entry => entry.config.id = id) =
      ((maps scope taskId).erase id).values := by
  rw [lists.values]
  exact (maps scope taskId).eraseP_values (lists.keyed scope taskId) id

theorem Lists.save (lists : store.Lists maps) (issued : Issued PushStoreOperation) (scope : Scope)
    (taskId : String) (config : TaskPushNotificationConfig) (uuid : String) :
    (store.save scope taskId issued.context.requestedVersion config uuid).Lists
      (maps.edit scope taskId (.renew (issued.stored config uuid).config.id (issued.stored config uuid))) where
  values other key := by
    rw [loadWithMetadata_save, ConfigMaps.edit_apply]
    split
    · rw [lists.eraseP]
      simp [OrderedMap.values, OrderedMap.edit, OrderedMap.entries_renew, OrderedMap.entries_erase, Issued.stored]
    · exact lists.values other key
  keyed other key entry listed := by
    rw [ConfigMaps.edit_apply] at listed
    split at listed
    · rw [OrderedMap.edit, OrderedMap.entries_renew, List.mem_append, List.mem_singleton] at listed
      cases listed with
      | inl kept => exact lists.keyed scope taskId entry (List.mem_of_mem_filter kept)
      | inr added => rw [added]
    · exact lists.keyed other key entry listed

theorem Lists.delete (lists : store.Lists maps) (scope : Scope) (taskId : String) (configId : Option String) :
    (store.delete scope taskId configId).Lists (maps.edit scope taskId (.erase (configId.getD taskId))) where
  values other key := by
    rw [loadWithMetadata_delete, ConfigMaps.edit_apply]
    split
    · exact lists.eraseP scope taskId _
    · exact lists.values other key
  keyed other key entry listed := by
    rw [ConfigMaps.edit_apply] at listed
    split at listed
    · rw [OrderedMap.edit, OrderedMap.entries_erase] at listed
      exact lists.keyed scope taskId entry (List.mem_of_mem_filter listed)
    · exact lists.keyed other key entry listed

theorem Lists.empty : InMemoryPushNotificationStore.empty.Lists ConfigMaps.empty where
  values _ _ := rfl
  keyed _ _ _ listed := nomatch listed

end InMemoryPushNotificationStore

theorem pushService_lists :
    (pushService ownerResolver).Simulates (configMapService ownerResolver)
      InMemoryPushNotificationStore.Lists where
  answer {store maps} issued lists := by
    obtain ⟨context, operation⟩ := issued
    cases operation with
    | save taskId config uuid => rfl
    | load taskId =>
        exact congrArg (fun entries => PushStoreResult.loaded (entries.map StoredPushNotificationConfig.config))
          (lists.values _ taskId)
    | loadWithMetadata taskId => exact congrArg PushStoreResult.loadedWithMetadata (lists.values _ taskId)
    | delete taskId configId => rfl
  next {store maps} issued lists := by
    obtain ⟨context, operation⟩ := issued
    cases operation with
    | save taskId config uuid => exact lists.save ⟨context, .save taskId config uuid⟩ _ taskId config uuid
    | load taskId => exact lists
    | loadWithMetadata taskId => exact lists
    | delete taskId configId => exact lists.delete _ taskId configId

variable (ownerResolver) in
theorem perform_configMaps (maps : ConfigMaps) (issued : Issued PushStoreOperation) (scope : Scope)
    (taskId : String) :
    ((configMapService ownerResolver).perform maps issued).1 scope taskId =
      (issued.editOf ownerResolver scope taskId).elim (maps scope taskId) (maps scope taskId).edit := by
  cases edited : issued.edit with
  | none => simp only [configMapService, Issued.editOf, edited, Option.elim_none]
  | some entry =>
      obtain ⟨task, edit⟩ := entry
      simp only [configMapService, Issued.editOf, edited, ConfigMaps.edit_apply]
      split
      · rename_i same
        rw [same.1, same.2, Option.elim_some]
      · rfl

/-- What a history leaves of a task is what its edits of this task leave. -/
theorem after_configMaps (maps : ConfigMaps) (scope : Scope) (taskId : String)
    (history : List (Issued PushStoreOperation)) :
    (configMapService ownerResolver).after maps history scope taskId =
      (configEdits ownerResolver scope taskId history).foldl OrderedMap.edit (maps scope taskId) := by
  induction history generalizing maps with
  | nil => rfl
  | cons issued rest ih =>
      have first := perform_configMaps ownerResolver maps issued scope taskId
      have onward := ih ((configMapService ownerResolver).perform maps issued).1
      rw [first] at onward
      refine onward.trans ?_
      cases edited : issued.editOf ownerResolver scope taskId with
      | none => rw [configEdits, configEdits, List.filterMap_cons_none edited, Option.elim_none]
      | some edit =>
          rw [configEdits, configEdits, List.filterMap_cons_some edited, Option.elim_some, List.foldl_cons]

section History

variable (history before : List (Issued PushStoreOperation)) (issued : Issued PushStoreOperation) (scope : Scope)
  (taskId : String)

variable (ownerResolver) in
theorem storeAfter_represents :
    ∃ model : InMemoryPushNotificationStore,
      (storeAfter ownerResolver history).scopedStore.Represents model.scopedStore ∧
        model.Lists ((configMapService ownerResolver).after .empty history) :=
  (Nested.pushService_simulates.trans pushService_lists).after
    ⟨.empty, Nested.ScopedStore.Represents.empty, .empty⟩ history

theorem loaded_eq_values :
    (storeAfter ownerResolver history).loadWithMetadata scope taskId =
      ((configMapService ownerResolver).after .empty history scope taskId).values := by
  obtain ⟨model, represents, lists⟩ := storeAfter_represents ownerResolver history
  rw [Nested.loadWithMetadata_eq represents, lists.values]

theorem after_entries :
    ((configMapService ownerResolver).after .empty history scope taskId).entries =
      Edit.live (configEdits ownerResolver scope taskId history) := by
  rw [after_configMaps]
  exact OrderedMap.entries_run _

theorem after_keyed :
    ∀ entry ∈ ((configMapService ownerResolver).after .empty history scope taskId).entries,
      entry.2.config.id = entry.1 := by
  obtain ⟨model, represents, lists⟩ := storeAfter_represents ownerResolver history
  exact lists.keyed scope taskId

/-- The list of a task is what is live of its edits. -/
theorem loaded_eq_live :
    (storeAfter ownerResolver history).loadWithMetadata scope taskId =
      liveConfigs ownerResolver scope taskId history := by
  rw [loaded_eq_values, liveConfigs, ← after_entries]
  rfl

theorem liveConfigs_ids :
    (liveConfigs ownerResolver scope taskId history).map (fun entry => entry.config.id) =
      ((configMapService ownerResolver).after .empty history scope taskId).entries.map Prod.fst := by
  rw [liveConfigs, ← after_entries, List.map_map]
  exact List.map_congr_left (after_keyed history scope taskId)

/-- A key of a task's map is the id of a save. -/
theorem savedId_of_mem {id : String}
    (listed : id ∈ ((configMapService ownerResolver).after .empty history scope taskId).entries.map Prod.fst) :
    ∃ issued ∈ history, issued.savedId? = some id := by
  obtain ⟨entry, live, rfl⟩ := List.mem_map.mp listed
  rw [after_entries] at live
  obtain ⟨issued, member, edits⟩ := List.mem_filterMap.mp (Edit.renew_mem_of_live live)
  refine ⟨issued, member, ?_⟩
  obtain ⟨context, operation⟩ := issued
  cases operation with
  | save task config uuid =>
      simp only [Issued.editOf, Issued.edit, Option.ite_none_right_eq_some, Option.some.injEq,
        Edit.renew.injEq] at edits
      exact congrArg some edits.2.1
  | load task => exact nomatch edits
  | loadWithMetadata task => exact nomatch edits
  | delete task configId => simp [Issued.editOf, Issued.edit] at edits

theorem savedId_ne_empty {issued : Issued PushStoreOperation} {id : String}
    (nonempty : ∀ uuid ∈ issued.drawn?, uuid ≠ "") (saved : issued.savedId? = some id) : id ≠ "" := by
  obtain ⟨context, operation⟩ := issued
  cases operation with
  | save task config uuid =>
      rw [Issued.savedId?, Option.some.injEq] at saved
      rw [← saved, Issued.stored, InMemoryPushNotificationStore.assignId]
      split
      · rename_i unnamed
        exact nonempty uuid (if_pos unnamed)
      · rename_i named
        exact named
  | load task => exact nomatch saved
  | loadWithMetadata task => exact nomatch saved
  | delete task configId => exact nomatch saved

theorem after_snoc :
    (configMapService ownerResolver).after .empty (history ++ [issued]) scope taskId =
      (issued.editOf ownerResolver scope taskId).elim
        ((configMapService ownerResolver).after .empty history scope taskId)
        ((configMapService ownerResolver).after .empty history scope taskId).edit := by
  rw [Service.after_append]
  exact perform_configMaps _ _ issued scope taskId

theorem editOf_elsewhere
    (foreign : ¬ (issued.scope ownerResolver = scope ∧ issued.operation.taskId = taskId)) :
    issued.editOf ownerResolver scope taskId = none := by
  obtain ⟨context, operation⟩ := issued
  cases operation with
  | save task config uuid => exact if_neg foreign
  | load task => rfl
  | loadWithMetadata task => rfl
  | delete task configId => exact if_neg foreign

/-- One operation edits the list of its own task. -/
theorem editsOneTask (unused : ∀ uuid ∈ issued.drawn?, ∀ earlier ∈ history, earlier.savedId? ≠ some uuid) :
    EditsOneTask ownerResolver history issued where
  load taskId loads := by
    simp only [Nested.pushService, loads, Nested.InMemoryPushNotificationStore.load, loaded_eq_live]
  loadWithMetadata taskId loads := by
    simp only [Nested.pushService, loads, loaded_eq_live]
  created taskId config uuid saves unnamed := by
    have edits : issued.editOf ownerResolver (issued.scope ownerResolver) taskId =
        some (.renew uuid (issued.stored config uuid)) := by
      simp [Issued.editOf, Issued.edit, saves, Issued.stored, InMemoryPushNotificationStore.assignId, unnamed]
    have absent : uuid ∉ ((configMapService ownerResolver).after .empty history
        (issued.scope ownerResolver) taskId).entries.map Prod.fst := by
      intro listed
      obtain ⟨earlier, member, saved⟩ := savedId_of_mem history _ taskId listed
      exact unused uuid (by simp [Issued.drawn?, saves, unnamed]) earlier member saved
    rw [loaded_eq_values, loaded_eq_values, after_snoc, edits, Option.elim_some, OrderedMap.edit,
      OrderedMap.values, OrderedMap.entries_renew_of_absent _ absent, List.map_append]
    rfl
  deleted taskId configId deletes := by
    have edits : issued.editOf ownerResolver (issued.scope ownerResolver) taskId =
        some (.erase (configId.getD taskId)) := by
      simp [Issued.editOf, Issued.edit, deletes]
    rw [loaded_eq_values, loaded_eq_values, after_snoc, edits, Option.elim_some, OrderedMap.edit]
    exact OrderedMap.values_erase _ (after_keyed history _ taskId) _
  elsewhere scope taskId foreign := by
    rw [loaded_eq_values, loaded_eq_values, after_snoc, editOf_elsewhere issued scope taskId foreign,
      Option.elim_none]

end History

/-- Over every history the store answers as the ordered maps do.  It lists the live configurations of a
task, under distinct ids that are not empty, and each operation edits the list of one task. -/
theorem pushStore_refines (ownerResolver : OwnerResolver) (history : List (Issued PushStoreOperation))
    (fresh : DrawsFresh history) :
    (Nested.pushService ownerResolver).answers ⟨.empty⟩ history =
        (configMapService ownerResolver).answers .empty history ∧
      (∀ scope taskId,
        (storeAfter ownerResolver history).loadWithMetadata scope taskId =
            liveConfigs ownerResolver scope taskId history ∧
          ((liveConfigs ownerResolver scope taskId history).map (fun entry => entry.config.id)).Nodup ∧
          "" ∉ (liveConfigs ownerResolver scope taskId history).map (fun entry => entry.config.id)) ∧
      (∀ before issued later, history = before ++ issued :: later →
        EditsOneTask ownerResolver before issued) := by
  refine ⟨?_, fun scope taskId => ⟨loaded_eq_live history scope taskId, ?_, ?_⟩, ?_⟩
  · exact (Nested.pushService_simulates.trans pushService_lists).answers_eq
      ⟨.empty, Nested.ScopedStore.Represents.empty, .empty⟩ history
  · rw [liveConfigs_ids]
    exact OrderedMap.distinct _
  · intro listed
    rw [liveConfigs_ids] at listed
    obtain ⟨issued, member, saved⟩ := savedId_of_mem history scope taskId listed
    exact savedId_ne_empty (fresh.nonempty issued member) saved rfl
  · rintro before issued later rfl
    have apart := (List.pairwise_append.mp fresh.unused).2.2
    exact editsOneTask before issued fun uuid drawn earlier member =>
      apart earlier member issued List.mem_cons_self uuid drawn

section Examples

/-- A webhook for the task `t`. -/
def webhook (id url : String) : TaskPushNotificationConfig := ⟨"", id, "t", url, "", none⟩

def issuedOver (requestedVersion : String) (operation : PushStoreOperation) : Issued PushStoreOperation :=
  ⟨⟨none, none, requestedVersion, .empty⟩, operation⟩

/-- A drawn id, the task's own id, a second save of the first, and a removal without an id. -/
def webhookHistory : List (Issued PushStoreOperation) :=
  [issuedOver "1.0" (.save "t" (webhook "" "a") "u"), issuedOver "1.0" (.save "t" (webhook "t" "b") "v"),
    issuedOver "" (.save "t" (webhook "u" "c") "w"), issuedOver "1.0" (.delete "t" none),
    issuedOver "1.0" (.loadWithMetadata "t")]

theorem pushStore_refines_webhooks :
    DrawsFresh webhookHistory ∧
      (storeAfter resolveUserScope webhookHistory).loadWithMetadata ⟨"", "unknown"⟩ "t" =
        [⟨webhook "u" "c", "0.3"⟩] := by
  have fresh : DrawsFresh webhookHistory := by
    constructor <;> simp [webhookHistory, issuedOver, Issued.drawn?, Issued.savedId?, webhook]
  refine ⟨fresh, ((pushStore_refines resolveUserScope webhookHistory fresh).2.1 _ _).1.trans ?_⟩
  simp [webhookHistory, issuedOver, liveConfigs, configEdits, Issued.editOf, Issued.edit, Issued.stored,
    InMemoryPushNotificationStore.assignId, webhook, Issued.scope, scopeOf, resolveUserScope, Edit.live,
    Edit.untouched, Edit.key, List.filterMap]

end Examples

end A2A.Server
