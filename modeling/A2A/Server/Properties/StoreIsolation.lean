import A2A.Server.NestedStores

namespace A2A.Server

open Library

variable {runtime : Runtime} {ownerResolver : OwnerResolver}

namespace Nested

theorem taskService_simulates :
    (taskService runtime ownerResolver).Simulates (Server.taskService runtime ownerResolver)
      (fun store model => store.scopedStore.Represents model.scopedStore) where
  answer {state model} issued represents := by
    rcases issued with ⟨context, operation⟩
    cases operation with
    | save task => rfl
    | load taskId => exact congrArg TaskStoreResult.loaded (represents.get? _ taskId)
    | list params =>
        have bucket := represents (scopeOf ownerResolver context)
        simp only [taskService, Server.taskService, InMemoryTaskStore.list, Issued.scope, ← bucket]
        cases state.scopedStore.getBucket (scopeOf ownerResolver context) <;> rfl
  next {state model} issued represents := by
    rcases issued with ⟨context, operation⟩
    cases operation with
    | save task =>
        have created := represents.created (scopeOf ownerResolver context)
        simp only [taskService, InMemoryTaskStore.save, Issued.scope, represents.bucket]
        exact created.withBucket _ _
    | load taskId => exact represents
    | list params => exact represents

/-- Both stores read the same entries of a task. -/
theorem loadWithMetadata_eq {store : InMemoryPushNotificationStore}
    {model : Server.InMemoryPushNotificationStore}
    (represents : store.scopedStore.Represents model.scopedStore) (scope : Scope) (taskId : String) :
    store.loadWithMetadata scope taskId = model.loadWithMetadata scope taskId :=
  congrArg (Option.getD · []) (represents.get? scope taskId)

theorem save_represents {store : InMemoryPushNotificationStore}
    {model : Server.InMemoryPushNotificationStore}
    (represents : store.scopedStore.Represents model.scopedStore) (scope : Scope)
    (taskId requestedVersion : String) (config : TaskPushNotificationConfig) (uuid : String) :
    (store.save scope taskId requestedVersion config uuid).scopedStore.Represents
      (model.save scope taskId requestedVersion config uuid).scopedStore := by
  have created := represents.created scope
  simp only [InMemoryPushNotificationStore.save, represents.bucket]
  exact created.withBucket _ _

theorem delete_represents {store : InMemoryPushNotificationStore}
    {model : Server.InMemoryPushNotificationStore}
    (represents : store.scopedStore.Represents model.scopedStore) (scope : Scope) (taskId : String)
    (configId : Option String) :
    (store.delete scope taskId configId).scopedStore.Represents
      (model.delete scope taskId configId).scopedStore := by
  have stored := represents.get? scope taskId
  have bucketed := represents scope
  cases bucket : store.scopedStore.getBucket scope with
  | none =>
      rw [bucket] at stored
      simpa [InMemoryPushNotificationStore.delete, Server.InMemoryPushNotificationStore.delete, bucket,
        ← stored] using represents
  | some rows =>
      rw [bucket, Option.bind_some] at stored
      rw [bucket, Option.getD_some] at bucketed
      cases entries : rows.get? taskId with
      | none =>
          simpa [InMemoryPushNotificationStore.delete, Server.InMemoryPushNotificationStore.delete,
            bucket, entries, ← stored] using represents
      | some entries' =>
          simp only [InMemoryPushNotificationStore.delete, Server.InMemoryPushNotificationStore.delete,
            bucket, entries, ← stored]
          split
          · rw [bucketed]
            exact represents.withBucket _ _
          · rw [bucketed]
            exact represents.withBucket _ _

theorem pushService_simulates :
    (pushService ownerResolver).Simulates (Server.pushService ownerResolver)
      (fun store model => store.scopedStore.Represents model.scopedStore) where
  answer {state model} issued represents := by
    rcases issued with ⟨context, operation⟩
    have entries := loadWithMetadata_eq represents (scopeOf ownerResolver context)
    cases operation with
    | save taskId config uuid => rfl
    | load taskId =>
        exact congrArg (fun entries => PushStoreResult.loaded (entries.map StoredPushNotificationConfig.config))
          (entries taskId)
    | loadWithMetadata taskId => exact congrArg PushStoreResult.loadedWithMetadata (entries taskId)
    | delete taskId configId => rfl
  next {state model} issued represents := by
    rcases issued with ⟨context, operation⟩
    cases operation with
    | save taskId config uuid => exact save_represents represents _ _ _ _ _
    | load taskId => exact represents
    | loadWithMetadata taskId => exact represents
    | delete taskId configId => exact delete_represents represents _ _ _

end Nested

theorem taskService_unwinds :
    (taskService runtime ownerResolver).Unwinds (Issued.scope ownerResolver)
      (fun scope store => store.scopedStore.bucket scope) where
  answer {state other} issued agree := by
    cases operation : issued.operation with
    | save task => simp [taskService, operation]
    | load taskId =>
        simp only [taskService, operation, InMemoryTaskStore.load, ScopedStore.get?, agree]
    | list params => simp only [taskService, operation, agree]
  next {state other} issued agree := by
    cases operation : issued.operation with
    | save task =>
        simp only [taskService, operation, InMemoryTaskStore.save, ScopedStore.set, agree,
          Function.update_self]
    | load taskId => simpa only [taskService, operation] using agree
    | list params => simpa only [taskService, operation] using agree
  elsewhere state {issued wanted} foreign := by
    cases operation : issued.operation with
    | save task =>
        simp only [taskService, operation, InMemoryTaskStore.save]
        exact ScopedStore.bucket_set_of_ne _ _ _ (Ne.symm foreign)
    | load taskId => simp only [taskService, operation]
    | list params => simp only [taskService, operation]

/-- What `delete` leaves of a bucket depends on this bucket alone. -/
theorem bucket_delete (store : InMemoryPushNotificationStore) (scope : Scope) (taskId : String)
    (configId : Option String) (other : Scope) :
    (store.delete scope taskId configId).scopedStore.bucket other =
      if scope = other then
        match (store.scopedStore.bucket scope).get? taskId with
        | none => store.scopedStore.bucket scope
        | some entries =>
            let remaining := entries.eraseP (fun entry => entry.config.id = configId.getD taskId)
            if remaining.isEmpty then (store.scopedStore.bucket scope).erase taskId
            else (store.scopedStore.bucket scope).set taskId remaining
      else store.scopedStore.bucket other := by
  by_cases same : scope = other
  · subst same
    simp only [InMemoryPushNotificationStore.delete, ScopedStore.get?, if_pos]
    cases (store.scopedStore.bucket scope).get? taskId with
    | none => rfl
    | some entries =>
        dsimp only
        split <;> exact Function.update_self ..
  · simp only [InMemoryPushNotificationStore.delete, ScopedStore.get?, if_neg same]
    cases (store.scopedStore.bucket scope).get? taskId with
    | none => rfl
    | some entries =>
        dsimp only
        split <;> exact Function.update_of_ne (Ne.symm same) ..

theorem pushService_unwinds :
    (pushService ownerResolver).Unwinds (Issued.scope ownerResolver)
      (fun scope store => store.scopedStore.bucket scope) where
  answer {state other} issued agree := by
    cases operation : issued.operation with
    | save taskId config uuid => simp [pushService, operation]
    | load taskId =>
        simp only [pushService, operation, InMemoryPushNotificationStore.load,
          InMemoryPushNotificationStore.loadWithMetadata, ScopedStore.get?, agree]
    | loadWithMetadata taskId =>
        simp only [pushService, operation, InMemoryPushNotificationStore.loadWithMetadata,
          ScopedStore.get?, agree]
    | delete taskId configId => simp [pushService, operation]
  next {state other} issued agree := by
    cases operation : issued.operation with
    | save taskId config uuid =>
        simp only [pushService, operation, InMemoryPushNotificationStore.save,
          InMemoryPushNotificationStore.loadWithMetadata, ScopedStore.get?, ScopedStore.set, agree,
          Function.update_self]
    | load taskId => simpa only [pushService, operation] using agree
    | loadWithMetadata taskId => simpa only [pushService, operation] using agree
    | delete taskId configId => simp only [pushService, operation, bucket_delete, agree]
  elsewhere state {issued wanted} foreign := by
    cases operation : issued.operation with
    | save taskId config uuid =>
        simp only [pushService, operation, InMemoryPushNotificationStore.save]
        exact ScopedStore.bucket_set_of_ne _ _ _ (Ne.symm foreign)
    | load taskId => simp only [pushService, operation]
    | loadWithMetadata taskId => simp only [pushService, operation]
    | delete taskId configId => simp only [pushService, operation, bucket_delete, if_neg foreign]

/-- Every history of store operations answers the callers of one scope, a tenant (none is the
empty one) with a resolved owner, as the history that holds their operations only. -/
theorem scopedStores_isolate (runtime : Runtime) (ownerResolver : OwnerResolver)
    (context : ServerCallContext) :
    (∀ history : List (Issued TaskStoreOperation),
      ((Nested.taskService runtime ownerResolver).answers ⟨.empty⟩ history).filter
          (fun entry => entry.1.scope ownerResolver = scopeOf ownerResolver context) =
        (Nested.taskService runtime ownerResolver).answers ⟨.empty⟩
          (history.filter (fun issued => issued.scope ownerResolver = scopeOf ownerResolver context))) ∧
    (∀ history : List (Issued PushStoreOperation),
      ((Nested.pushService ownerResolver).answers ⟨.empty⟩ history).filter
          (fun entry => entry.1.scope ownerResolver = scopeOf ownerResolver context) =
        (Nested.pushService ownerResolver).answers ⟨.empty⟩
          (history.filter (fun issued => issued.scope ownerResolver = scopeOf ownerResolver context))) := by
  have tasks : ∀ history : List (Issued TaskStoreOperation),
      (Nested.taskService runtime ownerResolver).answers ⟨.empty⟩ history =
        (taskService runtime ownerResolver).answers .empty history :=
    Nested.taskService_simulates.answers_eq Nested.ScopedStore.Represents.empty
  have configs : ∀ history : List (Issued PushStoreOperation),
      (Nested.pushService ownerResolver).answers ⟨.empty⟩ history =
        (pushService ownerResolver).answers .empty history :=
    Nested.pushService_simulates.answers_eq Nested.ScopedStore.Represents.empty
  constructor
  · intro history
    rw [tasks, tasks]
    exact taskService_unwinds.answers_filter rfl history
  · intro history
    rw [configs, configs]
    exact pushService_unwinds.answers_filter rfl history

end A2A.Server
