import A2A.Library.Service
import A2A.Server.Stores

namespace A2A.Server

open Library

/-! The in-memory stores over `ScopedStore`'s own representation.

`ScopedStore` of the other modules is a function of the scope.  Here are the
three nested maps of the source, whose levels appear with the first write, and
the two stores as services over either representation.
-/

inductive TaskStoreOperation where
  | save (task : Task)
  | load (taskId : String)
  | list (params : ListTasksRequest)

inductive TaskStoreResult where
  | saved
  | loaded (task : Option Task)
  | listed (response : Except String ListTasksResponse)

/-- `uuid` is what `crypto.randomUUID()` returns, should the configuration need an id. -/
inductive PushStoreOperation where
  | save (taskId : String) (config : TaskPushNotificationConfig) (uuid : String)
  | load (taskId : String)
  | loadWithMetadata (taskId : String)
  | delete (taskId : String) (configId : Option String)

inductive PushStoreResult where
  /-- The caller's configuration, which `save` gives its id in place. -/
  | saved (config : TaskPushNotificationConfig)
  | loaded (configs : List TaskPushNotificationConfig)
  | loadedWithMetadata (entries : List StoredPushNotificationConfig)
  | deleted

/-- An operation and the context it is issued with. -/
structure Issued (ο : Type) where
  context : ServerCallContext
  operation : ο

def Issued.scope (ownerResolver : OwnerResolver) {ο : Type} (issued : Issued ο) : Scope :=
  scopeOf ownerResolver issued.context

namespace Nested

structure ScopedStore (α : Type) where
  store : OrderedMap String (OrderedMap String (OrderedMap String α))

namespace ScopedStore

variable {α : Type}

def empty : ScopedStore α := ⟨.empty⟩

def getBucket (scopedStore : ScopedStore α) (scope : Scope) : Option (OrderedMap String α) :=
  (scopedStore.store.get? scope.tenantKey).bind (fun tenantBucket => tenantBucket.get? scope.ownerKey)

/-- The store with both levels created, and the bucket. -/
def getOrCreateBucket (scopedStore : ScopedStore α) (scope : Scope) :
    ScopedStore α × OrderedMap String α :=
  let (store, tenantBucket) :=
    match scopedStore.store.get? scope.tenantKey with
    | some tenantBucket => (scopedStore.store, tenantBucket)
    | none => (scopedStore.store.set scope.tenantKey .empty, .empty)
  match tenantBucket.get? scope.ownerKey with
  | some ownerBucket => (⟨store⟩, ownerBucket)
  | none => (⟨store.set scope.tenantKey (tenantBucket.set scope.ownerKey .empty)⟩, .empty)

/-- The store after its bucket was edited in place. -/
def withBucket (scopedStore : ScopedStore α) (scope : Scope) (bucket : OrderedMap String α) :
    ScopedStore α :=
  let tenantBucket := (scopedStore.store.get? scope.tenantKey).getD .empty
  ⟨scopedStore.store.set scope.tenantKey (tenantBucket.set scope.ownerKey bucket)⟩

@[simp] theorem getBucket_empty (scope : Scope) : (empty : ScopedStore α).getBucket scope = none := rfl

theorem getBucket_withBucket (scopedStore : ScopedStore α) (scope other : Scope)
    (bucket : OrderedMap String α) :
    (scopedStore.withBucket scope bucket).getBucket other =
      if scope = other then some bucket else scopedStore.getBucket other := by
  obtain ⟨tenantKey, ownerKey⟩ := scope
  obtain ⟨otherTenant, otherOwner⟩ := other
  by_cases tenants : tenantKey = otherTenant
  · subst tenants
    by_cases owners : ownerKey = otherOwner
    · simp [getBucket, withBucket, owners]
    · cases found : scopedStore.store.get? tenantKey <;>
        simp [getBucket, withBucket, owners, found, OrderedMap.get?_set]
  · simp [getBucket, withBucket, tenants, OrderedMap.get?_set]

theorem getOrCreateBucket_bucket (scopedStore : ScopedStore α) (scope : Scope) :
    (scopedStore.getOrCreateBucket scope).2 = (scopedStore.getBucket scope).getD .empty := by
  cases tenant : scopedStore.store.get? scope.tenantKey with
  | none => simp [getOrCreateBucket, getBucket, tenant]
  | some tenantBucket =>
      cases owner : tenantBucket.get? scope.ownerKey <;>
        simp [getOrCreateBucket, getBucket, tenant, owner]

/-- Creating a bucket adds no row and touches no other bucket. -/
theorem getBucket_getOrCreateBucket (scopedStore : ScopedStore α) (scope other : Scope) :
    ((scopedStore.getOrCreateBucket scope).1.getBucket other).getD .empty =
      (scopedStore.getBucket other).getD .empty := by
  obtain ⟨tenantKey, ownerKey⟩ := scope
  obtain ⟨otherTenant, otherOwner⟩ := other
  cases tenant : scopedStore.store.get? tenantKey with
  | none =>
      by_cases tenants : tenantKey = otherTenant
      · subst tenants
        by_cases owners : ownerKey = otherOwner <;>
          simp [getOrCreateBucket, getBucket, tenant, owners, OrderedMap.get?_set]
      · simp [getOrCreateBucket, getBucket, tenant, tenants, OrderedMap.get?_set]
  | some tenantBucket =>
      cases owner : tenantBucket.get? ownerKey with
      | some ownerBucket => simp [getOrCreateBucket, getBucket, tenant, owner]
      | none =>
          by_cases tenants : tenantKey = otherTenant
          · subst tenants
            by_cases owners : ownerKey = otherOwner
            · subst owners
              simp [getOrCreateBucket, getBucket, tenant, owner]
            · simp [getOrCreateBucket, getBucket, tenant, owner, owners, OrderedMap.get?_set]
          · simp [getOrCreateBucket, getBucket, tenant, owner, tenants, OrderedMap.get?_set]

/-- The nested maps hold the buckets of a store that is a function of the scope. -/
def Represents (scopedStore : ScopedStore α) (model : Server.ScopedStore α) : Prop :=
  ∀ scope, (scopedStore.getBucket scope).getD .empty = model.bucket scope

variable {scopedStore : ScopedStore α} {model : Server.ScopedStore α} {scope : Scope}

theorem Represents.empty : (ScopedStore.empty : ScopedStore α).Represents .empty := fun _ => rfl

theorem Represents.created (represents : scopedStore.Represents model) (scope : Scope) :
    (scopedStore.getOrCreateBucket scope).1.Represents model := fun other =>
  (getBucket_getOrCreateBucket scopedStore scope other).trans (represents other)

theorem Represents.bucket (represents : scopedStore.Represents model) (scope : Scope) :
    (scopedStore.getOrCreateBucket scope).2 = model.bucket scope :=
  (getOrCreateBucket_bucket scopedStore scope).trans (represents scope)

theorem Represents.get? (represents : scopedStore.Represents model) (scope : Scope) (key : String) :
    (scopedStore.getBucket scope).bind (fun bucket => bucket.get? key) = model.get? scope key := by
  rw [Server.ScopedStore.get?, ← represents scope]
  cases scopedStore.getBucket scope <;> rfl

/-- Editing the bucket of one scope in place is updating the function at that scope. -/
theorem Represents.withBucket (represents : scopedStore.Represents model) (scope : Scope)
    (bucket : OrderedMap String α) :
    (scopedStore.withBucket scope bucket).Represents ⟨Function.update model.bucket scope bucket⟩ := by
  intro other
  rw [getBucket_withBucket]
  by_cases same : scope = other
  · subst same
    simp
  · rw [if_neg same, represents other]
    exact (Function.update_of_ne (Ne.symm same) bucket model.bucket).symm

end ScopedStore

/-- `InMemoryTaskStore` -/
structure InMemoryTaskStore where
  scopedStore : ScopedStore Task

namespace InMemoryTaskStore

def load (store : InMemoryTaskStore) (scope : Scope) (taskId : String) : Option Task :=
  (store.scopedStore.getBucket scope).bind (fun bucket => bucket.get? taskId)

def save (store : InMemoryTaskStore) (scope : Scope) (task : Task) : InMemoryTaskStore :=
  let (created, bucket) := store.scopedStore.getOrCreateBucket scope
  ⟨created.withBucket scope (bucket.set task.id task)⟩

def list (runtime : Runtime) (store : InMemoryTaskStore) (scope : Scope) (params : ListTasksRequest) :
    Except String ListTasksResponse :=
  let tasks :=
    match store.scopedStore.getBucket scope with
    | some bucket => bucket.values
    | none => []
  Server.InMemoryTaskStore.list runtime tasks params

end InMemoryTaskStore

/-- `InMemoryPushNotificationStore` -/
structure InMemoryPushNotificationStore where
  scopedStore : ScopedStore (List StoredPushNotificationConfig)

namespace InMemoryPushNotificationStore

def loadWithMetadata (store : InMemoryPushNotificationStore) (scope : Scope) (taskId : String) :
    List StoredPushNotificationConfig :=
  ((store.scopedStore.getBucket scope).bind (fun bucket => bucket.get? taskId)).getD []

def load (store : InMemoryPushNotificationStore) (scope : Scope) (taskId : String) :
    List TaskPushNotificationConfig :=
  (store.loadWithMetadata scope taskId).map StoredPushNotificationConfig.config

def save (store : InMemoryPushNotificationStore) (scope : Scope) (taskId requestedVersion : String)
    (config : TaskPushNotificationConfig) (uuid : String) : InMemoryPushNotificationStore :=
  let (created, bucket) := store.scopedStore.getOrCreateBucket scope
  let entries := (bucket.get? taskId).getD []
  let named := Server.InMemoryPushNotificationStore.assignId config uuid
  let wireVersion := if requestedVersion = "" then "0.3" else requestedVersion
  let others := entries.eraseP (fun entry => entry.config.id = named.id)
  ⟨created.withBucket scope (bucket.set taskId (others ++ [⟨named, wireVersion⟩]))⟩

def delete (store : InMemoryPushNotificationStore) (scope : Scope) (taskId : String)
    (configId : Option String) : InMemoryPushNotificationStore :=
  match store.scopedStore.getBucket scope with
  | none => store
  | some bucket =>
      match bucket.get? taskId with
      | none => store
      | some entries =>
          let remaining := entries.eraseP (fun entry => entry.config.id = configId.getD taskId)
          if remaining.isEmpty then ⟨store.scopedStore.withBucket scope (bucket.erase taskId)⟩
          else ⟨store.scopedStore.withBucket scope (bucket.set taskId remaining)⟩

end InMemoryPushNotificationStore

/-- The task store under calls with arbitrary contexts. -/
def taskService (runtime : Runtime) (ownerResolver : OwnerResolver) :
    Service InMemoryTaskStore (Issued TaskStoreOperation) TaskStoreResult where
  perform store issued :=
    let scope := issued.scope ownerResolver
    match issued.operation with
    | .save task => (store.save scope task, .saved)
    | .load taskId => (store, .loaded (store.load scope taskId))
    | .list params => (store, .listed (store.list runtime scope params))

/-- The push configuration store under calls with arbitrary contexts. -/
def pushService (ownerResolver : OwnerResolver) :
    Service InMemoryPushNotificationStore (Issued PushStoreOperation) PushStoreResult where
  perform store issued :=
    let scope := issued.scope ownerResolver
    match issued.operation with
    | .save taskId config uuid =>
        (store.save scope taskId issued.context.requestedVersion config uuid,
          .saved (Server.InMemoryPushNotificationStore.assignId config uuid))
    | .load taskId => (store, .loaded (store.load scope taskId))
    | .loadWithMetadata taskId => (store, .loadedWithMetadata (store.loadWithMetadata scope taskId))
    | .delete taskId configId => (store.delete scope taskId configId, .deleted)

end Nested

/-- The task store of the request model under the same calls. -/
def taskService (runtime : Runtime) (ownerResolver : OwnerResolver) :
    Service InMemoryTaskStore (Issued TaskStoreOperation) TaskStoreResult where
  perform store issued :=
    let scope := issued.scope ownerResolver
    match issued.operation with
    | .save task => (store.save scope task, .saved)
    | .load taskId => (store, .loaded (store.load scope taskId))
    | .list params =>
        (store, .listed (InMemoryTaskStore.list runtime (store.scopedStore.bucket scope).values params))

/-- The push configuration store of the request model under the same calls. -/
def pushService (ownerResolver : OwnerResolver) :
    Service InMemoryPushNotificationStore (Issued PushStoreOperation) PushStoreResult where
  perform store issued :=
    let scope := issued.scope ownerResolver
    match issued.operation with
    | .save taskId config uuid =>
        (store.save scope taskId issued.context.requestedVersion config uuid,
          .saved (InMemoryPushNotificationStore.assignId config uuid))
    | .load taskId => (store, .loaded (store.load scope taskId))
    | .loadWithMetadata taskId => (store, .loadedWithMetadata (store.loadWithMetadata scope taskId))
    | .delete taskId configId => (store.delete scope taskId configId, .deleted)

end A2A.Server
