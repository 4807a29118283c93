import A2A.Types

namespace A2A.Server

open Library

structure User where
  userName : String
  isAuthenticated : Bool
deriving DecidableEq, Repr

/-- The fields of a call context that no call ever changes.  The extension
lists, which a call narrows while it runs, live in the call's own record. -/
structure ServerCallContext where
  tenant : Option String
  user : Option User
  requestedVersion : String
  state : OrderedMap String JsonValue

abbrev OwnerResolver := ServerCallContext → String

/-- The default resolver: the user's name, or `unknown` when it is missing or empty. -/
def resolveUserScope : OwnerResolver := fun context =>
  match context.user with
  | some user => if user.userName = "" then "unknown" else user.userName
  | none => "unknown"

/-- The pair of keys under which `ScopedStore` finds a caller's bucket. -/
structure Scope where
  tenantKey : String
  ownerKey : String
deriving DecidableEq, Repr

def scopeOf (ownerResolver : OwnerResolver) (context : ServerCallContext) : Scope :=
  ⟨context.tenant.getD "", ownerResolver context⟩

/-- The key `serializeByScope` chains writes under.  It names the user, not
the owner the store's resolver computes. -/
def lockKey (context : ServerCallContext) (taskId : String) : String :=
  context.tenant.getD "" ++ "\x00" ++ (context.user.map User.userName).getD "" ++ "\x00" ++ taskId

/-- The triple-nested map of both in-memory stores.  A missing bucket and an
empty one are not told apart by any reader. -/
structure ScopedStore (α : Type) where
  bucket : Scope → OrderedMap String α

namespace ScopedStore

variable {α : Type}

def empty : ScopedStore α := ⟨fun _ => .empty⟩

def get? (store : ScopedStore α) (scope : Scope) (key : String) : Option α :=
  (store.bucket scope).get? key

def set (store : ScopedStore α) (scope : Scope) (key : String) (value : α) : ScopedStore α :=
  ⟨Function.update store.bucket scope ((store.bucket scope).set key value)⟩

def erase (store : ScopedStore α) (scope : Scope) (key : String) : ScopedStore α :=
  ⟨Function.update store.bucket scope ((store.bucket scope).erase key)⟩

theorem get?_set (store : ScopedStore α) (scope other : Scope) (key name : String) (value : α) :
    (store.set scope key value).get? other name =
      if scope = other ∧ key = name then some value else store.get? other name := by
  by_cases same : other = scope
  · subst same
    simp [get?, set, OrderedMap.get?_set]
  · simp [get?, set, Function.update_of_ne same, Ne.symm same]

theorem get?_erase (store : ScopedStore α) (scope other : Scope) (key name : String) :
    (store.erase scope key).get? other name =
      if scope = other ∧ key = name then none else store.get? other name := by
  by_cases same : other = scope
  · subst same
    simp [get?, erase, OrderedMap.get?_erase]
  · simp [get?, erase, Function.update_of_ne same, Ne.symm same]

/-- Writing one scope leaves every other bucket as it was. -/
theorem bucket_set_of_ne (store : ScopedStore α) {scope other : Scope} (key : String) (value : α)
    (differ : other ≠ scope) : (store.set scope key value).bucket other = store.bucket other :=
  Function.update_of_ne differ _ _

end ScopedStore

/-- `InMemoryTaskStore`.  `save` files a task under its own id, so a row whose
key is not its task's id cannot exist. -/
structure InMemoryTaskStore where
  scopedStore : ScopedStore Task
  keyed : ∀ {scope : Scope} {taskId : String} {task : Task},
    scopedStore.get? scope taskId = some task → task.id = taskId

namespace InMemoryTaskStore

def empty : InMemoryTaskStore := ⟨.empty, fun found => nomatch found⟩

def load (store : InMemoryTaskStore) (scope : Scope) (taskId : String) : Option Task :=
  store.scopedStore.get? scope taskId

def save (store : InMemoryTaskStore) (scope : Scope) (task : Task) : InMemoryTaskStore where
  scopedStore := store.scopedStore.set scope task.id task
  keyed := by
    intro other taskId found stored
    rw [ScopedStore.get?_set] at stored
    split at stored
    · rename_i same
      cases stored
      exact same.2
    · exact store.keyed stored

theorem load_save (store : InMemoryTaskStore) (scope other : Scope) (task : Task) (taskId : String) :
    (store.save scope task).load other taskId =
      if scope = other ∧ task.id = taskId then some task else store.load other taskId :=
  store.scopedStore.get?_set scope other task.id taskId task

@[simp] theorem load_save_self (store : InMemoryTaskStore) (scope : Scope) (task : Task) :
    (store.save scope task).load scope task.id = some task := by
  simp [load_save]

theorem load_save_of_ne (store : InMemoryTaskStore) {scope other : Scope} {task : Task}
    {taskId : String} (differ : ¬ (scope = other ∧ task.id = taskId)) :
    (store.save scope task).load other taskId = store.load other taskId := by
  simp [load_save, differ]

theorem load_id {store : InMemoryTaskStore} {scope : Scope} {taskId : String} {task : Task}
    (loaded : store.load scope taskId = some task) : task.id = taskId :=
  store.keyed loaded

end InMemoryTaskStore

/-- What `list` takes from the language's runtime: the collation, the clock's parser and the
text encodings. -/
structure Runtime where
  localeCompare : String → String → Ordering
  /-- `Date.parse`, without a value for `NaN`. -/
  dateParse : String → Option Int
  toBase64 : String → String
  fromBase64 : String → String

def defaultPageSize : Int := 50

/-- `tasks.slice(0, size)` -/
def sliceFirst {α : Type} (items : List α) (size : Int) : List α :=
  if 0 ≤ size then items.take size.toNat else items.take (items.length - (-size).toNat)

namespace InMemoryTaskStore

/-- `task.status?.timestamp || ''` -/
def timestampOf (task : Task) : String := (task.status.bind TaskStatus.timestamp).getD ""

/-- The filters of `list`. -/
def listed (runtime : Runtime) (params : ListTasksRequest) (task : Task) : Bool :=
  (params.contextId = "" || task.contextId = params.contextId) &&
    (params.status = .unspecified || task.state = some params.status) &&
    match params.statusTimestampAfter with
    | none => true
    | some after =>
        after = "" ||
          match runtime.dateParse after, (task.status.bind TaskStatus.timestamp) with
          | some filterTime, some timestamp =>
              timestamp ≠ "" && (runtime.dateParse timestamp).any (fun time => filterTime < time)
          | _, _ => false

/-- The comparator of `tasks.sort`: the latest timestamp first, then the greatest id. -/
def compareTasks (runtime : Runtime) (first second : Task) : Ordering :=
  if timestampOf second ≠ timestampOf first then
    runtime.localeCompare (timestampOf second) (timestampOf first)
  else runtime.localeCompare second.id first.id

/-- The tasks behind the one that a page token names, or the text of the error. -/
def afterToken (runtime : Runtime) (tasks : List Task) (pageToken : String) :
    Except String (List Task) :=
  if pageToken = "" then .ok tasks
  else
    match (runtime.fromBase64 pageToken).splitOn "|" with
    | cursorTimestamp :: part :: idParts =>
        let cursorId := "|".intercalate (part :: idParts)
        match tasks.findIdx? (fun task => timestampOf task = cursorTimestamp && task.id = cursorId) with
        | some cursorIndex => .ok (tasks.drop (cursorIndex + 1))
        | none => .ok []
    | _ => .error "Invalid page token format."

/-- `list` on the tasks of a bucket. -/
def list (runtime : Runtime) (bucket : List Task) (params : ListTasksRequest) :
    Except String ListTasksResponse :=
  let pageSize := params.pageSize.getD defaultPageSize
  let sorted := (bucket.filter (listed runtime params)).mergeSort
    (fun first second => compareTasks runtime first second != .gt)
  match afterToken runtime sorted params.pageToken with
  | .error message => .error message
  | .ok tasks =>
      let paginated := sliceFirst tasks pageSize
      .ok {
        tasks := paginated.map (fun task =>
          if params.includeArtifacts.getD false then task else { task with artifacts := [] })
        nextPageToken :=
          match paginated.getLast? with
          | some last =>
              if paginated.length < tasks.length then
                runtime.toBase64 (timestampOf last ++ "|" ++ last.id)
              else ""
          | none => ""
        pageSize
        totalSize := sorted.length }

end InMemoryTaskStore

structure StoredPushNotificationConfig where
  config : TaskPushNotificationConfig
  wireVersion : String

/-- `InMemoryPushNotificationStore` -/
structure InMemoryPushNotificationStore where
  scopedStore : ScopedStore (List StoredPushNotificationConfig)

namespace InMemoryPushNotificationStore

def empty : InMemoryPushNotificationStore := ⟨.empty⟩

def loadWithMetadata (store : InMemoryPushNotificationStore) (scope : Scope) (taskId : String) :
    List StoredPushNotificationConfig :=
  (store.scopedStore.get? scope taskId).getD []

def load (store : InMemoryPushNotificationStore) (scope : Scope) (taskId : String) :
    List TaskPushNotificationConfig :=
  (store.loadWithMetadata scope taskId).map StoredPushNotificationConfig.config

/-- The id that `save` writes into the caller's configuration: a fresh one when it had none. -/
def assignId (config : TaskPushNotificationConfig) (uuid : String) : TaskPushNotificationConfig :=
  if config.id = "" then { config with id := uuid } else config

def save (store : InMemoryPushNotificationStore) (scope : Scope) (taskId requestedVersion : String)
    (config : TaskPushNotificationConfig) (uuid : String) : InMemoryPushNotificationStore :=
  let named := assignId config uuid
  let wireVersion := if requestedVersion = "" then "0.3" else requestedVersion
  let others := (store.loadWithMetadata scope taskId).eraseP (fun entry => entry.config.id = named.id)
  ⟨store.scopedStore.set scope taskId (others ++ [⟨named, wireVersion⟩])⟩

def delete (store : InMemoryPushNotificationStore) (scope : Scope) (taskId : String)
    (configId : Option String) : InMemoryPushNotificationStore :=
  match store.scopedStore.get? scope taskId with
  | none => store
  | some entries =>
      let remaining := entries.eraseP (fun entry => entry.config.id = configId.getD taskId)
      if remaining.isEmpty then ⟨store.scopedStore.erase scope taskId⟩
      else ⟨store.scopedStore.set scope taskId remaining⟩

variable (store : InMemoryPushNotificationStore) (scope : Scope) (taskId : String)

theorem loadWithMetadata_save (other : Scope) (key requestedVersion : String)
    (config : TaskPushNotificationConfig) (uuid : String) :
    (store.save scope taskId requestedVersion config uuid).loadWithMetadata other key =
      if scope = other ∧ taskId = key then
        (store.loadWithMetadata scope taskId).eraseP
          (fun entry => entry.config.id = (assignId config uuid).id) ++
            [⟨assignId config uuid, if requestedVersion = "" then "0.3" else requestedVersion⟩]
      else store.loadWithMetadata other key := by
  unfold save
  dsimp only [loadWithMetadata]
  rw [ScopedStore.get?_set]
  split
  · rfl
  · rfl

theorem loadWithMetadata_delete (configId : Option String) (other : Scope) (key : String) :
    (store.delete scope taskId configId).loadWithMetadata other key =
      if scope = other ∧ taskId = key then
        (store.loadWithMetadata scope taskId).eraseP (fun entry => entry.config.id = configId.getD taskId)
      else store.loadWithMetadata other key := by
  cases found : store.scopedStore.get? scope taskId with
  | none =>
      have listed : store.loadWithMetadata scope taskId = [] := by rw [loadWithMetadata, found, Option.getD_none]
      simp only [delete, found, listed, List.eraseP_nil]
      split
      · rename_i same
        rw [← same.1, ← same.2, listed]
      · rfl
  | some entries =>
      have listed : store.loadWithMetadata scope taskId = entries := by
        rw [loadWithMetadata, found, Option.getD_some]
      simp only [delete, found, listed]
      split
      · rename_i gone
        rw [List.isEmpty_iff.mp gone, loadWithMetadata, ScopedStore.get?_erase]
        split <;> rfl
      · rw [loadWithMetadata, ScopedStore.get?_set]
        split <;> rfl

end InMemoryPushNotificationStore

end A2A.Server
