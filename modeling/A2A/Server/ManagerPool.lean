import A2A.Library.Transition
import A2A.Server.RequestHandler.Call

namespace A2A.Server

open Library

/-! Several `ResultManager`s that share a task store and a calling context.

Each call of `processEvent` runs on its own.  The store's load and save are
separate steps, and the sections of one task are chained by `serializeByScope`.
-/

abbrev ManagerId := Nat

/-- A call of `processEvent`, by its place among all calls. -/
abbrev SectionId := Nat

inductive SectionPhase where
  /-- Not loaded yet: chained, or waiting for its load. -/
  | waiting
  /-- The merged task, and the merge it came from for the history. -/
  | saving (task : Task) (write : Write)
  | returned
  | rejected (error : String)

structure Section where
  manager : ManagerId
  event : AgentExecutionEvent
  phase : SectionPhase

structure ManagerPool where
  taskStore : InMemoryTaskStore
  /-- `taskWriteLocks`: for each key the sections of its chain, the running one first. -/
  locks : String → List SectionId
  sections : List Section
  managers : ManagerId → ResultManager
  /-- History only: the merges that were saved, with the task's id. -/
  writes : List (String × Write)

/-- What every manager of the pool was constructed with. -/
structure PoolContext where
  ownerResolver : OwnerResolver
  context : ServerCallContext

def PoolContext.scope (pool : PoolContext) : Scope := scopeOf pool.ownerResolver pool.context

/-- The key an event's section runs under; an event without a task id runs unlocked. -/
def PoolContext.key (pool : PoolContext) (event : AgentExecutionEvent) : Option String :=
  event.target.bind fun taskId => if taskId = "" then none else some (lockKey pool.context taskId)

namespace ManagerPool

/-- Managers in any state, and no call under way. -/
def initial (taskStore : InMemoryTaskStore) (managers : ManagerId → ResultManager) : ManagerPool :=
  ⟨taskStore, fun _ => [], [], managers, []⟩

def row (state : ManagerPool) (pool : PoolContext) (taskId : String) : Option Task :=
  state.taskStore.load pool.scope taskId

def acquire (state : ManagerPool) (key : Option String) (id : SectionId) : ManagerPool :=
  match key with
  | none => state
  | some key =>
      { state with locks := Function.update state.locks key (state.locks key ++ [id]) }

def release (state : ManagerPool) (key : Option String) (id : SectionId) : ManagerPool :=
  match key with
  | none => state
  | some key =>
      { state with locks := Function.update state.locks key ((state.locks key).erase id) }

/-- Has the promise before the section in its chain settled? -/
def runs (state : ManagerPool) (key : Option String) (id : SectionId) : Bool :=
  key.all fun key => (state.locks key).head? = some id

def setSection (state : ManagerPool) (id : SectionId) (entry : Section) (phase : SectionPhase) :
    ManagerPool :=
  { state with sections := state.sections.set id { entry with phase } }

def setManager (state : ManagerPool) (id : ManagerId) (manager : ResultManager) : ManagerPool :=
  { state with managers := Function.update state.managers id manager }

/-- `processEvent` up to its first `await`.  A message only reaches the manager itself. -/
def processEvent (pool : PoolContext) (state : ManagerPool) (manager : ManagerId)
    (event : AgentExecutionEvent) : ManagerPool :=
  match event.target with
  | none =>
      { state.setManager manager ((state.managers manager).merge none event).1 with
        sections := state.sections ++ [⟨manager, event, .returned⟩] }
  | some _ =>
      acquire { state with sections := state.sections ++ [⟨manager, event, .waiting⟩] }
        (pool.key event) state.sections.length

/-- The load has returned: the section merges, and goes on to its save if it has one. -/
def loaded (pool : PoolContext) (state : ManagerPool) (id : SectionId) (entry : Section) :
    ManagerPool :=
  let read := if ResultManager.needsLoad entry.event then
    entry.event.target.bind (state.row pool) else none
  let (manager, saves) := (state.managers entry.manager).merge read entry.event
  let merged := state.setManager entry.manager manager
  match saves, manager.currentTask with
  | true, some task =>
      merged.setSection id entry (.saving task (.event manager.latestUserMessage entry.event))
  | _, _ => (merged.setSection id entry .returned).release (pool.key entry.event) id

def loadFailed (pool : PoolContext) (state : ManagerPool) (id : SectionId) (entry : Section)
    (error : String) : ManagerPool :=
  (state.setSection id entry (.rejected error)).release (pool.key entry.event) id

def saved (pool : PoolContext) (state : ManagerPool) (id : SectionId) (entry : Section)
    (task : Task) (write : Write) : ManagerPool :=
  let stored := { state with
    taskStore := state.taskStore.save pool.scope task
    writes := state.writes ++ [(task.id, write)] }
  (stored.setSection id entry .returned).release (pool.key entry.event) id

inductive Action where
  | processEvent (manager : ManagerId) (event : AgentExecutionEvent)
  | load (id : SectionId) (fate : Fate)
  | save (id : SectionId) (fate : Fate)

def step (pool : PoolContext) (state : ManagerPool) : Action → Option ManagerPool
  | .processEvent manager event => some (state.processEvent pool manager event)
  | .load id fate =>
      match state.sections[id]? with
      | none => none
      | some entry =>
          match entry.phase with
          | .waiting =>
              if state.runs (pool.key entry.event) id then
                match fate with
                | .ok => some (state.loaded pool id entry)
                | .fail error =>
                    if ResultManager.needsLoad entry.event then
                      some (state.loadFailed pool id entry error)
                    else none
              else none
          | _ => none
  | .save id fate =>
      match state.sections[id]? with
      | none => none
      | some entry =>
          match entry.phase with
          | .saving task write =>
              match fate with
              | .ok => some (state.saved pool id entry task write)
              | .fail error => some (state.loadFailed pool id entry error)
          | _ => none

end ManagerPool

def managerSystem (pool : PoolContext) : System ManagerPool ManagerPool.Action where
  step := ManagerPool.step pool

end A2A.Server
