import A2A.Server.Semantics.Divisions

namespace A2A.Server

open Library

/-! One party's part of a state.

The part has the party's calls, with their locks, buses and events, and the party's buckets.  An
effect of the party itself does to the part what it does to the state; an effect of the other party
leaves the part alone, as long as no call names what is the other's.
-/

namespace ScopedStore

variable {α : Type} {scopes : Scope → Bool} {scope : Scope}

/-- The buckets of some scopes, over those of another store. -/
def overlay (scopes : Scope → Bool) (store rest : ScopedStore α) : ScopedStore α :=
  ⟨fun scope => if scopes scope = true then store.bucket scope else rest.bucket scope⟩

variable {store rest : ScopedStore α}

theorem overlay_bucket (own : scopes scope = true) :
    (store.overlay scopes rest).bucket scope = store.bucket scope := if_pos own

theorem overlay_get? (own : scopes scope = true) (key : String) :
    (store.overlay scopes rest).get? scope key = store.get? scope key := by
  rw [get?, overlay_bucket own, get?]

theorem overlay_update (own : scopes scope = true) (values : OrderedMap String α) :
    overlay scopes ⟨Function.update store.bucket scope values⟩ rest =
      ⟨Function.update (overlay scopes store rest).bucket scope values⟩ := by
  simp only [overlay, mk.injEq]
  funext other
  by_cases same : other = scope
  · subst same
    simp [own]
  · simp [Function.update_of_ne same]

theorem overlay_update_other (other : scopes scope = false) (values : OrderedMap String α) :
    overlay scopes ⟨Function.update store.bucket scope values⟩ rest = overlay scopes store rest := by
  simp only [overlay, mk.injEq]
  funext name
  by_cases same : name = scope
  · subst same
    simp [other]
  · simp [Function.update_of_ne same]

theorem overlay_self (scopes : Scope → Bool) (store : ScopedStore α) : overlay scopes store store = store := by
  simp only [overlay, ite_self]

end ScopedStore

namespace InMemoryTaskStore

variable {scopes : Scope → Bool} {scope : Scope}

theorem ext {store other : InMemoryTaskStore} (same : store.scopedStore = other.scopedStore) :
    store = other := by
  cases store
  cases other
  cases same
  rfl

def overlay (scopes : Scope → Bool) (store rest : InMemoryTaskStore) : InMemoryTaskStore where
  scopedStore := .overlay scopes store.scopedStore rest.scopedStore
  keyed := by
    intro scope taskId task found
    simp only [ScopedStore.get?, ScopedStore.overlay] at found
    split at found
    · exact store.keyed found
    · exact rest.keyed found

variable {store rest : InMemoryTaskStore}

theorem overlay_save (own : scopes scope = true) (task : Task) :
    overlay scopes (store.save scope task) rest = (overlay scopes store rest).save scope task := by
  refine ext ?_
  simp only [overlay, save, ScopedStore.set, ScopedStore.overlay_update own, ScopedStore.overlay_bucket own]

theorem overlay_save_other (other : scopes scope = false) (task : Task) :
    overlay scopes (store.save scope task) rest = overlay scopes store rest :=
  ext (ScopedStore.overlay_update_other other _)

end InMemoryTaskStore

namespace InMemoryPushNotificationStore

variable {scopes : Scope → Bool} {scope : Scope}

def overlay (scopes : Scope → Bool) (store rest : InMemoryPushNotificationStore) :
    InMemoryPushNotificationStore :=
  ⟨.overlay scopes store.scopedStore rest.scopedStore⟩

variable {store rest : InMemoryPushNotificationStore}

theorem overlay_loadWithMetadata (own : scopes scope = true) (taskId : String) :
    (overlay scopes store rest).loadWithMetadata scope taskId = store.loadWithMetadata scope taskId := by
  simp only [loadWithMetadata, overlay, ScopedStore.overlay_get? own]

theorem overlay_save (own : scopes scope = true) (taskId requestedVersion : String)
    (config : TaskPushNotificationConfig) (uuid : String) :
    overlay scopes (store.save scope taskId requestedVersion config uuid) rest =
      (overlay scopes store rest).save scope taskId requestedVersion config uuid := by
  simp only [save, overlay_loadWithMetadata own]
  simp only [overlay, ScopedStore.set, ScopedStore.overlay_update own, ScopedStore.overlay_bucket own]

theorem overlay_save_other (other : scopes scope = false) (taskId requestedVersion : String)
    (config : TaskPushNotificationConfig) (uuid : String) :
    overlay scopes (store.save scope taskId requestedVersion config uuid) rest = overlay scopes store rest :=
  congrArg mk (ScopedStore.overlay_update_other other _)

theorem overlay_delete (own : scopes scope = true) (taskId : String) (configId : Option String) :
    overlay scopes (store.delete scope taskId configId) rest =
      (overlay scopes store rest).delete scope taskId configId := by
  simp only [delete, overlay, ScopedStore.overlay_get? own]
  split
  · rfl
  · split
    · simp only [ScopedStore.erase, ScopedStore.overlay_update own, ScopedStore.overlay_bucket own]
    · simp only [ScopedStore.set, ScopedStore.overlay_update own, ScopedStore.overlay_bucket own]

theorem overlay_delete_other (other : scopes scope = false) (taskId : String) (configId : Option String) :
    overlay scopes (store.delete scope taskId configId) rest = overlay scopes store rest := by
  simp only [delete]
  split
  · rfl
  · split
    · exact congrArg mk (ScopedStore.overlay_update_other other _)
    · exact congrArg mk (ScopedStore.overlay_update_other other _)

end InMemoryPushNotificationStore

namespace Call

variable {call : Call} {bus : BusId}

/-- A queue that is somewhere else is left as it is. -/
theorem queue_elsewhere {change : Queue → Queue} (elsewhere : call.bus ≠ some bus)
    (apart : ∀ queue, queue.eventBus ≠ bus → change queue = queue) :
    call.eventQueue.map change = call.eventQueue := by
  cases queued : call.eventQueue with
  | none => rfl
  | some queue =>
      have other : queue.eventBus ≠ bus := fun same => elsewhere (by rw [Call.bus, queued, ← same]; rfl)
      rw [Option.map_some, apart queue other]

theorem execution_elsewhere {change : Execution → Execution} (wellFormed : call.WellFormed)
    (elsewhere : call.bus ≠ some bus)
    (apart : ∀ execution, execution.eventBus ≠ bus → change execution = execution) :
    call.execution.map change = call.execution := by
  cases executing : call.execution with
  | none => rfl
  | some execution =>
      have attached := (wellFormed.executes execution executing).2.1
      have other : execution.eventBus ≠ bus := fun same => elsewhere (by rw [attached, same])
      rw [Option.map_some, apart execution other]

theorem receive_elsewhere (wellFormed : call.WellFormed) (elsewhere : call.bus ≠ some bus) (id : EventId)
    (event : AgentExecutionEvent) : call.receive bus id event = call := by
  have queue := @queue_elsewhere call bus (fun queue => queue.handleEvent bus id) elsewhere
    fun queue other => by simp [Queue.handleEvent, other]
  have execution := @execution_elsewhere call bus (Execution.receive bus event) wellFormed elsewhere
    fun execution other => by simp [Execution.receive, other]
  rw [receive, queue, execution]
  rcases call with ⟨_, _, _, _, _, _, _ | attached⟩
  · rfl
  · have other : attached.eventBus ≠ bus := fun same => elsewhere (congrArg some same)
    simp [other]

theorem receive_knows_elsewhere {events : EventHeap} (elsewhere : call.bus ≠ some bus)
    (knows : call.Knows events) (id : EventId) (event : AgentExecutionEvent) :
    (call.receive bus id event).Knows events := by
  have queue := @queue_elsewhere call bus (fun queue => queue.handleEvent bus id) elsewhere
    fun queue other => by simp [Queue.handleEvent, other]
  refine (receive_overheard bus id event).knows knows ?_ (congrArg _ queue)
  cases queued : call.eventQueue with
  | none => simp [receive, queued]
  | some attached =>
      have other : attached.eventBus ≠ bus := fun same => elsewhere (by rw [Call.bus, queued, ← same]; rfl)
      simp [receive, queued, other]

theorem Overheard.joins {after : Call} (overheard : call.Overheard after) : after.joins = call.joins := by
  simp only [Call.joins, overheard.pc, overheard.request]

theorem receiveFinished_elsewhere (elsewhere : call.bus ≠ some bus) : call.receiveFinished bus = call := by
  have queue := @queue_elsewhere call bus (fun queue => queue.handleFinished bus) elsewhere
    fun queue other => by simp [Queue.handleFinished, other]
  rw [receiveFinished, queue]

theorem removeListeners_elsewhere (wellFormed : call.WellFormed) (elsewhere : call.bus ≠ some bus) :
    call.removeListeners bus = call := by
  have queue := @queue_elsewhere call bus (fun queue => queue.removeListeners bus) elsewhere
    fun queue other => by simp [Queue.removeListeners, other]
  have execution := @execution_elsewhere call bus (Execution.removeListeners bus) wellFormed elsewhere
    fun execution other => by simp [Execution.removeListeners, other]
  rw [removeListeners, queue, execution]

end Call

namespace State

/-- The part of one party: its calls, with their locks, buses and events, and its buckets over those
that the stores had at the start. -/
def share (division : Division) (owner : EventId → Bool) (state start : State) : State where
  taskStore := .overlay division.scopes state.taskStore start.taskStore
  pushNotificationStore := .overlay division.scopes state.pushNotificationStore start.pushNotificationStore
  locks := fun key => (state.locks key).filter division.calls
  taskIdToBus := division.registry true state.taskIdToBus
  events := Division.heap owner true state.events
  calls := fun pid => if division.calls pid = true then state.calls pid else none
  writes := state.writes.filter fun write => division.calls write.pid
  publications := state.publications.filter fun published => division.calls published.pid

variable {handler : Handler} {division : Division} {owner : EventId → Bool} {start state next : State}
  {label : Label} {pid : Pid} {call after : Call} {effect : Effect} {effects : List Effect}

/-- Every call is its party's alone, and so is every registered bus. -/
structure Divided (handler : Handler) (division : Division) (owner : EventId → Bool) (state : State) :
    Prop where
  calls : ∀ pid call, state.calls pid = some call →
    call.Belongs division handler (division.calls pid) (Division.heap owner (division.calls pid) state.events)
  buses : ∀ taskId bus, state.taskIdToBus taskId = some bus → division.calls bus = division.tasks taskId

theorem share_calls (own : division.calls pid = true) :
    (state.share division owner start).calls pid = state.calls pid := if_pos own

theorem share_setCall (own : division.calls pid = true) :
    (state.setCall pid call).share division owner start =
      (state.share division owner start).setCall pid call := by
  simp only [share, setCall, mk.injEq, true_and, and_true]
  funext other
  by_cases same : other = pid
  · subst same
    simp [own]
  · simp [Function.update_of_ne same]

theorem share_setCall_other (other : division.calls pid = false) :
    (state.setCall pid call).share division owner start = state.share division owner start := by
  simp only [share, setCall, mk.injEq, true_and, and_true]
  funext name
  by_cases same : name = pid
  · subst same
    simp [other]
  · simp [Function.update_of_ne same]

theorem share_mapCalls (listener : Call → Call) :
    (state.mapCalls listener).share division owner start =
      (state.share division owner start).mapCalls listener := by
  simp only [share, mapCalls, mk.injEq, true_and, and_true]
  funext pid
  split <;> rfl

theorem heap_update {side : Bool} {id : EventId} (own : owner id = side) (event : Option AgentExecutionEvent)
    (events : EventHeap) :
    Division.heap owner side (Function.update events id event) =
      Function.update (Division.heap owner side events) id event := by
  funext other
  by_cases same : other = id
  · subst same
    simp [Division.heap, own]
  · simp [Division.heap, Function.update_of_ne same]

theorem heap_update_other {side : Bool} {id : EventId} (other : owner id ≠ side)
    (event : Option AgentExecutionEvent) (events : EventHeap) :
    Division.heap owner side (Function.update events id event) = Division.heap owner side events := by
  funext name
  by_cases same : name = id
  · subst same
    simp [Division.heap, other]
  · simp [Division.heap, Function.update_of_ne same]

theorem registry_update {taskId : String} (own : division.tasks taskId = true) (bus : Option BusId)
    (taskIdToBus : String → Option BusId) :
    division.registry true (Function.update taskIdToBus taskId bus) =
      Function.update (division.registry true taskIdToBus) taskId bus := by
  funext other
  by_cases same : other = taskId
  · subst same
    simp [Division.registry, own]
  · simp [Division.registry, Function.update_of_ne same]

theorem registry_update_other {taskId : String} (other : division.tasks taskId = false) (bus : Option BusId)
    (taskIdToBus : String → Option BusId) :
    division.registry true (Function.update taskIdToBus taskId bus) =
      division.registry true taskIdToBus := by
  funext name
  by_cases same : name = taskId
  · subst same
    simp [Division.registry, other]
  · simp [Division.registry, Function.update_of_ne same]

/-- What a party's own effect does, it does to the party's part. -/
theorem share_apply (own : division.calls pid = true) (affects : division.Affects owner true effect) :
    (state.apply pid effect).share division owner start =
      (state.share division owner start).apply pid effect := by
  cases effect with
  | saveTask scope task write =>
      simp [share, apply, InMemoryTaskStore.overlay_save affects, own]
  | savePushConfig => simp [share, apply, InMemoryPushNotificationStore.overlay_save affects]
  | deletePushConfig => simp [share, apply, InMemoryPushNotificationStore.overlay_delete affects]
  | acquire key =>
      simp only [share, apply, mk.injEq, true_and, and_true]
      funext other
      by_cases same : other = key
      · subst same
        simp [own]
      · simp [Function.update_of_ne same]
  | release key =>
      simp only [share, apply, mk.injEq, true_and, and_true]
      funext other
      by_cases same : other = key
      · subst same
        simp [List.erase_filter]
      · simp [Function.update_of_ne same]
  | register taskId bus => simp [share, apply, registry_update affects.1]
  | cleanup taskId =>
      have found : (state.share division owner start).taskIdToBus taskId = state.taskIdToBus taskId :=
        if_pos affects
      have unregistered : ({ state with taskIdToBus := Function.update state.taskIdToBus taskId none } :
          State).share division owner start =
          { state.share division owner start with
            taskIdToBus := Function.update (state.share division owner start).taskIdToBus taskId none } := by
        simp [share, registry_update affects]
      simp only [apply, found]
      cases state.taskIdToBus taskId with
      | none => exact unregistered
      | some bus => exact (share_mapCalls _).trans (congrArg (mapCalls · (Call.removeListeners bus)) unregistered)
  | publish bus id event =>
      have heard := @share_mapCalls division owner start state (Call.receive bus id event)
      simp only [apply, ← heard]
      simp [share, mapCalls, heap_update affects.2, own]
  | finished bus => exact share_mapCalls _
  | trim id historyLength =>
      have found : Division.heap owner true state.events id = state.events id := if_pos affects
      simp [share, apply, heap_update affects, found]

/-- No listener of the one party's calls is on a bus of the other's. -/
theorem share_mapCalls_other {bus : BusId} {listener : Call → Call}
    (other : division.calls bus = false) (wellFormed : state.WellFormed)
    (divided : state.Divided handler division owner)
    (elsewhere : ∀ call : Call, call.WellFormed → call.bus ≠ some bus → listener call = call) :
    (state.mapCalls listener).share division owner start = state.share division owner start := by
  simp only [share, mapCalls, mk.injEq, true_and, and_true]
  funext pid
  cases own : division.calls pid with
  | false => rfl
  | true =>
      cases found : state.calls pid with
      | none => rfl
      | some call =>
          have attached : call.bus ≠ some bus := fun same => by
            have mine := (divided.calls pid call found).bus bus same
            rw [own, other] at mine
            cases mine
          simp [elsewhere call (wellFormed pid call found) attached]

/-- What the other party's effect does leaves a party's part as it is. -/
theorem share_apply_other (other : division.calls pid = false)
    (affects : division.Affects owner false effect) (wellFormed : state.WellFormed)
    (divided : state.Divided handler division owner) :
    (state.apply pid effect).share division owner start = state.share division owner start := by
  cases effect with
  | saveTask scope task write =>
      simp [share, apply, InMemoryTaskStore.overlay_save_other affects, other]
  | savePushConfig => simp [share, apply, InMemoryPushNotificationStore.overlay_save_other affects]
  | deletePushConfig => simp [share, apply, InMemoryPushNotificationStore.overlay_delete_other affects]
  | acquire key =>
      simp only [share, apply, mk.injEq, true_and, and_true]
      funext name
      by_cases same : name = key
      · subst same
        simp [other]
      · simp [Function.update_of_ne same]
  | release key =>
      simp only [share, apply, mk.injEq, true_and, and_true]
      funext name
      by_cases same : name = key
      · subst same
        have absent : pid ∉ (state.locks name).filter division.calls := by simp [other]
        simp only [Function.update_self, ← List.erase_filter, List.erase_of_not_mem absent]
      · simp [Function.update_of_ne same]
  | register taskId bus => simp [share, apply, registry_update_other affects.1]
  | cleanup taskId =>
      have unregistered : ({ state with taskIdToBus := Function.update state.taskIdToBus taskId none } :
          State).share division owner start = state.share division owner start := by
        simp [share, registry_update_other affects]
      simp only [apply]
      cases found : state.taskIdToBus taskId with
      | none => exact unregistered
      | some bus =>
          have theirs : division.calls bus = false := (divided.buses taskId bus found).trans affects
          have deaf := @share_mapCalls_other handler division owner start state bus (Call.removeListeners bus)
            theirs wellFormed divided fun call own elsewhere => Call.removeListeners_elsewhere own elsewhere
          exact (share_mapCalls _).trans ((congrArg (mapCalls · (Call.removeListeners bus))
            unregistered).trans ((share_mapCalls _).symm.trans deaf))
  | publish bus id event =>
      have deaf := @share_mapCalls_other handler division owner start state bus _ affects.1 wellFormed divided
        fun call own elsewhere => Call.receive_elsewhere own elsewhere id event
      simp only [apply, ← deaf]
      simp [share, mapCalls, heap_update_other (ne_true_of_eq_false affects.2), other]
  | finished bus =>
      exact share_mapCalls_other affects wellFormed divided
        fun call _ elsewhere => Call.receiveFinished_elsewhere elsewhere
  | trim id historyLength => simp [share, apply, heap_update_other (ne_true_of_eq_false affects)]

theorem heap_grows {events later : EventHeap} {side : Bool} (grows : EventHeap.Grows events later) :
    EventHeap.Grows (Division.heap owner side events) (Division.heap owner side later) := by
  intro id event found
  by_cases own : owner id = side
  · rw [Division.heap, if_pos own] at found ⊢
    exact grows id event found
  · rw [Division.heap, if_neg own] at found
    cases found

/-- The calls of a party know no more than its events, whosever effect they hear. -/
theorem Divided.knows {side : Bool} {other : Pid} (divided : state.Divided handler division owner)
    (affects : division.Affects owner side effect)
    (unknown : ∀ bus id event, effect = .publish bus id event → state.events id = none)
    (found : state.calls other = some call) :
    (effect.listen state.taskIdToBus call).Knows
      (Division.heap owner (division.calls other) (state.apply pid effect).events) := by
  have belongs := divided.calls other call found
  have grown := belongs.knows.grows (heap_grows (@apply_grows state pid effect unknown))
  cases effect with
  | publish bus id event =>
      by_cases own : division.calls other = side
      · have absent : Division.heap owner (division.calls other) state.events id = none := by
          rw [Division.heap, unknown bus id event rfl, ite_self]
        have heard : (call.receive bus id event).Knows
            (Function.update (Division.heap owner (division.calls other) state.events) id (some event)) :=
          Call.receive_knows belongs.knows absent event
        rw [← heap_update (affects.2.trans own.symm)] at heard
        exact heard
      · have elsewhere : call.bus ≠ some bus := fun same =>
          own ((belongs.bus bus same).symm.trans affects.1)
        exact Call.receive_knows_elsewhere elsewhere grown id event
  | finished bus =>
      exact (Call.receiveFinished_overheard bus).knows grown rfl (Call.receiveFinished_queued bus call)
  | cleanup taskId =>
      cases registered : state.taskIdToBus taskId with
      | none => simpa [Effect.listen, registered] using grown
      | some bus =>
          simpa [Effect.listen, registered] using (Call.removeListeners_overheard bus).knows grown rfl
            (Call.removeListeners_queued bus call)
  | _ => exact grown

/-- An effect of the one party keeps the parties apart. -/
theorem apply_divided {side : Bool} (affects : division.Affects owner side effect)
    (unknown : ∀ bus id event, effect = .publish bus id event → state.events id = none)
    (divided : state.Divided handler division owner) :
    (state.apply pid effect).Divided handler division owner where
  calls other record found := by
    rw [apply_calls] at found
    obtain ⟨call, present, rfl⟩ := Option.map_eq_some_iff.mp found
    have belongs := divided.calls other call present
    have overheard := @Call.listen_overheard call state.taskIdToBus effect
    refine ⟨?_, fun taskId joining => belongs.joins taskId (overheard.joins ▸ joining), ?_, ?_,
      divided.knows affects unknown present⟩
    · rw [overheard.context]
      exact belongs.scope
    · intro execution executing
      obtain ⟨earlier, running, same, _⟩ := overheard.executed executing
      rw [← same]
      exact belongs.executing earlier running
    · intro bus attached
      exact belongs.bus bus (overheard.bus ▸ attached)
  buses taskId bus found := by
    cases effect with
    | register name registered =>
        simp only [apply, Function.update_apply] at found
        split at found
        · rename_i same
          cases found
          rw [same, affects.1, affects.2]
        · exact divided.buses taskId bus found
    | cleanup name =>
        have kept : (state.apply pid (.cleanup name)).taskIdToBus =
            Function.update state.taskIdToBus name none := by
          simp only [apply]
          cases state.taskIdToBus name <;> rfl
        rw [kept, Function.update_apply] at found
        split at found
        · cases found
        · exact divided.buses taskId bus found
    | _ => exact divided.buses taskId bus found

end State

end A2A.Server
