import A2A.Server.Scenario
import A2A.Server.Semantics.Buses

namespace A2A.Server

open Library

/-! When a registered bus is the bus of a task that waits for its client.

`_settleBus` is the only place that removes a bus.  A bus is justified as long
as its latest published state is one to wait in, or some call will still come
to `_settleBus` with a tracker that makes it close the bus.
-/

/-- The state that was last published on a bus. -/
def latestState (publications : List Publication) (bus : BusId) : Option TaskState :=
  publications.foldl (fun latest published =>
    if published.bus = bus then published.event.state <|> latest else latest) none

theorem latestState_append (publications : List Publication) (published : Publication) (bus : BusId) :
    latestState (publications ++ [published]) bus =
      if published.bus = bus then published.event.state <|> latestState publications bus
      else latestState publications bus := by
  simp [latestState]

def Handler.keepsAlive (handler : Handler) (state : Option TaskState) : Bool :=
  state.any handler.keepBusAliveStates.contains

/-- The call is about to start an executor on the bus, or runs one whose settlement
closes the bus unless its tracker follows it. -/
def Call.Settles (handler : Handler) (bus : BusId) (call : Call) : Prop :=
  call.bus = some bus ∧
    ((∃ execution, call.execution = some execution ∧ execution.phase.done = false ∧
        (execution.tracker.attached = true ∨
          handler.keepsAlive execution.tracker.lastState = false)) ∨
      call.pc.starting.isSome = true)

/-- What the call does on its bus, it does for the task. -/
def Call.WorksOn (taskId : String) (call : Call) : Prop :=
  (∀ execution, call.execution = some execution → execution.requestContext.taskId = taskId) ∧
    ∀ requestContext, call.pc.starting = some requestContext → requestContext.taskId = taskId

def Phase.reaped : Phase → Bool
  | .settling _ | .settled _ => true
  | .running | .rejected _ => false

namespace State

def Served (handler : Handler) (state : State) (bus : BusId) : Prop :=
  ∃ pid call, state.calls pid = some call ∧ call.Settles handler bus

def ServedByOther (handler : Handler) (state : State) (pid : Pid) (bus : BusId) : Prop :=
  ∃ other call, other ≠ pid ∧ state.calls other = some call ∧ call.Settles handler bus

def Justified (handler : Handler) (state : State) (bus : BusId) : Prop :=
  handler.keepsAlive (latestState state.publications bus) = true ∨ state.Served handler bus

end State

/-- The steps that do not strand a registered bus: a state to close it on is published only
while an execution is left to settle it, and the two ways in which a call can withdraw
from its bus without settling it are taken only if the bus stays justified. -/
def AccountsForBus (handler : Handler) (state : State) (label : Label) : Prop :=
  ∀ call bus taskId, state.calls label.pid = some call → call.bus = some bus →
    state.taskIdToBus taskId = some bus →
    match label.action with
    | .publish _ event =>
        event.state.all handler.keepBusAliveStates.contains = true ∨ state.Served handler bus
    | .resume (.fail _) =>
        call.pc.starting = none ∨ handler.keepsAlive (latestState state.publications bus) = true ∨
          state.ServedByOther handler label.pid bus
    | .executorReaped _ =>
        ∀ execution errorMessage, call.execution = some execution →
          execution.phase = .rejected errorMessage → call.isStream = true →
          handler.keepsAlive execution.tracker.lastState = true →
          state.ServedByOther handler label.pid bus
    | _ => True

/-- `closing` is the task whose bus a settlement is about to remove. -/
structure BusLedger (handler : Handler) (closing : Option String) (state : State) : Prop where
  wellFormed : state.WellFormed
  tasks : ∀ taskId bus pid call, state.taskIdToBus taskId = some bus →
    state.calls pid = some call → call.bus = some bus → call.WorksOn taskId
  distinct : ∀ first second bus, state.taskIdToBus first = some bus →
    state.taskIdToBus second = some bus → first = second
  unused : ∀ bus, (∀ call, state.calls bus = some call → call.bus = none) →
    (∀ taskId, state.taskIdToBus taskId ≠ some bus) ∧
      ∀ pid call, state.calls pid = some call → call.bus ≠ some bus
  tracked : ∀ pid call execution last, state.calls pid = some call →
    call.execution = some execution → execution.tracker.attached = true →
    execution.tracker.lastState = some last →
    latestState state.publications execution.eventBus = some last
  attached : ∀ taskId pid call execution, state.calls pid = some call →
    call.execution = some execution → state.taskIdToBus taskId = some execution.eventBus →
    execution.phase.reaped = false → execution.tracker.attached = true
  justified : ∀ taskId bus, closing ≠ some taskId → state.taskIdToBus taskId = some bus →
    state.Justified handler bus

variable {handler : Handler} {closing : Option String} {state : State} {pid : Pid} {call after : Call} {bus : BusId}
  {taskId : String} {effects : List Effect}

namespace Call

theorem Settles.receive (settles : call.Settles handler bus) (other : BusId) (id : EventId)
    (event : AgentExecutionEvent) : (call.receive other id event).Settles handler bus := by
  obtain ⟨on, ⟨execution, executing, pending, closes⟩ | starting⟩ := settles
  · refine ⟨(receive_overheard other id event).bus.trans on, .inl ?_⟩
    refine ⟨execution.receive other event, by simp [Call.receive, executing], ?_, ?_⟩
    · simp only [Execution.receive]
      split <;> exact pending
    · simp only [Execution.receive]
      split
      · rename_i heard
        exact .inl heard.1
      · exact closes
  · exact ⟨(receive_overheard other id event).bus.trans on, .inr starting⟩

theorem Settles.listen (wellFormed : call.WellFormed) (settles : call.Settles handler bus)
    {taskIdToBus : String → Option BusId} {effect : Effect}
    (spared : ∀ taskId, effect = .cleanup taskId → taskIdToBus taskId ≠ some bus) :
    (effect.listen taskIdToBus call).Settles handler bus := by
  cases effect with
  | publish other id event => exact settles.receive other id event
  | finished other => exact ⟨(receiveFinished_overheard other).bus.trans settles.1, settles.2⟩
  | cleanup taskId =>
      cases registered : taskIdToBus taskId with
      | none => simpa [Effect.listen, registered] using settles
      | some other =>
          have differ : bus ≠ other := fun same => spared taskId rfl (same ▸ registered)
          have on := (call.removeListeners_overheard other).bus.trans settles.1
          have quiet : (call.removeListeners other).execution = call.execution := by
            cases executing : call.execution with
            | none => simp [Call.removeListeners, executing]
            | some execution =>
                have attached := (wellFormed.executes execution executing).2.1
                rw [settles.1, Option.some.injEq] at attached
                simp [Call.removeListeners, executing, Execution.removeListeners, ← attached, differ]
          simp only [Effect.listen, registered]
          refine ⟨on, ?_⟩
          rw [quiet]
          exact settles.2
  | _ => exact settles

end Call

namespace State

theorem Served.apply (wellFormed : state.WellFormed) (served : state.Served handler bus)
    {effect : Effect}
    (spared : ∀ taskId, effect = .cleanup taskId → state.taskIdToBus taskId ≠ some bus) :
    (state.apply pid effect).Served handler bus := by
  obtain ⟨other, call, found, settles⟩ := served
  refine ⟨other, effect.listen state.taskIdToBus call, ?_, settles.listen (wellFormed _ _ found) spared⟩
  rw [apply_calls, found]
  rfl

theorem ServedByOther.setCall (served : state.ServedByOther handler pid bus) :
    (state.setCall pid call).Served handler bus := by
  obtain ⟨other, record, differ, found, settles⟩ := served
  exact ⟨other, record, by rw [setCall_of_ne differ, found], settles⟩

theorem Served.other_or (served : state.Served handler bus) (pid : Pid) :
    state.ServedByOther handler pid bus ∨
      ∃ call, state.calls pid = some call ∧ call.Settles handler bus := by
  obtain ⟨other, record, found, settles⟩ := served
  by_cases same : other = pid
  · subst same
    exact .inr ⟨record, found, settles⟩
  · exact .inl ⟨other, record, same, found, settles⟩

end State

namespace BusLedger

theorem congr {next : State} (ledger : BusLedger handler closing state) (calls : next.calls = state.calls)
    (registry : next.taskIdToBus = state.taskIdToBus)
    (publications : next.publications = state.publications) : BusLedger handler closing next := by
  obtain ⟨wellFormed, tasks, distinct, unused, tracked, attached, justified⟩ := ledger
  simp only [State.WellFormed, State.Justified, State.Served, ← calls, ← registry,
    ← publications] at *
  exact ⟨wellFormed, tasks, distinct, unused, tracked, attached, justified⟩

/-- A new record for the stepping call. -/
theorem setCall {earlier : Option String} (ledger : BusLedger handler earlier state) (wellFormed : after.WellFormed)
    (tasks : ∀ taskId bus, state.taskIdToBus taskId = some bus → after.bus = some bus →
      after.WorksOn taskId)
    (fresh : ∀ bus, bus ≠ pid → (∀ call, state.calls bus = some call → call.bus = none) →
      after.bus ≠ some bus)
    (unattached : after.bus = none → ∀ call, state.calls pid = some call → call.bus = none)
    (tracked : ∀ execution last, after.execution = some execution →
      execution.tracker.attached = true → execution.tracker.lastState = some last →
      latestState state.publications execution.eventBus = some last)
    (attached : ∀ taskId execution, after.execution = some execution →
      state.taskIdToBus taskId = some execution.eventBus → execution.phase.reaped = false →
      execution.tracker.attached = true)
    (justified : ∀ taskId bus, closing ≠ some taskId → state.taskIdToBus taskId = some bus →
      (state.setCall pid after).Justified handler bus) :
    BusLedger handler closing (state.setCall pid after) := by
  have either : ∀ {other record}, (state.setCall pid after).calls other = some record →
      (other = pid ∧ record = after) ∨ (other ≠ pid ∧ state.calls other = some record) := by
    intro other record found
    by_cases same : other = pid
    · subst same
      rw [State.setCall_self, Option.some.injEq] at found
      exact .inl ⟨rfl, found.symm⟩
    · rw [State.setCall_of_ne same] at found
      exact .inr ⟨same, found⟩
  constructor
  case wellFormed =>
    intro other record found
    rcases either found with ⟨_, rfl⟩ | ⟨_, found⟩
    · exact wellFormed
    · exact ledger.wellFormed _ _ found
  case tasks =>
    intro taskId bus other record registered found on
    rcases either found with ⟨_, rfl⟩ | ⟨_, found⟩
    · exact tasks taskId bus registered on
    · exact ledger.tasks taskId bus other record registered found on
  case distinct => exact ledger.distinct
  case unused =>
    intro bus idle
    have before : ∀ call, state.calls bus = some call → call.bus = none := by
      intro call found
      by_cases same : bus = pid
      · subst same
        exact unattached (idle after State.setCall_self) call found
      · exact idle call (by rw [State.setCall_of_ne same, found])
    obtain ⟨unregistered, unjoined⟩ := ledger.unused bus before
    refine ⟨unregistered, fun other record found => ?_⟩
    rcases either found with ⟨_, rfl⟩ | ⟨_, found⟩
    · by_cases same : bus = pid
      · subst same
        rw [idle record State.setCall_self]
        simp
      · exact fresh bus same before
    · exact unjoined other record found
  case tracked =>
    intro other record execution last found
    rcases either found with ⟨_, rfl⟩ | ⟨_, found⟩
    · exact tracked execution last
    · exact ledger.tracked other record execution last found
  case attached =>
    intro taskId other record execution found
    rcases either found with ⟨_, rfl⟩ | ⟨_, found⟩
    · exact attached taskId execution
    · exact ledger.attached taskId other record execution found
  case justified => exact justified

theorem publish (ledger : BusLedger handler closing state) (id : EventId) (event : AgentExecutionEvent)
    (accounted : ∀ taskId, state.taskIdToBus taskId = some bus →
      event.state.all handler.keepBusAliveStates.contains = true ∨ state.Served handler bus) :
    BusLedger handler closing (state.apply pid (.publish bus id event)) := by
  have heard : ∀ {other record}, (state.apply pid (.publish bus id event)).calls other = some record →
      ∃ call, state.calls other = some call ∧ record = call.receive bus id event := by
    intro other record found
    rw [State.apply_calls] at found
    obtain ⟨call, earlier, rfl⟩ := Option.map_eq_some_iff.mp found
    exact ⟨call, earlier, rfl⟩
  have same : ∀ call : Call, call.Overheard (call.receive bus id event) :=
    fun call => call.receive_overheard bus id event
  constructor
  case wellFormed =>
    intro other record found
    obtain ⟨call, earlier, rfl⟩ := heard found
    exact (ledger.wellFormed _ _ earlier).overheard (same call)
  case tasks =>
    intro taskId on other record registered found joined
    obtain ⟨call, earlier, rfl⟩ := heard found
    obtain ⟨executes, starts⟩ :=
      ledger.tasks taskId on other call registered earlier ((same call).bus ▸ joined)
    refine ⟨fun execution executing => ?_, starts⟩
    obtain ⟨before, executed, context, _⟩ := (same call).executed executing
    rw [← context]
    exact executes before executed
  case distinct => exact ledger.distinct
  case unused =>
    intro unusedBus idle
    obtain ⟨unregistered, unjoined⟩ := ledger.unused unusedBus (by
      intro call found
      have := idle (call.receive bus id event) (by rw [State.apply_calls, found]; rfl)
      rwa [(same call).bus] at this)
    refine ⟨unregistered, fun other record found => ?_⟩
    obtain ⟨call, earlier, rfl⟩ := heard found
    rw [(same call).bus]
    exact unjoined other call earlier
  case tracked =>
    intro other record execution last found executing listening recorded
    obtain ⟨call, earlier, rfl⟩ := heard found
    obtain ⟨before, executed, rfl⟩ := Option.map_eq_some_iff.mp executing
    change latestState (state.publications ++ [⟨pid, bus, id, event⟩]) _ = _
    rw [latestState_append, Execution.receive_eventBus]
    have previous := ledger.tracked other call before last earlier executed
    by_cases on : before.tracker.attached = true ∧ before.eventBus = bus
    · simp only [Execution.receive, if_pos on, Tracker.listener] at recorded
      rw [if_pos on.2.symm]
      cases carried : event.state with
      | some new => simpa [carried] using recorded
      | none => simpa [carried] using previous on.1 (by simpa [carried] using recorded)
    · simp only [Execution.receive, if_neg on] at listening recorded
      rw [if_neg (fun same => on ⟨listening, same.symm⟩)]
      exact previous listening recorded
  case attached =>
    intro taskId other record execution found executing registered waiting
    obtain ⟨call, earlier, rfl⟩ := heard found
    obtain ⟨before, executed, rfl⟩ := Option.map_eq_some_iff.mp executing
    rw [Execution.receive_eventBus] at registered
    rw [Execution.receive_phase] at waiting
    have listening := ledger.attached taskId other call before earlier executed registered waiting
    simp only [Execution.receive]
    split <;> exact listening
  case justified =>
    intro taskId other kept registered
    have served : state.Served handler other →
        (state.apply pid (.publish bus id event)).Served handler other :=
      fun served => served.apply ledger.wellFormed (by simp)
    by_cases on : bus = other
    · subst on
      rcases accounted taskId registered with waits | server
      · rcases ledger.justified taskId bus kept registered with kept | server
        · refine .inl ?_
          change handler.keepsAlive (latestState (state.publications ++ [⟨pid, bus, id, event⟩]) bus) = true
          rw [latestState_append]
          cases carried : event.state with
          | none => simpa [carried] using kept
          | some new => simpa [carried, Handler.keepsAlive] using waits
        · exact .inr (served server)
      · exact .inr (served server)
    · rcases ledger.justified taskId other kept registered with kept | server
      · refine .inl ?_
        change handler.keepsAlive
          (latestState (state.publications ++ [⟨pid, bus, id, event⟩]) other) = true
        rwa [latestState_append, if_neg on]
      · exact .inr (served server)

theorem offBus (ledger : BusLedger handler closing state) (pid : Pid)
    (offBus : ∀ effect ∈ effects, effect.offBus = true) :
    BusLedger handler closing (effects.foldl (State.apply pid) state) := by
  have silent : ∀ effect ∈ effects, effect.silent = true :=
    fun effect member => (Effect.offBus_iff.mp (offBus effect member)).1
  have unregistered : ∀ effect ∈ effects, effect.registers = false :=
    fun effect member => (Effect.offBus_iff.mp (offBus effect member)).2
  exact ledger.congr (State.foldl_calls_silent silent) (State.foldl_taskIdToBus unregistered)
    (State.foldl_publications_silent silent)

theorem finished (ledger : BusLedger handler closing state) (pid : Pid) :
    BusLedger handler closing (state.apply pid (.finished bus)) := by
  have heard : ∀ {other record}, (state.apply pid (.finished bus)).calls other = some record →
      ∃ call, state.calls other = some call ∧ record = call.receiveFinished bus := by
    intro other record found
    rw [State.apply_calls] at found
    obtain ⟨call, earlier, rfl⟩ := Option.map_eq_some_iff.mp found
    exact ⟨call, earlier, rfl⟩
  have same : ∀ call : Call, (call.receiveFinished bus).bus = call.bus :=
    fun call => (call.receiveFinished_overheard bus).bus
  constructor
  case wellFormed =>
    intro other record found
    obtain ⟨call, earlier, rfl⟩ := heard found
    exact (ledger.wellFormed _ _ earlier).overheard (call.receiveFinished_overheard bus)
  case tasks =>
    intro taskId on other record registered found joined
    obtain ⟨call, earlier, rfl⟩ := heard found
    exact ledger.tasks taskId on other call registered earlier (same call ▸ joined)
  case distinct => exact ledger.distinct
  case unused =>
    intro unusedBus idle
    obtain ⟨unregistered, unjoined⟩ := ledger.unused unusedBus (by
      intro call found
      have := idle (call.receiveFinished bus) (by rw [State.apply_calls, found]; rfl)
      rwa [same] at this)
    refine ⟨unregistered, fun other record found => ?_⟩
    obtain ⟨call, earlier, rfl⟩ := heard found
    rw [same]
    exact unjoined other call earlier
  case tracked =>
    intro other record execution last found
    obtain ⟨call, earlier, rfl⟩ := heard found
    exact ledger.tracked other call execution last earlier
  case attached =>
    intro taskId other record execution found
    obtain ⟨call, earlier, rfl⟩ := heard found
    exact ledger.attached taskId other call execution earlier
  case justified =>
    intro taskId other remains registered
    rcases ledger.justified taskId other remains registered with kept | served
    · exact .inl kept
    · exact .inr (served.apply ledger.wellFormed (by simp))

/-- Removing a bus from the registry, with the listeners still on it. -/
theorem cleanup (ledger : BusLedger handler (some taskId) state) (pid : Pid) :
    BusLedger handler none (state.apply pid (.cleanup taskId)) := by
  cases registeredBus : state.taskIdToBus taskId with
  | none =>
      have unchanged : state.apply pid (.cleanup taskId) = state := by
        have same : Function.update state.taskIdToBus taskId none = state.taskIdToBus := by
          rw [← registeredBus, Function.update_eq_self]
        simp only [State.apply, registeredBus, same]
      rw [unchanged]
      refine ⟨ledger.wellFormed, ledger.tasks, ledger.distinct, ledger.unused, ledger.tracked,
        ledger.attached, ?_⟩
      intro name bus _ registered
      refine ledger.justified name bus (fun same => ?_) registered
      rw [Option.some.inj same, registered] at registeredBus
      cases registeredBus
  | some bus =>
      have registry : (state.apply pid (.cleanup taskId)).taskIdToBus =
          Function.update state.taskIdToBus taskId none := by
        simp [State.apply, registeredBus, State.mapCalls]
      have published : (state.apply pid (.cleanup taskId)).publications = state.publications := by
        simp [State.apply, registeredBus, State.mapCalls]
      have heard : ∀ {other record},
          (state.apply pid (.cleanup taskId)).calls other = some record →
          ∃ call, state.calls other = some call ∧ record = call.removeListeners bus := by
        intro other record found
        rw [State.apply_calls] at found
        obtain ⟨call, earlier, rfl⟩ := Option.map_eq_some_iff.mp found
        exact ⟨call, earlier, by simp [Effect.listen, registeredBus]⟩
      have same : ∀ call : Call, (call.removeListeners bus).bus = call.bus :=
        fun call => (call.removeListeners_overheard bus).bus
      have kept : ∀ {name on}, (state.apply pid (.cleanup taskId)).taskIdToBus name = some on →
          name ≠ taskId ∧ state.taskIdToBus name = some on ∧ on ≠ bus := by
        intro name on registered
        rw [registry] at registered
        by_cases differ : name = taskId
        · subst differ
          simp at registered
        · rw [Function.update_of_ne differ] at registered
          exact ⟨differ, registered, fun equal =>
            differ (ledger.distinct name taskId bus (equal ▸ registered) registeredBus)⟩
      constructor
      case wellFormed =>
        intro other record found
        obtain ⟨call, earlier, rfl⟩ := heard found
        exact (ledger.wellFormed _ _ earlier).overheard (call.removeListeners_overheard bus)
      case tasks =>
        intro name on other record registered found joined
        obtain ⟨call, earlier, rfl⟩ := heard found
        obtain ⟨executes, starts⟩ :=
          ledger.tasks name on other call (kept registered).2.1 earlier (same call ▸ joined)
        refine ⟨fun execution executing => ?_, starts⟩
        obtain ⟨before, executed, context, _⟩ :=
          (call.removeListeners_overheard bus).executed executing
        rw [← context]
        exact executes before executed
      case distinct =>
        intro first second on one two
        exact ledger.distinct first second on (kept one).2.1 (kept two).2.1
      case unused =>
        intro unusedBus idle
        obtain ⟨unregistered, unjoined⟩ := ledger.unused unusedBus (by
          intro call found
          have := idle (call.removeListeners bus)
            (by rw [State.apply_calls, found]; simp [Effect.listen, registeredBus])
          rwa [same] at this)
        refine ⟨fun name registered => unregistered name (kept registered).2.1, ?_⟩
        intro other record found
        obtain ⟨call, earlier, rfl⟩ := heard found
        rw [same]
        exact unjoined other call earlier
      case tracked =>
        intro other record execution last found executing listening recorded
        obtain ⟨call, earlier, rfl⟩ := heard found
        obtain ⟨before, executed, rfl⟩ := Option.map_eq_some_iff.mp executing
        rw [published]
        simp only [Execution.removeListeners] at listening recorded ⊢
        split at listening
        · simp [Tracker.detach] at listening
        · rename_i off
          simp only [if_neg off] at recorded ⊢
          exact ledger.tracked other call before last earlier executed listening recorded
      case attached =>
        intro name other record execution found executing registered waiting
        obtain ⟨call, earlier, rfl⟩ := heard found
        obtain ⟨before, executed, rfl⟩ := Option.map_eq_some_iff.mp executing
        obtain ⟨_, stillRegistered, differ⟩ := kept registered
        by_cases on : before.eventBus = bus
        · simp [Execution.removeListeners, on] at differ
        · simp only [Execution.removeListeners, if_neg on] at stillRegistered waiting ⊢
          exact ledger.attached name other call before earlier executed stillRegistered waiting
      case justified =>
        intro name on _ registered
        obtain ⟨differ, stillRegistered, other⟩ := kept registered
        rcases ledger.justified name on (by simpa using differ.symm) stillRegistered with waits | served
        · exact .inl (by rwa [published])
        · refine .inr (served.apply ledger.wellFormed ?_)
          rintro cleaned equal
          cases equal
          rw [registeredBus]
          simpa using fun equal => other equal.symm

/-- Registering the bus that the stepping call has just created and joined. -/
theorem register (ledger : BusLedger handler closing state) (pid : Pid)
    (free : ∀ name, state.taskIdToBus name ≠ some bus)
    (works : ∀ pid call, state.calls pid = some call → call.bus = some bus → call.WorksOn taskId ∧
      ∀ execution, call.execution = some execution → execution.tracker.attached = true)
    (joined : ∃ call, state.calls bus = some call ∧ call.bus.isSome = true)
    (served : state.Served handler bus) :
    BusLedger handler closing (state.apply pid (.register taskId bus)) := by
  have registry : ∀ {name on}, (state.apply pid (.register taskId bus)).taskIdToBus name = some on →
      (name = taskId ∧ on = bus) ∨ (state.taskIdToBus name = some on ∧ on ≠ bus) := by
    intro name on registered
    simp only [State.apply] at registered
    by_cases same : name = taskId
    · subst same
      rw [Function.update_self, Option.some.injEq] at registered
      exact .inl ⟨rfl, registered.symm⟩
    · rw [Function.update_of_ne same] at registered
      exact .inr ⟨registered, fun equal => free name (equal ▸ registered)⟩
  constructor
  case wellFormed => exact ledger.wellFormed
  case tasks =>
    intro name on pid call registered found on'
    rcases registry registered with ⟨rfl, rfl⟩ | ⟨earlier, _⟩
    · exact (works pid call found on').1
    · exact ledger.tasks name on pid call earlier found on'
  case distinct =>
    intro first second on one two
    rcases registry one with ⟨rfl, rfl⟩ | ⟨earlier, differ⟩ <;>
      rcases registry two with ⟨rfl, same⟩ | ⟨other, unequal⟩
    · rfl
    · exact absurd rfl unequal
    · exact absurd same differ
    · exact ledger.distinct first second on earlier other
  case unused =>
    intro unusedBus idle
    obtain ⟨unregistered, unjoined⟩ := ledger.unused unusedBus idle
    refine ⟨fun name registered => ?_, unjoined⟩
    rcases registry registered with ⟨_, rfl⟩ | ⟨earlier, _⟩
    · obtain ⟨call, found, on⟩ := joined
      simp [idle call found] at on
    · exact unregistered name earlier
  case tracked => exact ledger.tracked
  case attached =>
    intro name pid call execution found executing registered waiting
    rcases registry registered with ⟨_, on⟩ | ⟨earlier, _⟩
    · have joinedBus := (ledger.wellFormed _ _ found).executes execution executing
      exact (works pid call found (joinedBus.2.1.trans (congrArg some on))).2 execution executing
    · exact ledger.attached name pid call execution found executing earlier waiting
  case justified =>
    intro name on remains registered
    rcases registry registered with ⟨_, rfl⟩ | ⟨earlier, _⟩
    · exact .inr served
    · exact ledger.justified name on remains earlier

/-- A step that leaves the call's execution and bus alone. -/
theorem unchanged (ledger : BusLedger handler none state) (found : state.calls pid = some call)
    (wellFormed : after.WellFormed) (execution : after.execution = call.execution)
    (bus : after.bus = call.bus) (starting : after.pc.starting = none ∨ call.bus = none)
    (stays : ∀ taskId bus, state.taskIdToBus taskId = some bus → call.bus = some bus →
      call.pc.starting.isSome = true →
      handler.keepsAlive (latestState state.publications bus) = true ∨
        state.ServedByOther handler pid bus) :
    BusLedger handler none (state.setCall pid after) := by
  refine ledger.setCall wellFormed ?_ ?_ ?_ ?_ ?_ ?_
  · intro taskId on registered joined
    obtain ⟨executes, _⟩ := ledger.tasks taskId on pid call registered found (bus ▸ joined)
    refine ⟨fun record executing => executes record (execution ▸ executing), ?_⟩
    intro requestContext prepares
    rcases starting with idle | unattached
    · simp [idle] at prepares
    · simp [bus, unattached] at joined
  · intro other _ idle
    rw [bus]
    exact (ledger.unused other idle).2 pid call found
  · intro unattached record found'
    cases found.symm.trans found'
    exact bus ▸ unattached
  · intro record last executing
    exact ledger.tracked pid call record last found (execution ▸ executing)
  · intro taskId record executing
    exact ledger.attached taskId pid call record found (execution ▸ executing)
  · intro taskId on _ registered
    rcases ledger.justified taskId on nofun registered with kept | served
    · exact .inl kept
    · rcases served.other_or pid with other | ⟨record, same, joined, settles⟩
      · exact .inr other.setCall
      · cases found.symm.trans same
        rcases settles with running | prepares
        · exact .inr ⟨pid, after, State.setCall_self, bus.trans joined, .inl (execution ▸ running)⟩
        · rcases stays taskId on registered joined prepares with kept | other
          · exact .inl kept
          · exact .inr other.setCall

/-- A new phase or a detached tracker for the call's own execution. -/
theorem rephased {execution : Execution} (ledger : BusLedger handler none state) (changed : Execution)
    (found : state.calls pid = some call) (executing : call.execution = some execution)
    (context : changed.requestContext = execution.requestContext)
    (sameBus : changed.eventBus = execution.eventBus)
    (tracker : changed.tracker = execution.tracker ∨ changed.tracker = execution.tracker.detach)
    (attached : changed.phase.reaped = false →
      execution.phase.reaped = false ∧ changed.tracker = execution.tracker)
    (settles : ∀ taskId, closing ≠ some taskId → state.taskIdToBus taskId = some execution.eventBus →
      (changed.phase.done = false ∧ (changed.tracker.attached = true ∨
        handler.keepsAlive changed.tracker.lastState = false)) ∨
      handler.keepsAlive (latestState state.publications execution.eventBus) = true ∨
      state.ServedByOther handler pid execution.eventBus) :
    BusLedger handler closing (state.setCall pid { call with execution := some changed }) := by
  have wellFormed := ledger.wellFormed pid call found
  have joined := (wellFormed.executes execution executing).2.1
  refine ledger.setCall ?_ ?_ ?_ ?_ ?_ ?_ ?_
  · obtain ⟨sends, _, started⟩ := wellFormed.executes execution executing
    refine ⟨wellFormed.unattached, wellFormed.starts, wellFormed.starting, ?_, wellFormed.listening,
      wellFormed.detached, wellFormed.answered, wellFormed.reporting, wellFormed.returned,
      wellFormed.merging⟩
    intro record same
    cases same
    exact ⟨sends, by rw [sameBus]; exact joined, started⟩
  · intro taskId on registered here
    obtain ⟨executes, starts⟩ := ledger.tasks taskId on pid call registered found here
    refine ⟨?_, starts⟩
    intro record same
    cases same
    rw [context]
    exact executes execution executing
  · intro other _ idle
    exact (ledger.unused other idle).2 pid call found
  · intro unattached record found'
    cases found.symm.trans found'
    exact unattached
  · intro record last same listening recorded
    cases same
    rw [sameBus]
    rcases tracker with kept | detached
    · rw [kept] at listening recorded
      exact ledger.tracked pid call execution last found executing listening recorded
    · simp [detached, Tracker.detach] at listening
  · intro taskId record same registered waiting
    cases same
    obtain ⟨earlier, kept⟩ := attached waiting
    rw [kept]
    exact ledger.attached taskId pid call execution found executing (sameBus ▸ registered) earlier
  · intro taskId on remains registered
    by_cases here : on = execution.eventBus
    · subst here
      rcases settles taskId remains registered with closes | kept | other
      · exact .inr ⟨pid, _, State.setCall_self, joined, .inl ⟨changed, rfl, closes⟩⟩
      · exact .inl kept
      · exact .inr other.setCall
    · rcases ledger.justified taskId on nofun registered with kept | served
      · exact .inl kept
      · rcases served.other_or pid with other | ⟨record, same, there, _⟩
        · exact .inr other.setCall
        · cases found.symm.trans same
          rw [joined, Option.some.injEq] at there
          exact absurd there.symm here

/-- Publishing the events of a failed execution keeps the bus served. -/
theorem publishAll (execution : Execution) (events : List (EventId × AgentExecutionEvent))
    (ledger : BusLedger handler none state)
    (served : ∀ taskId, state.taskIdToBus taskId = some execution.eventBus →
      state.Served handler execution.eventBus) :
    BusLedger handler none ((execution.publishAll events).foldl (State.apply pid) state) := by
  induction events generalizing state with
  | nil => exact ledger
  | cons entry rest ih =>
      refine ih (ledger.publish entry.1 entry.2 fun taskId registered =>
        .inr (served taskId registered)) ?_
      intro taskId registered
      exact (served taskId registered).apply ledger.wellFormed (by simp)

theorem begun (ledger : BusLedger handler none state) (new : state.calls pid = none)
    (wellFormed : after.WellFormed) (idle : after.execution = none) (unstarted : after.pc.starting = none)
    (joined : after.bus = none ∨ ∃ taskId bus, state.taskIdToBus taskId = some bus ∧ after.bus = some bus) :
    BusLedger handler none (state.setCall pid after) := by
  refine ledger.setCall wellFormed ?_ ?_ ?_ ?_ ?_ ?_
  · intro taskId on _ _
    exact ⟨by simp [idle], by simp [unstarted]⟩
  · intro other _ free on
    rcases joined with none | ⟨taskId, bus, registered, same⟩
    · simp [none] at on
    · rw [same, Option.some.injEq] at on
      exact (ledger.unused other free).1 taskId (on ▸ registered)
  · simp [new]
  · simp [idle]
  · simp [idle]
  · intro taskId on _ registered
    rcases ledger.justified taskId on nofun registered with kept | served
    · exact .inl kept
    · rcases served.other_or pid with other | ⟨record, same, _⟩
      · exact .inr other.setCall
      · simp [new] at same

/-- Starting an executor, or preparing to, on the bus that the call has joined. -/
theorem joins {view : View} {requestContext : RequestContext} {saved joinEffects : List Effect}
    (ledger : BusLedger handler none state) (found : state.calls pid = some call)
    (registry : view.eventBus = state.taskIdToBus) (unattached : call.bus = none)
    (joined : Call.Joined view pid requestContext.taskId bus joinEffects)
    (quiet : ∀ effect ∈ saved, effect.offBus = true) (wellFormed : after.WellFormed) (on : after.bus = some bus)
    (settles : after.Settles handler bus) (works : after.WorksOn requestContext.taskId)
    (tracker : ∀ execution, after.execution = some execution →
      execution.tracker.attached = true ∧ execution.tracker.lastState = none) :
    BusLedger handler none (state.commit pid (after, saved ++ joinEffects)) := by
  have unused := ledger.unused pid (by
    intro record same
    cases found.symm.trans same
    exact unattached)
  have set : (∀ taskId, state.taskIdToBus taskId = some bus → taskId = requestContext.taskId) →
      (bus = pid ∨ ∃ taskId, state.taskIdToBus taskId = some bus) →
      BusLedger handler none (state.setCall pid after) := by
    intro own known
    refine ledger.setCall wellFormed ?_ ?_ (by simp [on]) ?_ ?_ ?_
    · intro taskId there registered here
      rw [on, Option.some.injEq] at here
      rw [own taskId (here ▸ registered)]
      exact works
    · intro other differ free here
      rw [on, Option.some.injEq] at here
      subst here
      rcases known with same | ⟨taskId, registered⟩
      · exact differ same
      · exact (ledger.unused bus free).1 taskId registered
    · intro execution last executing _ recorded
      simp [(tracker execution executing).2] at recorded
    · intro taskId execution executing _ _
      exact (tracker execution executing).1
    · intro taskId there _ registered
      rcases ledger.justified taskId there nofun registered with kept | served
      · exact .inl kept
      · rcases served.other_or pid with other | ⟨record, same, here, _⟩
        · exact .inr other.setCall
        · cases found.symm.trans same
          simp [unattached] at here
  rw [State.commit, List.foldl_append]
  cases joined with
  | existing registered =>
      rw [registry] at registered
      exact (set (fun taskId there => ledger.distinct _ _ _ there registered)
        (.inr ⟨_, registered⟩)).offBus pid quiet
  | created =>
      have calls : (saved.foldl (State.apply pid) (state.setCall pid after)).calls =
          (state.setCall pid after).calls :=
        State.foldl_calls_silent fun effect member => (Effect.offBus_iff.mp (quiet effect member)).1
      have registered : (saved.foldl (State.apply pid) (state.setCall pid after)).taskIdToBus =
          state.taskIdToBus :=
        State.foldl_taskIdToBus fun effect member => (Effect.offBus_iff.mp (quiet effect member)).2
      have own : (saved.foldl (State.apply pid) (state.setCall pid after)).calls pid = some after := by
        rw [calls, State.setCall_self]
      have middle := (set (fun taskId there => absurd there (unused.1 taskId)) (.inl rfl)).offBus
        pid quiet
      refine middle.register pid (by simpa only [registered] using unused.1) ?_
        ⟨after, own, by simp [on]⟩ ⟨pid, after, own, settles⟩
      intro other record found' here
      rw [calls] at found'
      by_cases same : other = pid
      · subst same
        rw [State.setCall_self, Option.some.injEq] at found'
        subst found'
        exact ⟨works, fun execution executing => (tracker execution executing).1⟩
      · rw [State.setCall_of_ne same] at found'
        exact absurd here (unused.2 other record found')

theorem resumed {fate : Fate} {scope : Scope} (ledger : BusLedger handler none state)
    (accounted : AccountsForBus handler state ⟨pid, .resume fate⟩)
    (found : state.calls pid = some call)
    (resumed : call.resume handler (state.view pid scope) pid fate = some (after, effects)) :
    BusLedger handler none (state.commit pid (after, effects)) := by
  have resumedTo := Call.resume_cases resumed
  have wellFormed := (ledger.wellFormed pid call found).resumed resumedTo
  cases resumedTo.busUse (ledger.wellFormed pid call found) with
  | unchanged execution sameBus starting quiet =>
      refine (ledger.unchanged found wellFormed execution sameBus starting ?_).offBus pid quiet
      intro taskId on registered joined prepares
      cases fate with
      | ok =>
          obtain ⟨requestContext, prepared⟩ := Option.isSome_iff_exists.mp prepares
          have started := resumedTo.startsPrepared prepared
          rw [execution] at started
          obtain ⟨running, executing⟩ := Option.isSome_iff_exists.mp started
          have := (ledger.wellFormed pid call found).unstarted executing
          simp [this] at prepares
      | fail error =>
          rcases accounted call on taskId found joined registered with idle | stays
          · simp [idle] at prepares
          · exact stays
  | attached loading registered execution joined unstarted =>
      have unattached : call.bus = none := Call.bus_eq_none
        ((ledger.wellFormed pid call found).unattached (by simp [loading, Pc.unattached]))
      have idle : call.execution = none := by
        cases executing : call.execution with
        | none => rfl
        | some running =>
            have := ((ledger.wellFormed pid call found).executes running executing).2.1
            simp [unattached] at this
      refine ledger.setCall wellFormed ?_ ?_ (by simp [joined]) ?_ ?_ ?_
      · intro taskId on _ _
        exact ⟨by simp [execution, idle], by simp [unstarted]⟩
      · intro other _ free on
        rw [joined, Option.some.injEq] at on
        exact (ledger.unused other free).1 _ (on ▸ registered)
      · simp [execution, idle]
      · simp [execution, idle]
      · intro taskId on _ there
        rcases ledger.justified taskId on (by simp) there with kept | served
        · exact .inl kept
        · rcases served.other_or pid with other | ⟨record, same, here, _⟩
          · exact .inr other.setCall
          · cases found.symm.trans same
            simp [unattached] at here
  | prepared unattached idle joined execution on prepares =>
      refine @joins _ _ _ _ _ _ _ _ [] _ ledger found rfl unattached joined (by simp) wellFormed on
        ⟨on, .inr (by simp [prepares])⟩ ?_ (by simp [execution])
      refine ⟨by simp [execution], ?_⟩
      intro other same
      cases prepares.symm.trans same
      rfl
  | started unattached idle joined quiet execution on unstarted =>
      refine ledger.joins found rfl unattached joined quiet wellFormed on
        ⟨on, .inl ⟨_, execution, rfl, .inl rfl⟩⟩ ⟨?_, by simp [unstarted]⟩ ?_
      · rintro running same
        cases execution.symm.trans same
        rfl
      · rintro running same
        cases execution.symm.trans same
        exact ⟨rfl, rfl⟩
  | startedPrepared prepared joined idle quiet execution on unstarted =>
      refine BusLedger.offBus ?_ pid quiet
      refine ledger.setCall wellFormed ?_ ?_ (by simp [on]) ?_ ?_ ?_
      · intro taskId there registered here
        rw [on, Option.some.injEq] at here
        subst here
        refine ⟨?_, by simp [unstarted]⟩
        rintro running same
        cases execution.symm.trans same
        exact (ledger.tasks taskId _ pid call registered found joined).2 _ prepared
      · intro other _ free here
        rw [on, Option.some.injEq] at here
        subst here
        exact (ledger.unused _ free).2 pid call found joined
      · rintro running last same _ recorded
        cases execution.symm.trans same
        simp [Tracker.new] at recorded
      · rintro taskId running same _ _
        cases execution.symm.trans same
        rfl
      · intro taskId there _ registered
        rcases ledger.justified taskId there (by simp) registered with kept | served
        · exact .inl kept
        · rcases served.other_or pid with other | ⟨record, same, here, _⟩
          · exact .inr other.setCall
          · cases found.symm.trans same
            exact .inr ⟨pid, after, State.setCall_self,
              on.trans (joined.symm.trans here), .inl ⟨_, execution, rfl, .inl rfl⟩⟩

theorem reaped {execution changed : Execution} {task : Option Task} {fresh : FailureFresh}
    (ledger : BusLedger handler none state)
    (accounted : AccountsForBus handler state ⟨pid, .executorReaped fresh⟩)
    (found : state.calls pid = some call) (executing : call.execution = some execution)
    (reaped : execution.Reaped handler.keepBusAliveStates call.isStream task fresh changed effects) :
    BusLedger handler none (state.commit pid ({ call with execution := some changed }, effects)) := by
  have joined := ((ledger.wellFormed pid call found).executes execution executing).2.1
  cases reaped with
  | failed rejected plain =>
      have listening : ∀ taskId, state.taskIdToBus taskId = some execution.eventBus →
          execution.tracker.attached = true := fun taskId registered =>
        ledger.attached taskId pid call execution found executing registered (by simp [rejected, Phase.reaped])
      refine (ledger.rephased { execution with phase := .settling true } found executing rfl rfl
        (.inl rfl) (by simp [Phase.reaped]) ?_).publishAll execution _ ?_
      · exact fun taskId _ registered => .inl ⟨rfl, .inl (listening taskId registered)⟩
      · exact fun taskId registered => ⟨pid, _, State.setCall_self, joined,
          .inl ⟨_, rfl, rfl, .inl (listening taskId registered)⟩⟩
  | @streamFailed errorMessage rejected streams =>
      have closes : ∀ taskId, state.taskIdToBus taskId = some execution.eventBus →
          handler.keepsAlive execution.tracker.lastState = false ∨
            state.ServedByOther handler pid execution.eventBus := by
        intro taskId registered
        cases kept : handler.keepsAlive execution.tracker.lastState with
        | false => exact .inl rfl
        | true => exact .inr (accounted call _ taskId found joined registered execution errorMessage
            executing rejected streams kept)
      refine (ledger.rephased
        { execution with tracker := execution.tracker.detach, phase := .settling true } found
        executing rfl rfl (.inr rfl) (by simp [Phase.reaped]) ?_).publishAll execution _ ?_
      · intro taskId _ registered
        rcases closes taskId registered with closes | other
        · exact .inl ⟨rfl, .inr closes⟩
        · exact .inr (.inr other)
      · intro taskId registered
        rcases closes taskId registered with closes | other
        · exact ⟨pid, _, State.setCall_self, joined, .inl ⟨_, rfl, rfl, .inr closes⟩⟩
        · exact other.setCall
  | @keptAlive failed settling kept =>
      refine ledger.rephased
        { execution with tracker := execution.tracker.detach, phase := .settled failed } found
        executing rfl rfl (.inr rfl) (by simp [Phase.reaped]) ?_
      intro taskId _ registered
      rcases ledger.justified taskId _ nofun registered with waits | served
      · exact .inr (.inl waits)
      · rcases served.other_or pid with other | ⟨record, same, _, settles⟩
        · exact .inr (.inr other)
        · cases found.symm.trans same
          rcases settles with ⟨running, same, _, listening | closes⟩ | starting
          · cases executing.symm.trans same
            cases recorded : execution.tracker.lastState with
            | none => simp [recorded] at kept
            | some last =>
                have latest := ledger.tracked pid call execution last found executing listening recorded
                exact .inr (.inl (by rw [latest, ← recorded]; exact kept))
          · cases executing.symm.trans same
            simp [Handler.keepsAlive, kept] at closes
          · simp [(ledger.wellFormed pid call found).unstarted executing] at starting
  | @closed failed settling closes =>
      have settled := @rephased handler (some execution.requestContext.taskId) state pid call execution
        ledger { execution with tracker := execution.tracker.detach, phase := .settled failed } found
        executing rfl rfl (.inr rfl) (by simp [Phase.reaped]) (fun taskId remains registered =>
          absurd (congrArg some ((ledger.tasks taskId _ pid call registered found joined).1
            execution executing)) remains)
      exact (settled.finished pid).cleanup pid

/-- Every accounted step keeps every registered bus justified. -/
theorem step {label : Label} {next : State} (ledger : BusLedger handler none state)
    (accounted : AccountsForBus handler state label)
    (stepped : state.step handler label = some next) : BusLedger handler none next := by
  obtain ⟨after, effects, steppedTo, rfl⟩ := step_cases stepped
  have wellFormed := State.stepped_wellFormed ledger.wellFormed steppedTo
  cases steppedTo with
  | @begun pid request context requestedExtensions fresh new =>
      obtain ⟨idle, unstarted, joined⟩ := @Call.begin_bus handler
        (state.view pid (handler.scope context)) request context requestedExtensions fresh
      exact ledger.begun new wellFormed idle unstarted joined
  | resumed found resumed => exact ledger.resumed accounted found resumed
  | @published pid _ bus id event found publishes unknown =>
      have joined := (ledger.wellFormed pid after found).executorBus publishes
      change BusLedger handler none ((state.setCall pid after).apply pid (.publish bus id event))
      rw [State.setCall_eq_self found]
      exact ledger.publish id event fun taskId registered =>
        accounted after bus taskId found joined registered
  | @finishedBus pid _ bus found publishes =>
      change BusLedger handler none ((state.setCall pid after).apply pid (.finished bus))
      rw [State.setCall_eq_self found]
      exact ledger.finished pid
  | @executorReturned pid call execution found executing running =>
      refine ledger.rephased _ found executing rfl rfl (.inl rfl) (by simp [Phase.reaped]) ?_
      exact fun taskId _ registered => .inl ⟨rfl, .inl
        (ledger.attached taskId pid call execution found executing registered
          (by simp [running, Phase.reaped]))⟩
  | @executorThrew pid call execution errorMessage found executing running =>
      refine ledger.rephased _ found executing rfl rfl (.inl rfl)
        (by simp [running, Phase.reaped]) ?_
      exact fun taskId _ registered => .inl ⟨rfl, .inl
        (ledger.attached taskId pid call execution found executing registered
          (by simp [running, Phase.reaped]))⟩
  | reaped found executing _ _ _ reaped =>
      exact ledger.reaped accounted found executing (Execution.reap_cases reaped)
  | @abandoned pid call _ found abandoned =>
      obtain ⟨last, suspended, rfl⟩ := Call.abandon_cases abandoned
      have frame : Call.Frame call (call.stopQueue.finish .done) :=
        Call.stopQueue_frame.trans (Call.finish_frame _)
      refine ledger.unchanged found wellFormed frame.execution frame.eventBus (.inl rfl) ?_
      intro taskId on _ _ starting
      simp [suspended, Pc.starting] at starting

end BusLedger

theorem busLedger_initial (taskStore : InMemoryTaskStore)
    (pushNotificationStore : InMemoryPushNotificationStore) :
    BusLedger handler none (.initial taskStore pushNotificationStore (fun _ => none)) := by
  refine ⟨State.wellFormed_initial _ _ _, ?_, ?_, ?_, ?_, ?_, ?_⟩ <;> simp [State.initial]

/-- In a quiescent state no call is left to settle a bus. -/
theorem State.Quiescent.unserved (quiescent : state.Quiescent) : ¬ state.Served handler bus := by
  rintro ⟨pid, call, found, on, ⟨execution, executing, pending, _⟩ | starting⟩
  · have done := (quiescent pid call found).2
    simp [Call.executorDone, executing, pending] at done
  · have idle := (quiescent pid call found).1
    cases counter : call.pc <;> simp_all [Pc.starting, Call.idle]

/-- No leaked bus: a bus that is registered when everything has come to rest is the bus of
a task that waits in one of the configured states. -/
theorem registered_bus_keptAlive {taskStore : InMemoryTaskStore}
    {pushNotificationStore : InMemoryPushNotificationStore} {labels : List Label}
    (runs : (handlerSystem handler).Runs (AccountsForBus handler)
      (.initial taskStore pushNotificationStore (fun _ => none)) labels state)
    (quiescent : state.Quiescent) (registered : state.taskIdToBus taskId = some bus) :
    handler.keepsAlive (latestState state.publications bus) = true := by
  have ledger : BusLedger handler none state :=
    runs.invariant _ (busLedger_initial taskStore pushNotificationStore)
      fun ledger accounted stepped => ledger.step accounted stepped
  rcases ledger.justified taskId bus nofun registered with kept | served
  · exact kept
  · exact absurd served quiescent.unserved

section

open Scenario

/-- A check that implies `AccountsForBus` for calls that do not stream. -/
def accountsForBus (handler : Handler) (state : State) (label : Label) : Bool :=
  match label.action with
  | .publish _ event => event.state.all handler.keepBusAliveStates.contains
  | .resume (.fail _) => false
  | .executorReaped _ => (state.calls label.pid).all (fun call => !call.isStream)
  | _ => true

theorem accountsForBus_sound (state : State) (label : Label) (_ : True)
    (passed : accountsForBus handler state label = true) : AccountsForBus handler state label := by
  intro call bus taskId found joined registered
  obtain ⟨pid, action⟩ := label
  cases action with
  | publish id event => exact .inl passed
  | resume fate => cases fate <;> simp_all [accountsForBus]
  | executorReaped fresh =>
      intro execution errorMessage _ _ streams
      simp [accountsForBus, show state.calls pid = some call from found, streams] at passed
  | _ => trivial

/-- A blocking request whose agent asks for input. -/
def waitingSchedule : List Label :=
  [calls 0 (.sendMessage (params (message "m" "") false)) (context "tenant" "user") "T"] ++
    resumes 0 1 ++
    [publishes 0 0 (taskEvent "T" .inputRequired), publishes 0 1 (statusEvent "T" .inputRequired),
      returns 0, reaps 0 2 3] ++
    resumes 0 8

theorem registered_bus_keptAlive_waiting :
    ∃ state, (handlerSystem (server false)).Runs (AccountsForBus (server false)) (seeded ⟨"", ""⟩ [])
        waitingSchedule state ∧
      state.Quiescent ∧ state.taskIdToBus "T" = some 0 ∧
      (server false).keepsAlive (latestState state.publications 0) = true := by
  obtain ⟨state, ran, facts⟩ : ∃ state,
      (handlerSystem (server false)).checkedRun (accountsForBus (server false)) (seeded ⟨"", ""⟩ [])
        waitingSchedule = some state ∧
      (settled (waitingSchedule.map Label.pid) state, state.taskIdToBus "T") = (true, some 0) :=
    Option.map_eq_some_iff.mp (by decide)
  simp only [Prod.mk.injEq] at facts
  have runs := System.runs_of_checkedRun accountsForBus_sound (fun _ _ _ => trivial) trivial ran
  have quiescent := quiescent_of_settled runs rfl facts.1
  exact ⟨state, runs, quiescent, facts.2, registered_bus_keptAlive runs quiescent facts.2⟩

/-- A streaming request whose push configuration cannot be saved. -/
def leakingSchedule : List Label :=
  [calls 0 (.sendMessageStream (withPushConfig (params (message "m" "") false) "hook"))
      (context "tenant" "user") "T"] ++
    resumes 0 1 ++ [fails 0]

/-- The bus is created before the save and nothing removes it afterwards. -/
theorem failed_push_config_leaks_bus :
    ∃ state, (handlerSystem (server true)).run (seeded ⟨"", ""⟩ []) leakingSchedule = some state ∧
      state.Quiescent ∧ state.taskIdToBus "T" = some 0 ∧
      (server true).keepsAlive (latestState state.publications 0) = false := by
  obtain ⟨state, ran, facts⟩ : ∃ state,
      (handlerSystem (server true)).run (seeded ⟨"", ""⟩ []) leakingSchedule = some state ∧
      (settled (leakingSchedule.map Label.pid) state, state.taskIdToBus "T",
        (server true).keepsAlive (latestState state.publications 0)) = (true, some 0, false) :=
    Option.map_eq_some_iff.mp (by decide)
  simp only [Prod.mk.injEq] at facts
  have runs := System.reaches_of_run ran
  exact ⟨state, ran, quiescent_of_settled runs rfl facts.1, facts.2⟩

end

end A2A.Server
