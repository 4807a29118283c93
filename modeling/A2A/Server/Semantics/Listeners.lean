import A2A.Server.Semantics.Shape

namespace A2A.Server

/-! What the bus listeners change in a call's record: its queue's buffer and
flags, and its execution's tracker.  Everything else is as it was. -/

/-- An execution without its tracker. -/
def Execution.core (execution : Execution) : RequestContext × BusId × Phase :=
  (execution.requestContext, execution.eventBus, execution.phase)

namespace Execution

@[simp] theorem receive_core (bus : BusId) (event : AgentExecutionEvent) (execution : Execution) :
    (execution.receive bus event).core = execution.core := by
  simp only [receive]
  split <;> rfl

@[simp] theorem receive_eventBus (bus : BusId) (event : AgentExecutionEvent) (execution : Execution) :
    (execution.receive bus event).eventBus = execution.eventBus := by
  simp only [receive]
  split <;> rfl

@[simp] theorem receive_phase (bus : BusId) (event : AgentExecutionEvent) (execution : Execution) :
    (execution.receive bus event).phase = execution.phase := by
  simp only [receive]
  split <;> rfl

@[simp] theorem removeListeners_core (bus : BusId) (execution : Execution) :
    (execution.removeListeners bus).core = execution.core := by
  simp only [removeListeners]
  split <;> rfl

end Execution

namespace Queue

variable {queue : Queue} {bus : BusId}

@[simp] theorem handleEvent_eventBus (id : EventId) :
    (queue.handleEvent bus id).eventBus = queue.eventBus := by
  simp only [handleEvent]
  split <;> rfl

@[simp] theorem handleFinished_eventBus : (queue.handleFinished bus).eventBus = queue.eventBus := by
  simp only [handleFinished]
  split <;> rfl

@[simp] theorem removeListeners_eventBus :
    (queue.removeListeners bus).eventBus = queue.eventBus := by
  simp only [removeListeners]
  split <;> rfl

end Queue

namespace Call

structure Overheard (call after : Call) : Prop where
  request : after.request = call.request
  context : after.context = call.context
  fresh : after.fresh = call.fresh
  pc : after.pc = call.pc
  resultManager : after.resultManager = call.resultManager
  outcome : after.outcome = call.outcome
  firstResultSent : after.firstResultSent = call.firstResultSent
  handled : after.handled = call.handled
  yielded : after.yielded = call.yielded
  bus : after.bus = call.bus
  execution : after.execution.map Execution.core = call.execution.map Execution.core
  detached : (∀ queue, call.eventQueue = some queue → queue.stopped = true → queue.attached = false) →
    ∀ queue, after.eventQueue = some queue → queue.stopped = true → queue.attached = false

namespace Overheard

variable {call middle after : Call}

theorem refl : Overheard call call := by
  constructor <;> first | rfl | exact id

theorem trans (first : Overheard call middle) (second : Overheard middle after) :
    Overheard call after where
  request := second.request.trans first.request
  context := second.context.trans first.context
  fresh := second.fresh.trans first.fresh
  pc := second.pc.trans first.pc
  resultManager := second.resultManager.trans first.resultManager
  outcome := second.outcome.trans first.outcome
  firstResultSent := second.firstResultSent.trans first.firstResultSent
  handled := second.handled.trans first.handled
  yielded := second.yielded.trans first.yielded
  bus := second.bus.trans first.bus
  execution := second.execution.trans first.execution
  detached := fun holds => second.detached (first.detached holds)

theorem queued (overheard : Overheard call after) :
    after.eventQueue.isSome = call.eventQueue.isSome := by
  have same := congrArg Option.isSome overheard.bus
  simpa [Call.bus] using same

theorem isSend (overheard : Overheard call after) : after.isSend = call.isSend := by
  simp only [Call.isSend, overheard.request]

theorem isStream (overheard : Overheard call after) : after.isStream = call.isStream := by
  simp only [Call.isStream, overheard.request]

/-- The execution before, given the one after. -/
theorem executed {execution : Execution} (overheard : Overheard call after)
    (executing : after.execution = some execution) :
    ∃ earlier, call.execution = some earlier ∧ earlier.requestContext = execution.requestContext ∧
      earlier.eventBus = execution.eventBus ∧ earlier.phase = execution.phase := by
  have same := overheard.execution
  rw [executing] at same
  obtain ⟨earlier, found, equal⟩ := Option.map_eq_some_iff.mp same.symm
  simp only [Execution.core, Prod.mk.injEq] at equal
  exact ⟨earlier, found, equal.1, equal.2.1, equal.2.2⟩

theorem executorBus (overheard : Overheard call after) : after.executorBus = call.executorBus := by
  have buses : after.execution.map Execution.eventBus = call.execution.map Execution.eventBus := by
    have same := congrArg (Option.map (fun core => core.2.1)) overheard.execution
    rw [Option.map_map, Option.map_map] at same
    exact same
  simp only [Call.executorBus, overheard.request]
  split
  · exact overheard.bus
  · exact buses

end Overheard

variable {call : Call}

theorem receive_overheard (bus : BusId) (id : EventId) (event : AgentExecutionEvent) :
    Overheard call (call.receive bus id event) where
  request := rfl
  context := rfl
  fresh := rfl
  pc := rfl
  resultManager := rfl
  outcome := rfl
  firstResultSent := rfl
  handled := rfl
  yielded := rfl
  bus := by cases queued : call.eventQueue <;> simp [Call.bus, receive, queued]
  execution := by cases executing : call.execution <;> simp [receive, executing]
  detached holds queue found stopped := by
    obtain ⟨earlier, queued, rfl⟩ := Option.map_eq_some_iff.mp found
    simp only [Queue.handleEvent] at stopped ⊢
    split at stopped
    · rename_i open'
      simp [open'.2.2] at stopped
    · rename_i closed
      simpa [closed] using holds earlier queued stopped

theorem receiveFinished_overheard (bus : BusId) : Overheard call (call.receiveFinished bus) where
  request := rfl
  context := rfl
  fresh := rfl
  pc := rfl
  resultManager := rfl
  outcome := rfl
  firstResultSent := rfl
  handled := rfl
  yielded := rfl
  bus := by cases queued : call.eventQueue <;> simp [Call.bus, receiveFinished, queued]
  execution := rfl
  detached holds queue found stopped := by
    obtain ⟨earlier, queued, rfl⟩ := Option.map_eq_some_iff.mp found
    simp only [Queue.handleFinished] at stopped ⊢
    split
    · rfl
    · rename_i other
      simp only [if_neg other] at stopped
      exact holds earlier queued stopped

theorem removeListeners_overheard (bus : BusId) : Overheard call (call.removeListeners bus) where
  request := rfl
  context := rfl
  fresh := rfl
  pc := rfl
  resultManager := rfl
  outcome := rfl
  firstResultSent := rfl
  handled := rfl
  yielded := rfl
  bus := by cases queued : call.eventQueue <;> simp [Call.bus, removeListeners, queued]
  execution := by cases executing : call.execution <;> simp [removeListeners, executing]
  detached holds queue found stopped := by
    obtain ⟨earlier, queued, rfl⟩ := Option.map_eq_some_iff.mp found
    simp only [Queue.removeListeners] at stopped ⊢
    split
    · rfl
    · rename_i other
      simp only [if_neg other] at stopped
      exact holds earlier queued stopped

theorem listen_overheard (taskIdToBus : String → Option BusId) (effect : Effect) :
    Overheard call (effect.listen taskIdToBus call) := by
  cases effect with
  | publish bus id event => exact receive_overheard bus id event
  | finished bus => exact receiveFinished_overheard bus
  | cleanup taskId =>
      cases registered : taskIdToBus taskId with
      | some bus => simpa [Effect.listen, registered] using removeListeners_overheard bus
      | none => simpa [Effect.listen, registered] using Overheard.refl
  | _ => exact .refl

theorem WellFormed.overheard {after : Call} (wellFormed : call.WellFormed)
    (overheard : Overheard call after) : after.WellFormed where
  unattached waiting := by
    have unqueued := wellFormed.unattached (overheard.pc ▸ waiting)
    simpa [unqueued] using overheard.queued
  starts starting := overheard.isSend.trans (wellFormed.starts (overheard.pc ▸ starting))
  starting starting := by
    rw [overheard.isStream, overheard.queued]
    exact wellFormed.starting (overheard.pc ▸ starting)
  executes execution executing := by
    obtain ⟨earlier, found, _, bus, _⟩ := overheard.executed executing
    obtain ⟨sends, attached, started⟩ := wellFormed.executes earlier found
    exact ⟨overheard.isSend.trans sends, by rw [overheard.bus, attached, bus],
      by rwa [overheard.pc]⟩
  listening listens := overheard.queued.trans (wellFormed.listening (overheard.pc ▸ listens))
  detached := overheard.detached wellFormed.detached
  answered sent := by
    rw [overheard.outcome]
    exact wellFormed.answered (overheard.firstResultSent ▸ sent)
  reporting reports :=
    overheard.firstResultSent.trans (wellFormed.reporting (overheard.pc ▸ reports))
  returned left := by
    rw [overheard.outcome]
    exact wellFormed.returned (overheard.pc ▸ left)
  merging ref key event saving := by
    rw [overheard.resultManager]
    exact wellFormed.merging ref key event (overheard.pc ▸ saving)

end Call

namespace State

variable {state : State} {pid other : Pid} {call after : Call} {effects : List Effect}

/-- Every call has a record after the effects of a step that some listeners made of the one
it had before. -/
theorem foldl_overheard (found : (effects.foldl (apply pid) state).calls other = some after) :
    ∃ before, state.calls other = some before ∧ before.Overheard after := by
  induction effects generalizing state with
  | nil => exact ⟨after, found, .refl⟩
  | cons effect rest ih =>
      obtain ⟨middle, present, later⟩ := ih found
      rw [apply_calls] at present
      obtain ⟨before, earlier, rfl⟩ := Option.map_eq_some_iff.mp present
      exact ⟨before, earlier, (Call.listen_overheard _ _).trans later⟩

theorem commit_overheard
    (found : (state.commit pid (call, effects)).calls other = some after) :
    (other = pid ∧ call.Overheard after) ∨
      (other ≠ pid ∧ ∃ before, state.calls other = some before ∧ before.Overheard after) := by
  obtain ⟨before, earlier, overheard⟩ := foldl_overheard found
  by_cases same : other = pid
  · subst same
    simp only [setCall_self, Option.some.injEq] at earlier
    exact .inl ⟨rfl, earlier ▸ overheard⟩
  · rw [setCall_of_ne same] at earlier
    exact .inr ⟨same, before, earlier, overheard⟩

/-- A property that every listener keeps outlives the effects of a step, in the calls that had
it before. -/
theorem foldl_holds {property : Call → Prop}
    (heard : ∀ {call : Call} (taskIdToBus : String → Option BusId) (effect : Effect),
      property call → property (effect.listen taskIdToBus call))
    (before : ∀ call, state.calls other = some call → property call)
    (found : (effects.foldl (apply pid) state).calls other = some after) : property after := by
  induction effects generalizing state with
  | nil => exact before after found
  | cons effect rest ih =>
      refine ih (fun call present => ?_) found
      rw [apply_calls] at present
      obtain ⟨earlier, known, rfl⟩ := Option.map_eq_some_iff.mp present
      exact heard _ effect (before earlier known)

/-- The rule for a property of single calls that every listener keeps: it has to hold of the
stepping call's new record. -/
theorem commit_holds {property : Call → Prop}
    (heard : ∀ {call : Call} (taskIdToBus : String → Option BusId) (effect : Effect),
      property call → property (effect.listen taskIdToBus call))
    (own : property call)
    (others : ∀ pid before, state.calls pid = some before → property before)
    (found : (state.commit pid (call, effects)).calls other = some after) : property after := by
  refine foldl_holds heard (fun before present => ?_) found
  by_cases same : other = pid
  · subst same
    rw [setCall_self, Option.some.injEq] at present
    exact present ▸ own
  · rw [setCall_of_ne same] at present
    exact others other before present

def WellFormed (state : State) : Prop :=
  ∀ pid call, state.calls pid = some call → call.WellFormed

theorem wellFormed_initial (taskStore : InMemoryTaskStore)
    (pushNotificationStore : InMemoryPushNotificationStore) (taskIdToBus : String → Option BusId) :
    (State.initial taskStore pushNotificationStore taskIdToBus).WellFormed := by
  intro pid call found
  simp [initial] at found

variable {handler : Handler} {label : Label} {next : State}

/-- The stepping call's new record, before any listener. -/
theorem stepped_wellFormed (wellFormed : state.WellFormed)
    (stepped : Stepped handler state label after effects) : after.WellFormed := by
  have phased : ∀ {call : Call} {execution changed : Execution}, call.WellFormed →
      call.execution = some execution → changed.eventBus = execution.eventBus →
      ({ call with execution := some changed }).WellFormed := by
    intro call execution changed holds executing sameBus
    obtain ⟨sends, bus, started⟩ := holds.executes execution executing
    refine ⟨holds.unattached, holds.starts, holds.starting, ?_, holds.listening, holds.detached,
      holds.answered, holds.reporting, holds.returned, holds.merging⟩
    intro other found
    cases found
    exact ⟨sends, by rw [sameBus]; exact bus, started⟩
  cases stepped with
  | begun => exact Call.WellFormed.begin _ _ _ _
  | resumed found resumed => exact (wellFormed _ _ found).resumed (Call.resume_cases resumed)
  | published found => exact wellFormed _ _ found
  | finishedBus found => exact wellFormed _ _ found
  | executorReturned found executing => exact phased (wellFormed _ _ found) executing rfl
  | executorThrew found executing => exact phased (wellFormed _ _ found) executing rfl
  | @reaped pid call execution fresh reapedTo effects found executing _ _ _ reaped =>
      refine phased (wellFormed _ _ found) executing ?_
      simp only [Execution.reap] at reaped
      split at reaped
      · split at reaped <;> cases reaped <;> rfl
      · cases reaped
        rfl
      · cases reaped
      · cases reaped
  | @abandoned pid call after found abandoned =>
      obtain ⟨_, _, rfl⟩ := Call.abandon_cases abandoned
      exact (wellFormed _ _ found).stopQueue_finish _

theorem wellFormed_step (wellFormed : state.WellFormed)
    (stepped : state.step handler label = some next) : next.WellFormed := by
  obtain ⟨after, effects, steppedTo, rfl⟩ := step_cases stepped
  intro pid call found
  rcases commit_overheard found with ⟨_, overheard⟩ | ⟨_, before, earlier, overheard⟩
  · exact (stepped_wellFormed wellFormed steppedTo).overheard overheard
  · exact (wellFormed _ _ earlier).overheard overheard

/-- The stepping call has a record, and every other call of the next state had one before. -/
theorem calls_step (stepped : state.step handler label = some next)
    (found : next.calls other = some after) :
    other = label.pid ∨ ∃ before, state.calls other = some before := by
  obtain ⟨record, effects, _, rfl⟩ := step_cases stepped
  rcases commit_overheard found with ⟨same, _⟩ | ⟨_, before, earlier, _⟩
  · exact .inl same
  · exact .inr ⟨before, earlier⟩

/-- No record is ever lost. -/
theorem calls_kept (stepped : state.step handler label = some next)
    (found : state.calls other = some call) : ∃ after, next.calls other = some after := by
  obtain ⟨record, effects, _, rfl⟩ := step_cases stepped
  have start : ∃ before, (state.setCall label.pid record).calls other = some before := by
    by_cases same : other = label.pid
    · exact ⟨record, same ▸ setCall_self⟩
    · exact ⟨call, (setCall_of_ne same).trans found⟩
  have folded : ∀ (effects : List Effect) (current : State),
      (∃ before, current.calls other = some before) →
      ∃ after, (effects.foldl (apply label.pid) current).calls other = some after := by
    intro effects
    induction effects with
    | nil => exact fun current present => present
    | cons effect rest ih =>
        rintro current ⟨before, present⟩
        exact ih (current.apply label.pid effect) ⟨_, by rw [apply_calls, present]; rfl⟩
  exact folded effects _ start

theorem calls_labelled {allowed : State → Label → Prop} {labels : List Label} {start : State}
    (runs : (handlerSystem handler).Runs allowed start labels state)
    (idle : start.calls = fun _ => none) (found : state.calls other = some call) :
    other ∈ labels.map Label.pid := by
  induction runs generalizing call with
  | refl => simp [idle] at found
  | snoc _ _ stepped ih =>
      rw [List.map_append, List.mem_append]
      rcases calls_step stepped found with same | ⟨before, earlier⟩
      · exact .inr (by simp [same])
      · exact .inl (ih earlier)

end State

end A2A.Server
