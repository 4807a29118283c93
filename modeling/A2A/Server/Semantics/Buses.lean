import A2A.Server.Semantics.Listeners

namespace A2A.Server

open Library

/-! How steps create, join and close buses.

`Call.BusUse` is the view of a resumed step that only sees the registry, the
call's queue and its execution; `Execution.Reaped` is the view of an
execution's settlement.
-/

namespace Effect

/-- The effect changes neither the registry nor anything a listener sees. -/
def offBus (effect : Effect) : Bool := effect.silent && !effect.registers

theorem offBus_iff {effect : Effect} :
    effect.offBus = true ↔ effect.silent = true ∧ effect.registers = false := by
  simp [offBus]

end Effect

namespace Call

inductive BusUse (view : View) (pid : Pid) (call : Call) : Fate → Call → List Effect → Prop
  | unchanged {fate after effects} : after.execution = call.execution → after.bus = call.bus →
      (after.pc.starting = none ∨ call.bus = none) →
      (∀ effect ∈ effects, effect.offBus = true) → BusUse view pid call fate after effects
  | attached {after taskId bus} : call.pc = .cancelLoad → view.eventBus taskId = some bus →
      after.execution = call.execution → after.bus = some bus → after.pc.starting = none →
      BusUse view pid call .ok after []
  | prepared {after requestContext bus effects} : call.bus = none → call.execution = none →
      Joined view pid requestContext.taskId bus effects →
      after.execution = none → after.bus = some bus →
      after.pc.starting = some requestContext → BusUse view pid call .ok after effects
  | started {after requestContext bus saved joins} : call.bus = none → call.execution = none →
      Joined view pid requestContext.taskId bus joins →
      (∀ effect ∈ saved, effect.offBus = true) →
      after.execution = some ⟨requestContext, bus, .new, .running⟩ → after.bus = some bus →
      after.pc.starting = none → BusUse view pid call .ok after (saved ++ joins)
  | startedPrepared {after requestContext bus effects} : call.pc.starting = some requestContext →
      call.bus = some bus → call.execution = none →
      (∀ effect ∈ effects, effect.offBus = true) →
      after.execution = some ⟨requestContext, bus, .new, .running⟩ → after.bus = some bus →
      after.pc.starting = none → BusUse view pid call .ok after effects

variable {handler : Handler} {view : View} {pid : Pid} {fate : Fate} {call after : Call}
  {effects : List Effect} {bus : BusId} {taskId : String}

theorem bus_eq_none (unqueued : call.eventQueue = none) : call.bus = none := by
  simp [Call.bus, unqueued]

theorem Frame.busUse (frame : Frame call after) (counter : after.pc.starting = none)
    (offBus : ∀ effect ∈ effects, effect.offBus = true) :
    BusUse view pid call fate after effects :=
  .unchanged frame.execution frame.eventBus (.inl counter) offBus

theorem configures_offBus (configures : ∀ effect ∈ effects, effect.configures = true) :
    ∀ effect ∈ effects, effect.offBus = true := by
  intro effect member
  have known := configures effect member
  cases effect <;> simp_all [Effect.configures, Effect.offBus, Effect.silent, Effect.registers]

theorem acquire_offBus (key : Option String) :
    ∀ effect ∈ key.toList.map Effect.acquire, effect.offBus = true := by
  cases key <;> simp [Effect.offBus, Effect.silent, Effect.registers]

theorem release_offBus (key : Option String) :
    ∀ effect ∈ releaseEffects key, effect.offBus = true := by
  cases key <;> simp [releaseEffects, Effect.offBus, Effect.silent, Effect.registers]

theorem processed_starting (ref : EventRef) (event : AgentExecutionEvent) :
    (call.processed ref event).pc.starting = none := by
  cases ref <;> rfl

theorem takeEvent_offBus {id : EventId} {event : AgentExecutionEvent}
    (took : call.takeEvent id event = (after, effects)) :
    after.pc.starting = none ∧ ∀ effect ∈ effects, effect.offBus = true := by
  rcases takeEvent_cases took with ⟨target, rfl, rfl⟩ | ⟨taskId, target, rfl, rfl⟩
  · exact ⟨rfl, by simp⟩
  · exact ⟨rfl, acquire_offBus _⟩

theorem processingFailed_offBus {ref : EventRef} {error : String}
    (failed : call.processingFailed ref error = (after, effects)) :
    Frame call after ∧ after.pc.starting = none ∧ ∀ effect ∈ effects, effect.offBus = true := by
  rcases processingFailed_cases failed with ⟨counter, frame, rfl, _⟩ |
    ⟨id, task, _, _, _, _, rfl, rfl⟩
  · exact ⟨frame, by simp [counter, Pc.starting], by simp⟩
  · exact ⟨.advanced, rfl, acquire_offBus _⟩

theorem shifted_bus {queue : Queue} (attached : call.eventQueue = some queue) (rest : List EventId) :
    (call.shifted queue rest).bus = call.bus := by
  simp [Call.bus, shifted, attached]

theorem ContextCreated.busUse {requestContext : RequestContext} {extensions : Option (List String)}
    (wellFormed : call.WellFormed) (building : call.pc.unattached = true)
    (starts : call.pc.starts = true)
    (created : ContextCreated view pid { call with requestedExtensions := extensions }
      requestContext after effects) :
    BusUse view pid call .ok after effects := by
  have unqueued := bus_eq_none (wellFormed.unattached building)
  have idle := wellFormed.idle starts
  cases created with
  | configures plain => exact .unchanged rfl rfl (.inr unqueued) (by simp)
  | configuresStream streams joined => exact .prepared unqueued idle joined idle rfl rfl
  | runs joined => exact @BusUse.started view pid call _ _ _ [] _ unqueued idle joined (by simp) rfl rfl rfl

theorem Resumed.busUse (wellFormed : call.WellFormed)
    (resumed : Resumed handler view pid call fate after effects) :
    BusUse view pid call fate after effects := by
  cases resumed with
  | answered prepares configures =>
      exact (finish_frame _).busUse rfl (configures_offBus configures)
  | taskAccepted => exact .unchanged rfl rfl (.inl rfl) (by simp)
  | historySaved saving =>
      have unqueued := bus_eq_none (wellFormed.unattached (by simp [saving, Pc.unattached]))
      exact .unchanged rfl rfl (.inr unqueued)
        (by simp [Effect.offBus, Effect.silent, Effect.registers])
  | referenceLoaded loading =>
      have unqueued := bus_eq_none (wellFormed.unattached (by simp [loading, Pc.unattached]))
      exact .unchanged rfl rfl (.inr unqueued) (by simp)
  | @contextBuilt _ _ _ _ extensions after effects loading created =>
      have building : call.pc.unattached = true := by simp [loading, Pc.unattached]
      have starts : call.pc.starts = true := by simp [loading, Pc.starts]
      exact (wellFormed.contextBuilt loading created).busUse wellFormed building starts
  | @configSaved _ _ queue saving queued =>
      have idle := wellFormed.idle (by simp [saving, Pc.starts])
      have attached : call.bus = some queue.eventBus := by rw [Call.bus, queued]; rfl
      exact .startedPrepared (by rw [saving]; rfl) attached idle
        (by simp [Effect.offBus, Effect.silent, Effect.registers]) rfl attached rfl
  | configSavedFirst saving unqueued joined =>
      have idle := wellFormed.idle (by simp [saving, Pc.starts])
      exact @BusUse.started view pid call _ _ _ [_] _ (bus_eq_none unqueued) idle
        (createOrGetBus_joined joined) (by simp [Effect.offBus, Effect.silent, Effect.registers])
        rfl rfl rfl
  | loopEnded =>
      exact leaveLoop_frame.busUse (by rw [leaveLoop_pc]; exact leftPc_of (Pc.starting · = none) rfl rfl call) (by simp)
  | @forwarded queue id rest event taskId pulling attached =>
      have frame := forward_frame (call.shifted queue rest) taskId id event
      exact .unchanged frame.execution (frame.eventBus.trans (shifted_bus attached _))
        (.inl (forward_pc (Pc.starting · = none) rfl rfl rfl _ rfl _ _ _)) (by simp)
  | @violated queue id rest event text pulling attached =>
      have frame : Frame (call.shifted queue rest) _ :=
        stopQueue_frame.trans (finish_frame (.error (.unsupportedOperation text)))
      exact .unchanged frame.execution (frame.eventBus.trans (shifted_bus attached _)) (.inl rfl)
        (by simp)
  | @taken queue id rest event pattern after effects pulling attached waiting known own advanced took =>
      have frame := takeEvent_frame { call.shifted queue rest with streamPattern := pattern } id event
      rw [took] at frame
      obtain ⟨counter, offBus⟩ := takeEvent_offBus took
      exact .unchanged frame.execution (frame.eventBus.trans (shifted_bus attached _)) (.inl counter)
        offBus
  | lockFailed waiting holds resolved loads failed =>
      obtain ⟨frame, counter, offBus⟩ := processingFailed_offBus failed
      exact frame.busUse counter (List.forall_mem_append.mpr ⟨release_offBus _, offBus⟩)
  | merged => exact .unchanged rfl rfl (.inl rfl) (by simp)
  | @skipped ref key event manager =>
      have frame := processed_frame { call with resultManager := manager } ref event
      exact .unchanged frame.execution frame.eventBus (.inl (processed_starting _ _))
        (release_offBus _)
  | saveFailed saving current failed =>
      obtain ⟨frame, counter, offBus⟩ := processingFailed_offBus failed
      exact frame.busUse counter (List.forall_mem_append.mpr ⟨release_offBus _, offBus⟩)
  | saved =>
      refine (processed_frame _ _ _).busUse (processed_starting _ _) ?_
      rw [List.forall_mem_cons]
      exact ⟨rfl, release_offBus _⟩
  | @yielded fate id event response stored params =>
      have frame := notify_frame handler call
        (trimResponse (historyLengthOf params) response)
      refine .unchanged frame.execution frame.eventBus (.inl rfl) ?_
      split <;> simp [Effect.offBus, Effect.silent, Effect.registers]
  | @mapped fate id event response stored handed effects mapping known responded plain fallible
      handedOut =>
      have frame := ((notify_frame handler call response).trans
        (handOutResults_frame handedOut)).trans (afterYield_frame event)
      refine frame.busUse (afterYield_pc (Pc.starting · = none) rfl rfl rfl _ _) ?_
      rcases handOutResults_cases handedOut with ⟨_, rfl⟩ | ⟨_, _, _, _, _, _, rfl | ⟨_, rfl⟩⟩ <;>
        simp [Effect.offBus, Effect.silent, Effect.registers]
  | closed => exact (finish_frame _).busUse rfl (by simp)
  | continued => exact .unchanged rfl rfl (.inl rfl) (by simp)
  | consumed => exact (afterYield_frame _).busUse (afterYield_pc (Pc.starting · = none) rfl rfl rfl _ _) (by simp)
  | cancelAttached loading found active registered =>
      exact .attached loading registered rfl rfl rfl
  | cancelDirect => exact .unchanged rfl rfl (.inl rfl) (by simp)
  | cancelExecuted => exact .unchanged rfl rfl (.inl rfl) (by simp)
  | cancelSaved =>
      exact .unchanged rfl rfl (.inl rfl) (by simp [Effect.offBus, Effect.silent, Effect.registers])
  | resubscribeRefused => exact (stopQueue_frame.trans (finish_frame _)).busUse rfl (by simp)
  | resubscribed => exact .unchanged rfl rfl (.inl rfl) (by simp)
  | configTaskFound => exact .unchanged rfl rfl (.inl rfl) (by simp)
  | misdirected applying => exact .unchanged rfl rfl (.inl (by simp [applying, Pc.starting])) (by simp)

theorem begin_bus (request : Request) (context : ServerCallContext)
    (requestedExtensions : Option (List String)) (fresh : Fresh) :
    let call := handler.begin view request context requestedExtensions fresh
    call.execution = none ∧ call.pc.starting = none ∧
      (call.bus = none ∨ ∃ taskId bus, view.eventBus taskId = some bus ∧ call.bus = some bus) := by
  dsimp only
  have begun := @begin_cases handler view request context requestedExtensions fresh
  generalize handler.begin view request context requestedExtensions fresh = call at begun ⊢
  cases begun with
  | refused | follows | idles => exact ⟨rfl, rfl, .inl rfl⟩
  | starts =>
      simp only [resolveReferences]
      split <;> exact ⟨rfl, rfl, .inl rfl⟩
  | loads counter => rcases counter with rfl | rfl | rfl | rfl <;> exact ⟨rfl, rfl, .inl rfl⟩
  | @subscribes taskId bus _ registered => exact ⟨rfl, rfl, .inr ⟨taskId, bus, registered, rfl⟩⟩

theorem Joined.silent (joined : Joined view pid taskId bus effects) :
    ∀ effect ∈ effects, effect.silent = true := by
  cases joined <;> simp [Effect.silent]

/-- No listener runs while a call goes on. -/
theorem BusUse.silent (use : BusUse view pid call fate after effects) :
    ∀ effect ∈ effects, effect.silent = true := by
  have offBus : ∀ {effects : List Effect}, (∀ effect ∈ effects, effect.offBus = true) →
      ∀ effect ∈ effects, effect.silent = true := fun quiet effect member =>
    (Effect.offBus_iff.mp (quiet effect member)).1
  cases use with
  | unchanged _ _ _ quiet => exact offBus quiet
  | attached => simp
  | prepared _ _ joined => exact joined.silent
  | started _ _ joined quiet => exact List.forall_mem_append.mpr ⟨offBus quiet, joined.silent⟩
  | startedPrepared _ _ _ quiet => exact offBus quiet

/-- Only a failed save of the push configuration keeps a call from starting its executor. -/
theorem Resumed.startsPrepared {requestContext : RequestContext}
    (resumed : Resumed handler view pid call .ok after effects)
    (starting : call.pc.starting = some requestContext) :
    after.execution.isSome = true := by
  obtain ⟨config, saving⟩ : ∃ config, call.pc = .savePushConfig requestContext config := by
    cases counter : call.pc <;> simp_all [Pc.starting]
  cases resumed with
  | answered prepares configures apart => simp [saving, Pc.proceeds] at apart
  | configSaved => rfl
  | configSavedFirst => rfl
  | _ => simp_all

/-- An executor publishes on the bus its call is attached to. -/
theorem WellFormed.executorBus (wellFormed : call.WellFormed)
    (publishes : call.executorBus = some bus) : call.bus = some bus := by
  simp only [Call.executorBus] at publishes
  split at publishes
  · exact publishes
  · obtain ⟨execution, executing, rfl⟩ := Option.map_eq_some_iff.mp publishes
    exact (wellFormed.executes execution executing).2.1

end Call

/-- The promise jobs chained to `execute()`, one at a time. -/
inductive Execution.Reaped (keepBusAliveStates : List TaskState) (streaming : Bool)
    (execution : Execution) (task : Option Task) (fresh : FailureFresh) :
    Execution → List Effect → Prop
  | failed {errorMessage} : execution.phase = .rejected errorMessage → streaming = false →
      Reaped keepBusAliveStates streaming execution task fresh
        { execution with phase := .settling true }
        (execution.publishAll (execution.failureEvents task errorMessage fresh))
  | streamFailed {errorMessage} : execution.phase = .rejected errorMessage → streaming = true →
      Reaped keepBusAliveStates streaming execution task fresh
        { execution with tracker := execution.tracker.detach, phase := .settling true }
        (execution.publishAll (execution.streamFailureEvents task errorMessage fresh))
  | keptAlive {failed} : execution.phase = .settling failed →
      execution.tracker.lastState.any keepBusAliveStates.contains = true →
      Reaped keepBusAliveStates streaming execution task fresh
        { execution with tracker := execution.tracker.detach, phase := .settled failed } []
  | closed {failed} : execution.phase = .settling failed →
      execution.tracker.lastState.any keepBusAliveStates.contains = false →
      Reaped keepBusAliveStates streaming execution task fresh
        { execution with tracker := execution.tracker.detach, phase := .settled failed }
        [.finished execution.eventBus, .cleanup execution.requestContext.taskId]

theorem Execution.reap_cases {keepBusAliveStates : List TaskState} {streaming : Bool}
    {execution after : Execution} {task : Option Task} {fresh : FailureFresh} {effects : List Effect}
    (reaped : execution.reap keepBusAliveStates streaming task fresh = some (after, effects)) :
    Reaped keepBusAliveStates streaming execution task fresh after effects := by
  simp only [reap] at reaped
  split at reaped
  · rename_i errorMessage rejected
    split at reaped
    · rename_i streams
      cases reaped
      exact .streamFailed rejected streams
    · rename_i plain
      cases reaped
      exact .failed rejected (by simpa using plain)
  · rename_i failed settling
    cases kept : execution.tracker.lastState.any keepBusAliveStates.contains with
    | true =>
        simp only [settleBus, kept, if_true, Option.some.injEq, Prod.mk.injEq] at reaped
        obtain ⟨rfl, rfl⟩ := reaped
        exact .keptAlive settling kept
    | false =>
        simp only [settleBus, kept, Bool.false_eq_true, if_false, Option.some.injEq,
          Prod.mk.injEq] at reaped
        obtain ⟨rfl, rfl⟩ := reaped
        exact .closed settling kept
  · cases reaped
  · cases reaped

/-- A settlement as the bus sees it: it reports a failure, in one event or in two, or it
comes to its end. -/
inductive Execution.Settles (keepBusAliveStates : List TaskState) (execution : Execution)
    (fresh : FailureFresh) : Execution → List Effect → Prop
  | updated {tracker update errorMessage} : execution.phase = .rejected errorMessage →
      AgentExecutionEvent.endsQueue (.statusUpdate update) = true →
      Settles keepBusAliveStates execution fresh { execution with tracker, phase := .settling true }
        [.publish execution.eventBus fresh.statusEvent (.statusUpdate update)]
  | announced {tracker task update errorMessage} : execution.phase = .rejected errorMessage →
      AgentExecutionEvent.endsQueue (.statusUpdate update) = true →
      Settles keepBusAliveStates execution fresh { execution with tracker, phase := .settling true }
        [.publish execution.eventBus fresh.taskEvent (.task task),
          .publish execution.eventBus fresh.statusEvent (.statusUpdate update)]
  | keptAlive {failed} : execution.phase = .settling failed →
      execution.tracker.lastState.any keepBusAliveStates.contains = true →
      Settles keepBusAliveStates execution fresh
        { execution with tracker := execution.tracker.detach, phase := .settled failed } []
  | closed {failed} : execution.phase = .settling failed →
      execution.tracker.lastState.any keepBusAliveStates.contains = false →
      Settles keepBusAliveStates execution fresh
        { execution with tracker := execution.tracker.detach, phase := .settled failed }
        [.finished execution.eventBus, .cleanup execution.requestContext.taskId]

theorem Execution.reap_settles {keepBusAliveStates : List TaskState} {streaming : Bool}
    {execution after : Execution} {task : Option Task} {fresh : FailureFresh} {effects : List Effect}
    (reaped : execution.reap keepBusAliveStates streaming task fresh = some (after, effects)) :
    execution.Settles keepBusAliveStates fresh after effects := by
  cases reap_cases reaped with
  | failed rejected => exact .announced rejected rfl
  | streamFailed rejected =>
      simp only [publishAll, streamFailureEvents]
      split
      · exact .updated rejected rfl
      · exact .announced rejected rfl
  | keptAlive settling kept => exact .keptAlive settling kept
  | closed settling leaves => exact .closed settling leaves

/-- The settlement rule: what holds of the new record and is kept by each event of a reported
failure, or by the closing of the bus, holds when the promise job is done. -/
theorem State.commit_settles {property : State → Prop} {state : State} {pid : Pid} {call : Call}
    {keepBusAliveStates : List TaskState} {execution changed : Execution} {fresh : FailureFresh}
    {effects : List Effect} (settles : execution.Settles keepBusAliveStates fresh changed effects)
    (unknown : state.events fresh.statusEvent = none) (differ : fresh.taskEvent ≠ fresh.statusEvent)
    (start : property (state.setCall pid call))
    (announce : ∀ task, property (state.setCall pid call) → property
      ((state.setCall pid call).apply pid
        (.publish execution.eventBus fresh.taskEvent (.task task))))
    (update : ∀ current data, AgentExecutionEvent.endsQueue (.statusUpdate data) = true →
      current.events fresh.statusEvent = none → property current → property
        (current.apply pid (.publish execution.eventBus fresh.statusEvent (.statusUpdate data))))
    (close : execution.tracker.lastState.any keepBusAliveStates.contains = false →
      property (state.setCall pid call) → property
        (((state.setCall pid call).apply pid (.finished execution.eventBus)).apply pid
          (.cleanup execution.requestContext.taskId))) :
    property (state.commit pid (call, effects)) := by
  cases settles with
  | updated _ ends => exact update _ _ ends unknown start
  | announced _ ends =>
      refine update _ _ ends ?_ (announce _ start)
      simpa [State.apply, Function.update_of_ne differ.symm] using unknown
  | keptAlive => exact start
  | closed _ leaves => exact close leaves start

end A2A.Server
