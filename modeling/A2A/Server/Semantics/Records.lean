import A2A.Server.Semantics.Synced

namespace A2A.Server

open Library

/-! The records of the one writer of a task.

`Call.Exact` says that they hold the task's events as they were published: an
event of the task is trimmed by nobody before the writer has handled it.
-/

namespace Call

/-- The records of the task's events hold the events themselves, and an event is as it was
published until the call has handled it. -/
structure Exact (events : EventHeap) (taskId : String) (call : Call) : Prop where
  distinct : (call.received.map Prod.fst).Nodup
  known : ∀ item ∈ call.received, ∃ event, events item.1 = some event ∧ event.core = item.2.core
  untouched : ∀ item ∈ call.received, item.2.target = some taskId →
    item.1 ∉ call.handled.map Prod.fst → events item.1 = some item.2
  handled : ∀ item ∈ call.handled, item.2.target = some taskId → item ∈ call.received
  saving : ∀ id key event, call.pc = .save (.published id) key event →
    event.target = some taskId → (id, event) ∈ call.received
  mapping : ∀ id, call.pc = .map id → id ∈ call.handled.map Prod.fst

variable {handler : Handler} {view : View} {events : EventHeap} {pid : Pid} {fate : Fate}
  {call after : Call} {effects : List Effect} {id : EventId} {taskId : String}

/-- The event being worked on, or the next one, has been received and not been handled. -/
theorem Exact.current (exact : call.Exact events taskId)
    (ordered : (call.inbox events).Ordered Item.stops) {rest : List EventId}
    (waits : call.remaining events = some (id :: rest)) {event : AgentExecutionEvent}
    (found : events id = some event) :
    id ∉ call.handled.map Prod.fst ∧
      (event.target = some taskId → (id, event) ∈ call.received) := by
  have tagged : (call.inbox events).waiting =
      some (itemOf (id, event) :: rest.filterMap (EventHeap.tag events)) := by
    simp [inbox, waits, EventHeap.tag, found, itemOf]
  have split : call.received.map itemOf =
      call.handled.map itemOf ++ itemOf (id, event) :: rest.filterMap (EventHeap.tag events) :=
    (ordered.reading _ tagged).1
  have ids := congrArg (List.map Prod.fst) split
  simp only [List.map_append, List.map_map, List.map_cons] at ids
  have fst : ∀ items : List (EventId × AgentExecutionEvent),
      items.map (Prod.fst ∘ itemOf) = items.map Prod.fst := fun items => rfl
  rw [fst, fst] at ids
  have distinct := exact.distinct
  rw [ids] at distinct
  have fresh : id ∉ call.handled.map Prod.fst := fun member =>
    (List.nodup_append.mp distinct).2.2 id member id (by simp [itemOf]) rfl
  refine ⟨fresh, fun target => ?_⟩
  have received : id ∈ call.received.map Prod.fst := by simp [ids, itemOf]
  obtain ⟨⟨_, value⟩, member, rfl⟩ := List.mem_map.mp received
  obtain ⟨known, present, core⟩ := exact.known _ member
  cases found.symm.trans present
  have named : value.target = some taskId := by
    rw [← AgentExecutionEvent.core_target, ← core, AgentExecutionEvent.core_target, target]
  have same := exact.untouched _ member named fresh
  cases found.symm.trans same
  exact member

/-- The event of a locked section is the next one of the call's queue. -/
theorem working (wellFormed : call.WellFormed) {ref : EventRef} {key : Option String}
    (counter : call.pc = .lock ref key ∨ ∃ event, call.pc = .save ref key event)
    (published : ref = .published id) : ∃ rest, call.remaining events = some (id :: rest) := by
  subst published
  have queued := wellFormed.listening (by
    rcases counter with waits | ⟨event, saves⟩
    · simp [waits, Pc.listening]
    · simp [saves, Pc.listening])
  obtain ⟨queue, attached⟩ := Option.isSome_iff_exists.mp queued
  refine ⟨queue.eventQueue, ?_⟩
  rw [remaining_queued attached]
  rcases counter with waits | ⟨event, saves⟩
  · rw [waits]
    rfl
  · rw [saves]
    rfl

/-- A call maps the event that it has just handled. -/
theorem Resumed.mapsHandled (wellFormed : call.WellFormed)
    (resumed : Resumed handler view pid call fate after effects) (mapping : after.pc = .map id) :
    id ∈ after.handled.map Prod.fst := by
  cases resumed.comesToMap wellFormed mapping with
  | taken | skipped | saved => simp [processed]

/-- A resumed call keeps exact records, unless it forwards events without merging them. -/
theorem Resumed.exact (wellFormed : call.WellFormed) (knows : call.Knows view.event)
    (ordered : (call.inbox view.event).Ordered Item.stops) (exact : call.Exact view.event taskId)
    (merges : call.isResubscribe = false)
    (resumed : Resumed handler view pid call fate after effects) : after.Exact view.event taskId := by
  have saving : ∀ id key event, after.pc = .save (.published id) key event →
      event.target = some taskId → (id, event) ∈ call.received := by
    intro id key event saves target
    obtain ⟨counter, waiting, resolved⟩ := resumed.savesLocked wellFormed saves
    obtain ⟨rest, waits⟩ := working wellFormed (.inl waiting) rfl
    exact (exact.current ordered waits resolved).2 target
  have mapping := fun id => @Resumed.mapsHandled handler view pid fate call after effects id wellFormed resumed
  have unchanged : after.received = call.received → after.handled = call.handled →
      after.Exact view.event taskId := fun received handled =>
    ⟨received ▸ exact.distinct, received ▸ exact.known, by rw [received, handled]; exact exact.untouched,
      by rw [received, handled]; exact exact.handled, by rw [received]; exact saving, mapping⟩
  cases resumed.reads wellFormed knows with
  | quiet _ received handled => exact unchanged received handled
  | attached _ _ received handled => exact unchanged received handled
  | finished _ _ _ received handled => exact unchanged received handled
  | lost _ _ received handled => exact unchanged received handled
  | @handled _ id rest event known waits found core received handled _ _ handles =>
      refine ⟨received ▸ exact.distinct, received ▸ exact.known, ?_, ?_,
        by rw [received]; exact saving, mapping⟩
      · intro item present target absent
        rw [received] at present
        refine exact.untouched item present target fun earlier => absent ?_
        rw [handled, List.map_append, List.mem_append]
        exact .inl earlier
      · intro item present target
        rw [received]
        rcases List.mem_append.mp (handled ▸ present) with earlier | last
        · exact exact.handled item earlier target
        · cases List.mem_singleton.mp last
          cases handles with
          | saved saves => exact exact.saving id _ event saves target
          | skipped waiting resolved => exact (exact.current ordered waits resolved).2 target
          | message _ plain => cases plain.symm.trans target
          | forwarded _ subscribes => cases merges.symm.trans subscribes

/-- What the listeners of a new event add to the records. -/
theorem Exact.receive {bus : BusId} {event : AgentExecutionEvent} (exact : call.Exact events taskId)
    (unknown : events id = none) :
    (call.receive bus id event).Exact (Function.update events id (some event)) taskId := by
  have differ : ∀ item ∈ call.received, item.1 ≠ id := by
    rintro item member rfl
    obtain ⟨old, present, _⟩ := exact.known item member
    cases unknown.symm.trans present
  have received : (call.receive bus id event).received = call.received ∨
      (call.receive bus id event).received = call.received ++ [(id, event)] := by
    simp only [Call.receive]
    split
    · split
      · exact .inr rfl
      · exact .inl rfl
    · exact .inl rfl
  have handled : (call.receive bus id event).handled = call.handled := rfl
  have members : ∀ item ∈ (call.receive bus id event).received,
      item ∈ call.received ∨ item = (id, event) := by
    intro item member
    rcases received with same | grown
    · exact .inl (same ▸ member)
    · rcases List.mem_append.mp (grown ▸ member) with earlier | last
      · exact .inl earlier
      · exact .inr (List.mem_singleton.mp last)
  have kept : ∀ item ∈ call.received, item ∈ (call.receive bus id event).received := by
    intro item member
    rcases received with same | grown
    · exact same ▸ member
    · rw [grown]
      exact List.mem_append_left _ member
  refine ⟨?_, ?_, ?_, ?_, ?_, exact.mapping⟩
  · rcases received with same | grown
    · exact same ▸ exact.distinct
    · rw [grown, List.map_append, List.nodup_append]
      refine ⟨exact.distinct, by simp, ?_⟩
      rintro _ member _ last rfl
      obtain ⟨item, present, rfl⟩ := List.mem_map.mp member
      exact differ item present (by simpa using last)
  · intro item member
    rcases members item member with earlier | rfl
    · obtain ⟨old, present, core⟩ := exact.known item earlier
      exact ⟨old, by rw [Function.update_of_ne (differ item earlier), present], core⟩
    · exact ⟨event, Function.update_self .., rfl⟩
  · intro item member target absent
    rcases members item member with earlier | rfl
    · rw [Function.update_of_ne (differ item earlier)]
      exact exact.untouched item earlier target absent
    · exact Function.update_self ..
  · intro item member target
    exact kept item (exact.handled item member target)
  · intro other key saved saves target
    exact kept _ (exact.saving other key saved saves target)

/-- A listener that adds nothing to the records leaves them exact. -/
theorem Exact.overheard (exact : call.Exact events taskId) (overheard : call.Overheard after)
    (received : after.received = call.received) : after.Exact events taskId where
  distinct := received ▸ exact.distinct
  known := received ▸ exact.known
  untouched := by rw [received, overheard.handled]; exact exact.untouched
  handled := by rw [received, overheard.handled]; exact exact.handled
  saving := by rw [received, overheard.pc]; exact exact.saving
  mapping := by rw [overheard.pc, overheard.handled]; exact exact.mapping

/-- A task event that the call has handled, or that is not the task's, may be trimmed. -/
theorem Exact.trimmed (exact : call.Exact events taskId) (historyLength : Option Int)
    (spent : ∀ data, events id = some (.task data) → data.id = taskId →
      id ∈ call.handled.map Prod.fst) :
    call.Exact (Function.update events id ((events id).map (AgentExecutionEvent.trim historyLength)))
      taskId where
  distinct := exact.distinct
  known item member := by
    obtain ⟨old, present, core⟩ := exact.known item member
    by_cases same : item.1 = id
    · exact ⟨old.trim historyLength, by rw [← same, Function.update_self, present]; rfl,
        (AgentExecutionEvent.core_trim _ _).trans core⟩
    · exact ⟨old, by rw [Function.update_of_ne same, present], core⟩
  untouched item member target absent := by
    have present := exact.untouched item member target absent
    by_cases same : item.1 = id
    · rw [← same, Function.update_self, present]
      obtain ⟨other, value⟩ := item
      subst same
      cases value with
      | task data => exact absurd (spent data present (Option.some.inj target)) absent
      | _ => rfl
    · rw [Function.update_of_ne same, present]
  handled := exact.handled
  saving := exact.saving
  mapping := exact.mapping

theorem begin_exact (events : EventHeap) (view : View) (request : Request)
    (context : ServerCallContext) (requestedExtensions : Option (List String)) (fresh : Fresh) :
    (handler.begin view request context requestedExtensions fresh).Exact events taskId := by
  obtain ⟨_, received, handled, _⟩ := @State.begin_blank handler view events request context
    requestedExtensions fresh
  refine ⟨by simp [received], by simp [received], by simp [received], by simp [handled], ?_, ?_⟩
  · intro id key event saves
    exact absurd saves ((@begin_currentTask handler view request context requestedExtensions
      fresh).2 _ _ _)
  · intro id maps
    exact absurd maps (State.begin_unmapped _ _ _ _)

/-- What has been handled stays handled. -/
theorem Reading.handled_kept (reading : Reading view call fate after) : call.handled <+: after.handled := by
  cases reading with
  | quiet _ _ same | attached _ _ _ same | finished _ _ _ _ same | lost _ _ _ same =>
      exact same ▸ List.prefix_rfl
  | handled _ _ _ _ same => exact same ▸ List.prefix_append _ _

end Call

/-- What the rejection handler of an execution publishes. -/
def Execution.reports (execution : Execution) (streaming : Bool) (task : Option Task)
    (errorMessage : String) (fresh : FailureFresh) : List (EventId × AgentExecutionEvent) :=
  if streaming then execution.streamFailureEvents task errorMessage fresh
  else execution.failureEvents task errorMessage fresh

namespace State

variable {handler : Handler} {state next : State} {label : Label} {pid stepping : Pid}
  {call after : Call} {effect : Effect} {effects : List Effect} {fate : Fate} {taskId : String}

/-- The records of the call are exact. -/
def Recorded (state : State) (pid : Pid) (taskId : String) : Prop :=
  ∀ call, state.calls pid = some call → call.isResubscribe = false → call.Exact state.events taskId

/-- The call has handled every task event of the task that the effect trims. -/
def Spent (state : State) (pid : Pid) (taskId : String) (effect : Effect) : Prop :=
  ∀ id historyLength, effect = .trim id historyLength → ∀ call data, state.calls pid = some call →
    call.isResubscribe = false → state.events id = some (.task data) → data.id = taskId →
    id ∈ call.handled.map Prod.fst

theorem setCall_recorded (recorded : state.Recorded pid taskId)
    (own : stepping = pid → call.isResubscribe = false → call.Exact state.events taskId) :
    (state.setCall stepping call).Recorded pid taskId := by
  intro record found merges
  by_cases same : pid = stepping
  · subst same
    cases setCall_self.symm.trans found
    exact own rfl merges
  · rw [setCall_of_ne same] at found
    exact recorded record found merges

theorem apply_recorded (recorded : state.Recorded pid taskId)
    (unknown : ∀ bus id event, effect = .publish bus id event → state.events id = none)
    (spent : state.Spent pid taskId effect) : (state.apply stepping effect).Recorded pid taskId := by
  intro record found merges
  rw [apply_calls] at found
  obtain ⟨call, present, rfl⟩ := Option.map_eq_some_iff.mp found
  have overheard : Call.Overheard call (effect.listen state.taskIdToBus call) :=
    Call.listen_overheard state.taskIdToBus effect
  have exact := recorded call present (by simpa only [Call.isResubscribe, overheard.request] using merges)
  cases effect with
  | publish bus id event => exact exact.receive (unknown bus id event rfl)
  | finished bus => exact exact.overheard overheard rfl
  | trim id historyLength =>
      exact exact.trimmed historyLength fun data => spent id historyLength rfl call data present merges
  | cleanup taskId =>
      cases registered : state.taskIdToBus taskId with
      | none => simpa [apply, Effect.listen, registered] using exact
      | some bus =>
          rw [show Effect.listen state.taskIdToBus (.cleanup taskId) call = call.removeListeners bus by
            simp [Effect.listen, registered]] at overheard ⊢
          simpa [apply, registered, mapCalls] using exact.overheard overheard rfl
  | _ => exact exact

/-- Trimming leaves what the later effects of the step trim as it was. -/
theorem Spent.apply {later : Effect} (spent : state.Spent pid taskId later)
    (silent : effect.silent = true) : (state.apply stepping effect).Spent pid taskId later := by
  intro id historyLength trims call data found merges present named
  rw [apply_calls_silent silent] at found
  obtain ⟨old, before, same⟩ : ∃ old, state.events id = some (.task old) ∧ old.id = data.id := by
    cases effect with
    | trim other length =>
        by_cases equal : id = other
        · subst equal
          simp only [State.apply, Function.update_self] at present
          obtain ⟨event, before, trimmed⟩ := Option.map_eq_some_iff.mp present
          cases event with
          | task old =>
              cases trimmed
              obtain ⟨_, kept⟩ := applyHistoryLengthSemantics_eq length old
              exact ⟨old, before, by rw [kept]⟩
          | _ => cases trimmed
        · simp only [State.apply, Function.update_of_ne equal] at present
          exact ⟨data, present, rfl⟩
    | publish | finished | cleanup => cases silent
    | _ => exact ⟨data, present, rfl⟩
  exact spent id historyLength trims call old found merges before (same.trans named)

theorem foldl_recorded (recorded : state.Recorded pid taskId)
    (silent : ∀ effect ∈ effects, effect.silent = true)
    (spent : ∀ effect ∈ effects, state.Spent pid taskId effect) :
    (effects.foldl (apply stepping) state).Recorded pid taskId := by
  induction effects generalizing state with
  | nil => exact recorded
  | cons effect rest ih =>
      simp only [List.forall_mem_cons] at silent spent
      refine ih (apply_recorded recorded ?_ spent.1) silent.2 fun later member =>
        (spent.2 later member).apply silent.1
      rintro bus id event rfl
      simp [Effect.silent] at silent

theorem recorded_initial (taskStore : InMemoryTaskStore)
    (pushNotificationStore : InMemoryPushNotificationStore) (taskIdToBus : String → Option BusId) :
    (State.initial taskStore pushNotificationStore taskIdToBus).Recorded pid taskId := by
  intro call found
  simp [initial] at found

theorem recorded_step (wellFormed : state.WellFormed) (knows : state.Knows) (ordered : state.Ordered)
    (spares : state.Spares pid taskId) (recorded : state.Recorded pid taskId)
    (stepped : state.step handler label = some next) : next.Recorded pid taskId := by
  obtain ⟨after, effects, steppedTo, rfl⟩ := step_cases stepped
  have unspent : ∀ {current : State} {effect : Effect}, (∀ id length, effect ≠ .trim id length) →
      current.Spent pid taskId effect := fun plain id length trims => absurd trims (plain id length)
  have executes : ∀ {stepping : Pid} {call : Call} {execution : Option Execution},
      state.calls stepping = some call →
      (state.setCall stepping { call with execution }).Recorded pid taskId := by
    intro stepping call execution found
    refine setCall_recorded recorded ?_
    rintro rfl merges
    have own := recorded call found merges
    exact ⟨own.distinct, own.known, own.untouched, own.handled, own.saving, own.mapping⟩
  cases steppedTo with
  | begun => exact setCall_recorded recorded fun _ _ => Call.begin_exact _ _ _ _ _ _
  | @resumed stepping call fate after effects found resumed =>
      have own := wellFormed stepping call found
      have cases' := Call.resume_cases resumed
      have reads := cases'.reads own (knows stepping call found)
      refine foldl_recorded (setCall_recorded recorded ?_) (cases'.busUse own).silent ?_
      · rintro rfl merges
        have before : call.isResubscribe = false := by
          simpa only [Call.isResubscribe, (cases'.origin own).1] using merges
        exact cases'.exact own (knows stepping call found) (ordered stepping _ (inbox_of found))
          (recorded call found before) before
      · rintro effect member id historyLength rfl record data present merges known named
        have mapping := cases'.trims own member
        by_cases same : pid = stepping
        · subst same
          cases setCall_self.symm.trans present
          have before : call.isResubscribe = false := by
            simpa only [Call.isResubscribe, (cases'.origin own).1] using merges
          exact (reads.handled_kept.map Prod.fst).subset ((recorded call found before).mapping id mapping)
        · exact absurd named (spares stepping call id data (Ne.symm same) found mapping known)
  | @published stepping call bus id event found _ unknown =>
      rw [commit_cons, setCall_eq_self found]
      exact apply_recorded recorded (by rintro _ _ _ ⟨⟩; exact unknown) (unspent (by simp))
  | @finishedBus stepping call bus found =>
      rw [commit_cons, setCall_eq_self found]
      exact apply_recorded recorded (by simp) (unspent (by simp))
  | executorReturned found | executorThrew found => exact executes found
  | @reaped stepping call execution fresh changed effects found executing unknownTask unknownStatus differ
      reaped =>
      have kept := @executes stepping call (some changed) found
      refine @commit_settles (Recorded · pid taskId) _ _ _ _ _ _ _ _ (Execution.reap_settles reaped)
        unknownStatus differ kept ?_ ?_ ?_
      · rintro task -
        exact apply_recorded kept (by rintro _ _ _ ⟨⟩; exact unknownTask) (unspent (by simp))
      · rintro current data _ unknown known
        exact apply_recorded known (by rintro _ _ _ ⟨⟩; exact unknown) (unspent (by simp))
      · rintro _ -
        exact apply_recorded (apply_recorded kept (by simp) (unspent (by simp))) (by simp)
          (unspent (by simp))
  | @abandoned stepping call after found abandoned =>
      obtain ⟨_, _, rfl⟩ := Call.abandon_cases abandoned
      refine setCall_recorded recorded ?_
      rintro rfl merges
      have own := recorded call found merges
      refine ⟨own.distinct, own.known, own.untouched, own.handled, ?_, ?_⟩
      · intro id key event saves
        cases saves
      · intro id maps
        cases maps

/-- A call keeps its request, its caller and the message it was made with. -/
theorem origin_step (wellFormed : state.WellFormed) (stepped : state.step handler label = some next)
    (found : state.calls pid = some call) (later : next.calls pid = some after) :
    after.request = call.request ∧ after.context = call.context ∧
      after.resultManager.latestUserMessage = call.resultManager.latestUserMessage := by
  obtain ⟨record, effects, steppedTo, rfl⟩ := step_cases stepped
  have heard : ∀ {before : Call}, before.Overheard after → before.request = call.request →
      before.context = call.context →
      before.resultManager.latestUserMessage = call.resultManager.latestUserMessage →
      after.request = call.request ∧ after.context = call.context ∧
        after.resultManager.latestUserMessage = call.resultManager.latestUserMessage :=
    fun overheard request context latest => ⟨overheard.request.trans request,
      overheard.context.trans context, (congrArg _ overheard.resultManager).trans latest⟩
  rcases commit_overheard later with ⟨rfl, overheard⟩ | ⟨_, before, earlier, overheard⟩
  · cases steppedTo with
    | begun absent => cases absent.symm.trans found
    | resumed present resumed =>
        cases found.symm.trans present
        obtain ⟨request, context, latest⟩ := (Call.resume_cases resumed).origin (wellFormed _ _ found)
        exact heard overheard request context latest
    | published present | finishedBus present | executorReturned present | executorThrew present
    | reaped present =>
        cases found.symm.trans present
        exact heard overheard rfl rfl rfl
    | abandoned present abandoned =>
        cases found.symm.trans present
        obtain ⟨_, _, rfl⟩ := Call.abandon_cases abandoned
        exact heard overheard rfl rfl rfl
  · cases found.symm.trans earlier
    exact heard overheard rfl rfl rfl

/-! ### What a queue receives later -/

theorem foldl_received (found : state.calls pid = some call)
    (later : (effects.foldl (apply stepping) state).calls pid = some after) :
    ∃ more, after.received = call.received ++ more ∧
      ∀ item ∈ more, ∃ bus event, .publish bus item.1 event ∈ effects := by
  induction effects generalizing state call with
  | nil =>
      cases found.symm.trans later
      exact ⟨[], by simp, by simp⟩
  | cons effect rest ih =>
      have middle : (state.apply stepping effect).calls pid =
          some (effect.listen state.taskIdToBus call) := by
        rw [apply_calls, found]
        rfl
      obtain ⟨more, received, published⟩ := ih middle later
      have first : ∃ early, (effect.listen state.taskIdToBus call).received = call.received ++ early ∧
          ∀ item ∈ early, ∃ bus event, effect = .publish bus item.1 event := by
        cases effect with
        | publish bus id event =>
            simp only [Effect.listen, Call.receive]
            split
            · split
              · exact ⟨[(id, event)], rfl, by simp⟩
              · exact ⟨[], by simp, by simp⟩
            · exact ⟨[], by simp, by simp⟩
        | cleanup taskId =>
            cases registered : state.taskIdToBus taskId <;>
              exact ⟨[], by simp [Effect.listen, registered, Call.removeListeners], by simp⟩
        | _ => exact ⟨[], by simp [Effect.listen, Call.receiveFinished], by simp⟩
      obtain ⟨early, heard, announced⟩ := first
      refine ⟨early ++ more, by rw [received, heard, List.append_assoc], fun item member => ?_⟩
      rcases List.mem_append.mp member with before | after
      · obtain ⟨bus, event, rfl⟩ := announced item before
        exact ⟨bus, event, List.mem_cons_self⟩
      · obtain ⟨bus, event, among⟩ := published item after
        exact ⟨bus, event, List.mem_cons_of_mem _ among⟩

/-- Published in a row, events reach a queue together or not at all. -/
theorem foldl_publishAll {execution : Execution} {items : List (EventId × AgentExecutionEvent)}
    (found : state.calls pid = some call) :
    ∃ record, ((execution.publishAll items).foldl (apply stepping) state).calls pid = some record ∧
      record.received =
        if call.listensOn execution.eventBus then call.received ++ items else call.received := by
  induction items generalizing state call with
  | nil => exact ⟨call, found, by simp⟩
  | cons item rest ih =>
      have middle : (state.apply stepping (.publish execution.eventBus item.1 item.2)).calls pid =
          some (call.receive execution.eventBus item.1 item.2) := by
        rw [apply_calls, found]
        rfl
      obtain ⟨record, present, received⟩ := ih middle
      refine ⟨record, present, ?_⟩
      rw [received, Call.receive_listensOn, Call.receive_received]
      split <;> simp

/-- What the rejection handler publishes reaches its own call's queue together or not at all. -/
theorem failure_heard {execution : Execution} {errorMessage : String} {fresh : FailureFresh}
    (found : state.calls pid = some call) (executing : call.execution = some execution)
    (rejected : execution.phase = .rejected errorMessage)
    (reaped : state.step handler ⟨pid, .executorReaped fresh⟩ = some next) :
    state.events fresh.statusEvent = none ∧ (next.events fresh.statusEvent).isSome = true ∧
    ∃ record, next.calls pid = some record ∧ record.received =
      if call.listensOn execution.eventBus then
        call.received ++
          execution.reports call.isStream (state.contextTask pid execution) errorMessage fresh
      else call.received := by
  obtain ⟨record, effects, steppedTo, rfl⟩ := step_cases reaped
  cases steppedTo with
  | @reaped _ _ _ _ changed _ present same unknownTask unknownStatus differ reaps =>
      cases found.symm.trans present
      cases executing.symm.trans same
      have published : effects =
          execution.publishAll (execution.reports call.isStream (state.contextTask pid execution)
            errorMessage fresh) := by
        cases Execution.reap_cases reaps with
        | failed again plain | streamFailed again plain =>
            cases rejected.symm.trans again
            simp [Execution.reports, plain]
        | keptAlive settling | closed settling => cases rejected.symm.trans settling
      subst published
      refine ⟨unknownStatus, ?_, ?_⟩
      · simp only [commit, Execution.publishAll, Execution.reports, Execution.streamFailureEvents,
          Execution.failureEvents]
        split
        · split <;> simp [apply]
        · simp [apply]
      · exact @foldl_publishAll _ _ _ { call with execution := some changed } execution _ setCall_self

/-- A step adds to a queue only what was unknown before it. -/
theorem received_step (wellFormed : state.WellFormed) (knows : state.Knows)
    (stepped : state.step handler label = some next) (found : state.calls pid = some call)
    (later : next.calls pid = some after) :
    ∃ more, after.received = call.received ++ more ∧ ∀ item ∈ more, state.events item.1 = none := by
  obtain ⟨record, effects, steppedTo, rfl⟩ := step_cases stepped
  have start : ∃ before, (state.setCall label.pid record).calls pid = some before ∧
      before.received = call.received := by
    by_cases same : pid = label.pid
    · subst same
      refine ⟨record, setCall_self, ?_⟩
      cases steppedTo with
      | begun absent => cases absent.symm.trans found
      | resumed present resumed =>
          cases found.symm.trans present
          have reads := (Call.resume_cases resumed).reads (wellFormed _ _ found) (knows _ _ found)
          cases reads with
          | quiet _ received | attached _ _ received | finished _ _ _ received | lost _ _ received
          | handled _ _ _ received => exact received
      | published present | finishedBus present | executorReturned present | executorThrew present
      | reaped present =>
          cases found.symm.trans present
          rfl
      | abandoned present abandoned =>
          cases found.symm.trans present
          obtain ⟨_, _, rfl⟩ := Call.abandon_cases abandoned
          rfl
    · exact ⟨call, (setCall_of_ne same).trans found, rfl⟩
  obtain ⟨before, present, same⟩ := start
  obtain ⟨more, received, published⟩ := foldl_received present later
  refine ⟨more, received.trans (by rw [same]), fun item member => ?_⟩
  obtain ⟨bus, event, among⟩ := published item member
  cases known : state.events item.1 with
  | none => rfl
  | some old => exact absurd rfl (stepped_fresh wellFormed steppedTo known bus event _ among)

/-- A queue of a whole run goes on from what it was, with events that were unknown then. -/
theorem received_run {allowed : State → Label → Prop} {labels : List Label}
    (runs : (handlerSystem handler).Runs allowed state labels next) (wellFormed : state.WellFormed)
    (knows : state.Knows) (found : state.calls pid = some call) :
    next.WellFormed ∧ next.Knows ∧ EventHeap.Grows state.events next.events ∧
    ∃ after more, next.calls pid = some after ∧ after.received = call.received ++ more ∧
      ∀ item ∈ more, state.events item.1 = none := by
  induction runs with
  | refl => exact ⟨wellFormed, knows, .refl _, call, [], found, by simp, by simp⟩
  | @snoc labels middle next label earlier permitted stepped ih =>
      obtain ⟨shaped, known, grows, record, more, present, received, unknown⟩ := ih
      obtain ⟨after, later⟩ := calls_kept stepped present
      obtain ⟨last, appended, fresh⟩ := received_step shaped known stepped present later
      refine ⟨wellFormed_step shaped stepped, knows_step shaped known stepped,
        grows.trans (step_grows shaped stepped), after, more ++ last, later, ?_, fun item member => ?_⟩
      · rw [appended, received, List.append_assoc]
      · rcases List.mem_append.mp member with before | after
        · exact unknown item before
        · cases old : state.events item.1 with
          | none => rfl
          | some event =>
              obtain ⟨kept, still, _⟩ := grows item.1 event old
              cases (fresh item after).symm.trans still

theorem origin_run {allowed : State → Label → Prop} {labels : List Label}
    (runs : (handlerSystem handler).Runs allowed state labels next) (wellFormed : state.WellFormed)
    (found : state.calls pid = some call) :
    next.WellFormed ∧ ∃ after, next.calls pid = some after ∧ after.request = call.request ∧
      after.context = call.context ∧
      after.resultManager.latestUserMessage = call.resultManager.latestUserMessage := by
  induction runs with
  | refl => exact ⟨wellFormed, call, found, rfl, rfl, rfl⟩
  | snoc _ _ stepped ih =>
      obtain ⟨shaped, middle, present, request, context, latest⟩ := ih
      obtain ⟨after, later⟩ := calls_kept stepped present
      obtain ⟨sameRequest, sameContext, sameLatest⟩ := origin_step shaped stepped present later
      exact ⟨wellFormed_step shaped stepped, after, later, sameRequest.trans request,
        sameContext.trans context, sameLatest.trans latest⟩

end State

end A2A.Server
