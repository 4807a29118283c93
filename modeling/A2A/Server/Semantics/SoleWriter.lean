import A2A.Server.Semantics.Inboxes
import A2A.Server.Semantics.Writes

namespace A2A.Server

open Library

/-! A task that only one call writes.

The other calls may do anything else, also on the same bus.  The task's row is
then the call's own writes replayed, and nobody trims the task's events
before the call has merged them.
-/

/-- No call but `pid` saves a task under the id. -/
def WrittenBy (handler : Handler) (pid : Pid) (taskId : String) (state : State) (label : Label) :
    Prop :=
  label.pid ≠ pid → label.action = .resume .ok →
    ∀ held, state.pending handler label.pid = some held → held.task.id ≠ taskId

namespace State

variable {handler : Handler} {state next : State} {label : Label} {pid other : Pid}
  {scope : Scope} {taskId : String}

/-- The row of a task and the call's copy of it. -/
def ownRegister (handler : Handler) (state : State) (pid : Pid) (scope : Scope) (taskId : String) :
    Register (Option Task) Write Unit where
  content := state.row scope taskId
  hands := fun _ => (state.register handler scope taskId).hands pid
  log := rowWrites state.writes scope taskId

/-- A step of another call leaves the row and the call's copy alone. -/
theorem ownRegister_other (wellFormed : state.WellFormed)
    (permitted : WrittenBy handler pid taskId state label) (differ : label.pid ≠ pid)
    (stepped : state.step handler label = some next) :
    next.ownRegister handler pid scope taskId = state.ownRegister handler pid scope taskId := by
  have hands : (next.register handler scope taskId).hands pid =
      (state.register handler scope taskId).hands pid := by
    simp only [register, pending_step_of_ne stepped (Ne.symm differ)]
  have kept : next.row scope taskId = state.row scope taskId ∧
      rowWrites next.writes scope taskId = rowWrites state.writes scope taskId := by
    cases rowStep wellFormed stepped with
    | saved resumed holds _ store writes =>
        have named := permitted differ resumed _ holds
        exact ⟨by simp [row_saved store, named], by simp [writes, rowWrites_append, named]⟩
    | accepted _ _ _ _ _ _ _ store writes => exact ⟨row_kept store, by rw [writes]⟩
    | merged _ _ _ _ _ _ _ _ store writes => exact ⟨row_kept store, by rw [writes]⟩
    | quiet _ store writes => exact ⟨row_kept store, by rw [writes]⟩
  simp only [ownRegister, kept.1, kept.2, hands]

/-- A step of the call takes a copy, drops it, or puts it back. -/
theorem ownRegister_own (wellFormed : state.WellFormed) (own : label.pid = pid)
    (stepped : state.step handler label = some next) :
    Register.Step (Write.Enabled taskId) Write.apply (state.ownRegister handler pid scope taskId)
      (next.ownRegister handler pid scope taskId) := by
  subst own
  have hands : ∀ (later : Option (Option Task × Write)),
      Function.update (state.ownRegister handler label.pid scope taskId).hands () later =
        fun _ => later := fun later => funext fun _ => by simp
  have freed : (next.register handler scope taskId).hands label.pid = none →
      next.row scope taskId = state.row scope taskId →
      rowWrites next.writes scope taskId = rowWrites state.writes scope taskId →
      Register.Step (Write.Enabled taskId) Write.apply
        (state.ownRegister handler label.pid scope taskId)
        (next.ownRegister handler label.pid scope taskId) := by
    intro free row log
    have same : next.ownRegister handler label.pid scope taskId =
        { state.ownRegister handler label.pid scope taskId with
          hands := Function.update (state.ownRegister handler label.pid scope taskId).hands () none } := by
      simp only [ownRegister, free, row, log, Register.mk.injEq, true_and, and_true]
      exact (hands none).symm
    rw [same]
    exact .drop
  have taken : ∀ {held : Pending}, next.pending handler label.pid = some held →
      next.taskStore = state.taskStore → next.writes = state.writes →
      held.write.Enabled held.task.id (state.row held.scope held.task.id) →
      held.write.apply (state.row held.scope held.task.id) = some held.task →
      Register.Step (Write.Enabled taskId) Write.apply
        (state.ownRegister handler label.pid scope taskId)
        (next.ownRegister handler label.pid scope taskId) := by
    intro held holds store writes enabled applied
    have copy := @register_hands handler next label.pid scope taskId held holds
    by_cases here : held.scope = scope ∧ held.task.id = taskId
    · obtain ⟨rfl, rfl⟩ := here
      rw [if_pos ⟨rfl, rfl⟩] at copy
      have same : next.ownRegister handler label.pid held.scope held.task.id =
          { state.ownRegister handler label.pid held.scope held.task.id with
            hands := Function.update
              (state.ownRegister handler label.pid held.scope held.task.id).hands ()
              (some (held.write.apply (state.row held.scope held.task.id), held.write)) } := by
        simp only [ownRegister, copy, row_kept store, writes, applied, Register.mk.injEq, true_and,
          and_true]
        exact (hands _).symm
      rw [same]
      exact .take enabled
    · rw [if_neg here] at copy
      exact freed copy (row_kept store) (by rw [writes])
  cases rowStep wellFormed stepped with
  | @saved held resumed holds free store writes =>
      have nothing := @register_free handler next label.pid scope taskId free
      have copy := @register_hands handler state label.pid scope taskId held holds
      by_cases here : held.scope = scope ∧ held.task.id = taskId
      · rw [if_pos here] at copy
        have same : next.ownRegister handler label.pid scope taskId =
            { content := some held.task
              hands := Function.update (state.ownRegister handler label.pid scope taskId).hands () none
              log := (state.ownRegister handler label.pid scope taskId).log ++ [held.write] } := by
          simp only [ownRegister, nothing, row_saved store, writes, rowWrites_append, if_pos here,
            Register.mk.injEq, true_and, and_true]
          exact (hands none).symm
        rw [same]
        exact .put copy fun another differ => absurd rfl differ
      · exact freed nothing (by simp [row_saved store, here]) (by simp [writes, rowWrites_append, here])
  | @accepted scope stored task write _ present active plain applied same holds store writes =>
      refine taken holds store writes ?_ ?_
      · cases write with
        | event latestUserMessage event => exact absurd rfl (plain latestUserMessage event)
        | _ => simp [Write.Enabled, same, present]
      · rw [same, present, applied]
  | @merged call ref key event task _ _ _ _ _ merges target holds store writes =>
      refine taken holds store writes ⟨target, by rw [merges]; rfl⟩ ?_
      rw [Write.apply, merges]
      rfl
  | quiet calm store writes =>
      rcases calm with none | kept
      · exact freed (register_free none) (row_kept store) (by rw [writes])
      · have same : next.ownRegister handler label.pid scope taskId =
            state.ownRegister handler label.pid scope taskId := by
          simp only [ownRegister, register, kept, row_kept store, writes]
        rw [same]
        exact .idle

theorem ownRegister_step (wellFormed : state.WellFormed)
    (permitted : WrittenBy handler pid taskId state label)
    (stepped : state.step handler label = some next) :
    Register.Step (Write.Enabled taskId) Write.apply (state.ownRegister handler pid scope taskId)
      (next.ownRegister handler pid scope taskId) := by
  by_cases own : label.pid = pid
  · exact ownRegister_own wellFormed own stepped
  · rw [ownRegister_other wellFormed permitted own stepped]
    exact .idle

/-- The row of a task with one writer is that writer's log replayed. -/
theorem ownRegister_serial {taskStore : InMemoryTaskStore}
    {pushNotificationStore : InMemoryPushNotificationStore} {taskIdToBus : String → Option BusId}
    {labels : List Label} (scope : Scope)
    (runs : (handlerSystem handler).Runs (WrittenBy handler pid taskId)
      (.initial taskStore pushNotificationStore taskIdToBus) labels state) :
    Register.Serial (Write.Enabled taskId) Write.apply (taskStore.load scope taskId)
      (state.ownRegister handler pid scope taskId) := by
  have holds := runs.invariant (fun current => current.WellFormed ∧
      Register.Serial (Write.Enabled taskId) Write.apply (taskStore.load scope taskId)
        (current.ownRegister handler pid scope taskId))
    ⟨wellFormed_initial _ _ _, ?_⟩ ?_
  · exact holds.2
  · refine ⟨rfl, ?_, ?_⟩
    · intro before write after split
      simp [ownRegister, rowWrites, initial] at split
    · intro process value write held
      simp [ownRegister, register, pending, initial] at held
  · rintro current label next ⟨wellFormed, serial⟩ permitted stepped
    exact ⟨wellFormed_step wellFormed stepped,
      serial.step (ownRegister_step wellFormed permitted stepped)⟩

end State

/-! ### The events of the task -/

namespace Call

variable {handler : Handler} {view : View} {pid : Pid} {fate : Fate} {call after : Call}
  {effects : List Effect} {id : EventId}

theorem takeEvent_effects {event : AgentExecutionEvent}
    (took : call.takeEvent id event = (after, effects)) :
    effects = (call.lockKeyOf event).toList.map Effect.acquire := by
  rcases takeEvent_cases took with ⟨target, _, rfl⟩ | ⟨_, _, _, rfl⟩
  · simp [lockKeyOf, target]
  · rfl

/-- Only the event being mapped is trimmed. -/
theorem Resumed.trims {historyLength : Option Int} (wellFormed : call.WellFormed)
    (resumed : Resumed handler view pid call fate after effects)
    (member : .trim id historyLength ∈ effects) : call.pc = .map id := by
  have released : ∀ {key : Option String}, .trim id historyLength ∉ releaseEffects key := by
    intro key
    cases key <;> simp [releaseEffects]
  have acquired : ∀ {key : Option String}, .trim id historyLength ∉ key.toList.map Effect.acquire := by
    intro key
    cases key <;> simp
  have joined : ∀ {taskId : String} {bus : BusId} {effects : List Effect},
      Joined view pid taskId bus effects → .trim id historyLength ∉ effects := by
    intro taskId bus effects joins
    cases joins <;> simp
  have failing : ∀ {ref : EventRef} {error : String} {after : Call} {effects : List Effect},
      call.processingFailed ref error = (after, effects) → .trim id historyLength ∉ effects := by
    intro ref error after effects failed
    rcases processingFailed_cases failed with ⟨_, _, rfl, _⟩ | ⟨_, _, _, _, _, _, _, rfl⟩
    · simp
    · exact acquired
  cases resumed with
  | answered _ configures => simpa [Effect.configures] using configures _ member
  | @contextBuilt _ _ _ _ extensions after effects loading created =>
      cases wellFormed.contextBuilt loading created with
      | configures => simp at member
      | configuresStream _ joins => exact absurd member (joined joins)
      | runs joins => exact absurd member (joined joins)
  | configSavedFirst _ _ joins =>
      simp only [List.mem_cons, reduceCtorEq, false_or] at member
      exact absurd member (joined (createOrGetBus_joined joins))
  | taken _ _ _ _ _ _ took =>
      rw [takeEvent_effects took] at member
      exact absurd member acquired
  | lockFailed _ _ _ _ failed | saveFailed _ _ failed =>
      rcases List.mem_append.mp member with first | second
      · exact absurd first released
      · exact absurd second (failing failed)
  | skipped => exact absurd member released
  | saved =>
      simp only [List.mem_cons, reduceCtorEq, false_or] at member
      exact absurd member released
  | yielded mapping =>
      split at member
      · simp at member
      · simp only [List.mem_singleton, Effect.trim.injEq] at member
        rw [mapping, member.1]
  | mapped mapping _ _ _ _ handedOut =>
      rcases handOutResults_cases handedOut with ⟨_, rfl⟩ | ⟨_, _, _, _, _, _, rfl | ⟨_, rfl⟩⟩
      · simp at member
      · simp at member
      · simp only [List.mem_singleton, Effect.trim.injEq] at member
        rw [mapping, member.1]
  | _ => simp at member

/-- How a call comes to map an event: the event is not for a task, or merging it has changed
nothing, or the task that it was merged into has been saved. -/
inductive ComesToMap (handler : Handler) (view : View) (call : Call) (id : EventId) :
    Fate → Call → List Effect → Prop
  | taken {before : Call} {event : AgentExecutionEvent} {effects : List Effect} :
      view.event id = some event → event.target = none →
      ComesToMap handler view call id .ok (before.processed (.published id) event) effects
  | skipped {before : Call} {event : AgentExecutionEvent} {loaded : Option Task} {manager : ResultManager}
      {effects : List Effect} :
      view.event id = some event → call.resultManager.merge loaded event = (manager, false) →
      ComesToMap handler view call id .ok (before.processed (.published id) event) effects
  | saved {key : Option String} {event : AgentExecutionEvent} {task : Task} :
      call.pc = .save (.published id) key event → call.resultManager.currentTask = some task →
      ComesToMap handler view call id .ok (call.processed (.published id) event)
        (.saveTask (handler.scope call.context) task
          (.event call.resultManager.latestUserMessage event) :: releaseEffects key)

theorem Resumed.comesToMap (wellFormed : call.WellFormed)
    (resumed : Resumed handler view pid call fate after effects) (mapping : after.pc = .map id) :
    ComesToMap handler view call id fate after effects := by
  have elsewhere : ∀ {pc : Pc}, after.pc = pc → pc ≠ .map id → False :=
    fun counter differ => differ (counter.symm.trans mapping)
  cases resumed with
  | historySaved =>
      simp only [resolveReferences] at mapping
      split at mapping <;> cases mapping
  | referenceLoaded =>
      dsimp only at mapping
      split at mapping <;> cases mapping
  | @contextBuilt _ _ _ _ extensions after effects loading created =>
      cases wellFormed.contextBuilt loading created <;> cases mapping
  | loopEnded =>
      exact (leftPc_of (· ≠ .map id) (by simp) (by simp) call (leaveLoop_pc.symm.trans mapping)).elim
  | forwarded =>
      exact (forward_pc (· ≠ .map id) (by simp) (by simp) (by simp) _ (by simp) _ _ _ mapping).elim
  | @taken queue other rest event pattern after effects _ _ _ known _ _ took =>
      rcases takeEvent_cases took with ⟨target, rfl, _⟩ | ⟨taskId, target, rfl, _⟩
      · cases mapping
        exact .taken known target
      · cases mapping
  | lockFailed _ _ _ _ failed | saveFailed _ _ failed =>
      rcases processingFailed_cases failed with ⟨left, _⟩ | ⟨_, _, _, _, _, _, rfl, _⟩
      · exact (elsewhere left (by simp)).elim
      · cases mapping
  | @skipped ref key event manager _ _ resolved result =>
      cases ref with
      | own failure => cases mapping
      | published other =>
          cases mapping
          exact .skipped resolved result
  | @saved ref key event task saving current =>
      cases ref with
      | own failure => cases mapping
      | published other =>
          cases mapping
          exact .saved saving current
  | mapped | consumed =>
      exact (afterYield_pc (· ≠ .map id) (by simp) (by simp) (by simp) _ _ mapping).elim
  | misdirected applying => cases applying.symm.trans mapping
  | _ => cases mapping

/-- A task event is mapped once its merge has been saved. -/
theorem Resumed.maps {data : Task} (wellFormed : call.WellFormed) (knows : call.Knows view.event)
    (resumed : Resumed handler view pid call fate after effects) (mapping : after.pc = .map id)
    (found : view.event id = some (.task data)) :
    fate = .ok ∧ ∃ key event task, call.pc = .save (.published id) key event ∧
      call.resultManager.currentTask = some task ∧ event.target = some task.id ∧ task.id = data.id ∧
      after = call.processed (.published id) event ∧
      effects = .saveTask (handler.scope call.context) task
        (.event call.resultManager.latestUserMessage event) :: releaseEffects key := by
  cases resumed.comesToMap wellFormed mapping with
  | taken known target =>
      cases known.symm.trans found
      cases target
  | skipped known result =>
      cases known.symm.trans found
      simp [ResultManager.merge] at result
  | @saved key event task saving current =>
      obtain ⟨stored, merged, target⟩ := wellFormed.merging _ _ _ saving
      cases current.symm.trans merged
      obtain ⟨known, present, same⟩ := knows.saving _ _ _ saving
      cases present.symm.trans found
      have named := congrArg AgentExecutionEvent.target same
      simp only [AgentExecutionEvent.core_target, target] at named
      exact ⟨rfl, key, event, task, saving, current, target, (Option.some.inj named).symm, rfl, rfl⟩

end Call

namespace State

variable {handler : Handler} {state next : State} {label : Label} {pid other : Pid}
  {call : Call} {effects : List Effect} {taskId : String} {id : EventId} {event : AgentExecutionEvent}

theorem begin_unmapped {view : View} (request : Request) (context : ServerCallContext)
    (requestedExtensions : Option (List String)) (fresh : Fresh) :
    (handler.begin view request context requestedExtensions fresh).pc ≠ .map id := by
  have begun := @Call.begin_cases handler view request context requestedExtensions fresh
  generalize handler.begin view request context requestedExtensions fresh = call at begun ⊢
  cases begun with
  | starts =>
      simp only [Call.resolveReferences]
      split <;> simp
  | loads counter => rcases counter with rfl | rfl | rfl | rfl <;> simp
  | _ => simp [Call.reject, Call.finish]

/-- No call but `pid` is about to hand out, and so to trim, a task event of the task. -/
def Spares (pid : Pid) (taskId : String) (state : State) : Prop :=
  ∀ other call id data, other ≠ pid → state.calls other = some call → call.pc = .map id →
    state.events id = some (.task data) → data.id ≠ taskId

/-- An event object changes only where a step trims it. -/
theorem foldl_event (found : state.events id = some event)
    (fresh : ∀ bus published, ∀ effect ∈ effects, effect ≠ .publish bus id published)
    (untrimmed : ∀ historyLength, ∀ effect ∈ effects, effect = .trim id historyLength →
      event.trim historyLength = event) :
    (effects.foldl (apply pid) state).events id = some event := by
  induction effects generalizing state with
  | nil => exact found
  | cons effect rest ih =>
      refine ih ?_ (fun bus published other member => fresh bus published other (List.mem_cons_of_mem _ member))
        (fun historyLength other member => untrimmed historyLength other (List.mem_cons_of_mem _ member))
      cases effect with
      | publish bus other published =>
          have differ : id ≠ other := by
            rintro rfl
            exact fresh bus published _ List.mem_cons_self rfl
          simp [apply, Function.update_of_ne differ, found]
      | trim other historyLength =>
          by_cases same : id = other
          · subst same
            simp [apply, found, untrimmed historyLength _ List.mem_cons_self rfl]
          · simp [apply, Function.update_of_ne same, found]
      | cleanup taskId =>
          simp only [apply]
          cases state.taskIdToBus taskId <;> exact found
      | _ => exact found

/-- The events that a settled executor publishes are new. -/
theorem reaped_fresh {execution after : Execution} {keepBusAliveStates : List TaskState}
    {streaming : Bool} {task : Option Task} {fresh : FailureFresh} (found : state.events id = some event)
    (unusedTask : state.events fresh.taskEvent = none)
    (unusedStatus : state.events fresh.statusEvent = none)
    (reaped : execution.reap keepBusAliveStates streaming task fresh = some (after, effects))
    (bus : BusId) (published : AgentExecutionEvent) : ∀ effect ∈ effects, effect ≠ .publish bus id published := by
  rintro effect member rfl
  have among : id = fresh.taskEvent ∨ id = fresh.statusEvent := by
    cases Execution.reap_cases reaped with
    | failed =>
        simp only [Execution.publishAll, Execution.failureEvents, List.map_cons, List.map_nil,
          List.mem_cons, Effect.publish.injEq, List.not_mem_nil, or_false] at member
        tauto
    | streamFailed =>
        simp only [Execution.publishAll, Execution.streamFailureEvents] at member
        split at member <;> simp only [List.map_cons, List.map_nil, List.mem_cons,
          Effect.publish.injEq, List.not_mem_nil, or_false] at member <;> tauto
    | keptAlive => simp at member
    | closed => simp at member
  rcases among with rfl | rfl
  · rw [unusedTask] at found
    cases found
  · rw [unusedStatus] at found
    cases found

/-- A step publishes no event under the identity of a known one. -/
theorem stepped_fresh {after : Call} (wellFormed : state.WellFormed)
    (stepped : Stepped handler state label after effects) (found : state.events id = some event)
    (bus : BusId) (published : AgentExecutionEvent) :
    ∀ effect ∈ effects, effect ≠ .publish bus id published := by
  cases stepped with
  | begun | executorReturned | executorThrew | abandoned | finishedBus => simp
  | published _ _ unused =>
      rintro effect member rfl
      simp only [List.mem_singleton, Effect.publish.injEq] at member
      rw [← member.2.1, found] at unused
      cases unused
  | reaped _ _ unusedTask unusedStatus _ reaped =>
      exact reaped_fresh found unusedTask unusedStatus reaped bus published
  | resumed present resumed =>
      rintro effect member rfl
      have silent := ((Call.resume_cases resumed).busUse (wellFormed _ _ present)).silent _ member
      simp [Effect.silent] at silent

theorem step_grows (wellFormed : state.WellFormed) (stepped : state.step handler label = some next) :
    EventHeap.Grows state.events next.events := by
  obtain ⟨after, effects, steppedTo, rfl⟩ := step_cases stepped
  intro id event found
  have folded : ∀ (effects : List Effect) (state : State) (event : AgentExecutionEvent),
      state.events id = some event →
      (∀ bus published, ∀ effect ∈ effects, effect ≠ .publish bus id published) →
      ∃ kept, (effects.foldl (apply label.pid) state).events id = some kept ∧ kept.core = event.core := by
    intro effects
    induction effects with
    | nil => exact fun state event found _ => ⟨event, found, rfl⟩
    | cons effect rest ih =>
        intro state event found fresh
        have later := fun bus published other member =>
          fresh bus published other (List.mem_cons_of_mem _ member)
        cases effect with
        | publish bus other published =>
            have differ : id ≠ other := by
              rintro rfl
              exact fresh bus published _ List.mem_cons_self rfl
            exact ih _ event (by simp [apply, Function.update_of_ne differ, found]) later
        | trim other historyLength =>
            by_cases same : id = other
            · subst same
              obtain ⟨kept, present, equal⟩ := ih (state.apply label.pid (.trim id historyLength))
                (event.trim historyLength) (by simp [apply, found]) later
              exact ⟨kept, present, equal.trans (AgentExecutionEvent.core_trim _ _)⟩
            · exact ih _ event (by simp [apply, Function.update_of_ne same, found]) later
        | cleanup taskId =>
            refine ih _ event ?_ later
            simp only [apply]
            cases state.taskIdToBus taskId <;> exact found
        | _ => exact ih _ event found later
  exact folded effects _ event found fun bus published =>
    stepped_fresh wellFormed steppedTo found bus published

/-- Until the call maps it, an event of its task stays as it was published. -/
theorem event_step (wellFormed : state.WellFormed) (spares : state.Spares pid taskId)
    (stepped : state.step handler label = some next) (found : state.events id = some event)
    (target : event.target = some taskId)
    (unmapped : ∀ fate, label = ⟨pid, .resume fate⟩ →
      ∀ call, state.calls pid = some call → call.pc ≠ .map id) :
    next.events id = some event := by
  obtain ⟨after, effects, steppedTo, rfl⟩ := step_cases stepped
  refine @foldl_event (state.setCall label.pid after) label.pid effects id event found
    (stepped_fresh wellFormed steppedTo found) ?_
  rintro historyLength effect member rfl
  cases steppedTo with
  | begun | executorReturned | executorThrew | abandoned => simp at member
  | finishedBus | published => simp at member
  | reaped _ _ _ _ _ reaped =>
      cases Execution.reap_cases reaped with
      | failed | streamFailed => simp [Execution.publishAll] at member
      | keptAlive | closed => simp at member
  | @resumed stepping call fate after effects present resumed =>
      have mapping := (Call.resume_cases resumed).trims (wellFormed _ _ present) member
      cases event with
      | task data =>
          by_cases own : stepping = pid
          · subst own
            exact absurd mapping (unmapped fate rfl call present)
          · exact absurd (Option.some.inj target) (spares stepping call id data own present mapping found)
      | _ => rfl

theorem spares_initial (pid : Pid) (taskId : String) (taskStore : InMemoryTaskStore)
    (pushNotificationStore : InMemoryPushNotificationStore) (taskIdToBus : String → Option BusId) :
    (State.initial taskStore pushNotificationStore taskIdToBus).Spares pid taskId := by
  intro other call id data _ found
  simp [initial] at found

/-- A call that maps a task event has saved its task, which no call but the writer does. -/
theorem spares_step (wellFormed : state.WellFormed) (knows : state.Knows)
    (spares : state.Spares pid taskId) (permitted : WrittenBy handler pid taskId state label)
    (stepped : state.step handler label = some next) : next.Spares pid taskId := by
  have grows := step_grows wellFormed stepped
  intro other record id data differ found mapping present
  have earlier : (state.events id).isSome = true →
      ∃ old, state.events id = some (.task old) ∧ old.id = data.id := by
    intro known
    obtain ⟨event, old⟩ := Option.isSome_iff_exists.mp known
    obtain ⟨kept, later, same⟩ := grows id event old
    cases later.symm.trans present
    cases event with
    | task task => exact ⟨task, old, congrArg (fun event => (event.target).getD "") same.symm⟩
    | _ => cases same
  have kept : ∀ {call : Call}, state.calls other = some call → call.pc = .map id → data.id ≠ taskId := by
    intro call before same
    obtain ⟨old, known, named⟩ := earlier ((knows other call before).current id (by rw [same]; rfl))
    exact named ▸ spares other call id old differ before same known
  obtain ⟨after, effects, steppedTo, rfl⟩ := step_cases stepped
  rcases commit_overheard found with ⟨rfl, overheard⟩ | ⟨_, call, before, overheard⟩
  · have counter : after.pc = .map id := overheard.pc.symm.trans mapping
    cases steppedTo with
    | begun => exact absurd counter (begin_unmapped _ _ _ _)
    | @resumed pid call fate after effects before resumed =>
        have cases' := Call.resume_cases resumed
        have own := knows pid call before
        obtain ⟨old, known, named⟩ :=
          earlier ((cases'.knows (wellFormed pid call before) own).current id (by rw [counter]; rfl))
        obtain ⟨rfl, key, event, task, saving, current, _, same, _⟩ :=
          cases'.maps (wellFormed pid call before) own counter known
        have held : state.pending handler pid = some ⟨handler.scope call.context, task,
            .event call.resultManager.latestUserMessage event⟩ := by
          simp [pending, before, Call.pending, saving, current]
        exact (same.trans named) ▸ permitted differ rfl _ held
    | published before | finishedBus before => exact kept before counter
    | executorReturned before | executorThrew before | reaped before => exact kept before counter
    | abandoned before abandoned =>
        obtain ⟨_, _, rfl⟩ := Call.abandon_cases abandoned
        cases counter
  · exact kept before (overheard.pc.symm.trans mapping)

end State

end A2A.Server
