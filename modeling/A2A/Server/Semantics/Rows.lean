import A2A.Server.Semantics.Buses

namespace A2A.Server

open Library

/-! How a call reads a row, and what it saves later.

Every save of the handler stores a task that was computed from an earlier
load.  Between the two the task is in the call's record: `Call.pendingSave`.
`Write.apply` is what the save would have stored, had it been computed from the
row at that moment.
-/

/-- Merging the event replaces the row's status, if it saves. -/
def AgentExecutionEvent.replacesStatus : AgentExecutionEvent → Bool
  | .task _ | .statusUpdate _ => true
  | .message _ | .artifactUpdate _ => false

namespace ResultManager

/-- The task a locked section saves for an event, if it saves one. -/
def mergeInto (latestUserMessage : Option Message) (loaded : Option Task) :
    AgentExecutionEvent → Option Task
  | .message _ => none
  | .task data => some (mergeTaskEvent latestUserMessage loaded data)
  | .statusUpdate data =>
      loaded.bind fun task =>
        if task.id = data.taskId then some (mergeStatusUpdate task data) else none
  | .artifactUpdate data =>
      data.artifact.bind fun artifact =>
        loaded.bind fun task =>
          if task.id = data.taskId then some (mergeArtifactUpdate task data.append artifact)
          else none

theorem merge_saved {manager after : ResultManager} {loaded : Option Task}
    {event : AgentExecutionEvent} (merged : manager.merge loaded event = (after, true)) :
    after.currentTask = mergeInto manager.latestUserMessage loaded event := by
  cases event with
  | message data => simp [merge] at merged
  | task data =>
      simp only [merge, Prod.mk.injEq, and_true] at merged
      subst after
      rfl
  | statusUpdate data =>
      simp only [merge] at merged
      split at merged
      · rename_i task
        split at merged
        · rename_i same
          cases merged
          simp [mergeInto, same]
        · simp at merged
      · simp at merged
  | artifactUpdate data =>
      simp only [merge] at merged
      split at merged
      · simp at merged
      · rename_i artifact named
        split at merged
        · rename_i task
          split at merged
          · rename_i same
            cases merged
            simp [mergeInto, named, same]
          · simp at merged
        · simp at merged

theorem merge_skipped {manager after : ResultManager} {loaded : Option Task}
    {event : AgentExecutionEvent} (merged : manager.merge loaded event = (after, false)) :
    mergeInto manager.latestUserMessage loaded event = none := by
  cases event with
  | message data => rfl
  | task data => simp [merge] at merged
  | statusUpdate data =>
      simp only [merge] at merged
      split at merged
      · split at merged
        · simp at merged
        · rename_i differ
          simp [mergeInto, differ]
      · rfl
  | artifactUpdate data =>
      simp only [merge] at merged
      split at merged
      · rename_i missing
        simp [mergeInto, missing]
      · rename_i artifact named
        split at merged
        · split at merged
          · simp at merged
          · rename_i differ
            simp [mergeInto, named, differ]
        · simp [mergeInto, named]

theorem mergeInto_target {latestUserMessage : Option Message} {loaded : Option Task}
    {event : AgentExecutionEvent} {task : Task}
    (merged : mergeInto latestUserMessage loaded event = some task) :
    event.target = some task.id := by
  cases result : (ResultManager.mk none latestUserMessage none).merge loaded event with
  | mk after saves =>
      cases saves with
      | false => cases (merge_skipped result).symm.trans merged
      | true =>
          obtain ⟨current, stored, target⟩ := merge_saves result
          have same := (merge_saved result).symm.trans stored
          cases merged.symm.trans same
          exact target

theorem prependUserMessage_status (latestUserMessage : Option Message) (task : Task) :
    (prependUserMessage latestUserMessage task).status = task.status := by
  simp only [prependUserMessage]
  split
  · rfl
  · split <;> rfl

theorem prependUserMessage_metadata (latestUserMessage : Option Message) (task : Task) :
    (prependUserMessage latestUserMessage task).metadata = task.metadata := by
  simp only [prependUserMessage]
  split
  · rfl
  · split <;> rfl

theorem mergeTaskEvent_status (latestUserMessage : Option Message) (persistedTask : Option Task)
    (taskEvent : Task) :
    (mergeTaskEvent latestUserMessage persistedTask taskEvent).status = taskEvent.status := by
  simp only [mergeTaskEvent, prependUserMessage_status]
  split
  · split <;> rfl
  · rfl

/-- A merged status is the event's or, for an artifact, the loaded row's. -/
theorem mergeInto_status {latestUserMessage : Option Message} {loaded : Option Task}
    {event : AgentExecutionEvent} {task : Task}
    (merged : mergeInto latestUserMessage loaded event = some task) :
    (event.replacesStatus = true ∧ task.status = event.status) ∨
      (event.replacesStatus = false ∧ ∃ stored, loaded = some stored ∧ task.status = stored.status) := by
  cases event with
  | message data => simp [mergeInto] at merged
  | task data =>
      simp only [mergeInto, Option.some.injEq] at merged
      subst task
      exact .inl ⟨rfl, mergeTaskEvent_status _ _ _⟩
  | statusUpdate data =>
      obtain ⟨stored, rfl, kept⟩ := Option.bind_eq_some_iff.mp merged
      split at kept
      · cases kept
        exact .inl ⟨rfl, rfl⟩
      · cases kept
  | artifactUpdate data =>
      obtain ⟨artifact, _, named⟩ := Option.bind_eq_some_iff.mp merged
      obtain ⟨stored, rfl, kept⟩ := Option.bind_eq_some_iff.mp named
      split at kept
      · cases kept
        exact .inr ⟨rfl, stored, rfl, rfl⟩
      · cases kept

end ResultManager

/-- The row a locked section merges an event into. -/
def AgentExecutionEvent.loads (event : AgentExecutionEvent) (row : Option Task) : Option Task :=
  if ResultManager.needsLoad event then row else none

/-- A write, performed on the row as it is. -/
def Write.apply (row : Option Task) : Write → Option Task
  | .append message => row.map (fun task => Call.appendHistory task message)
  | .cancel status => row.map (fun task => Call.cancelTask task status)
  | .event latestUserMessage merged =>
      ResultManager.mergeInto latestUserMessage (merged.loads row) merged <|> row

/-- A task in a call's hands: where and why it will be saved. -/
structure Pending where
  scope : Scope
  task : Task
  write : Write

namespace Call

/-- What the call holds between a load and its save. -/
def pending (handler : Handler) (call : Call) : Option Pending :=
  match call.pc with
  | .saveHistory message task =>
      some ⟨handler.scope call.context, appendHistory task message, .append message⟩
  | .cancelSave task =>
      some ⟨handler.scope call.context, cancelTask task (call.cancelStatus task),
        .cancel (call.cancelStatus task)⟩
  | .save _ _ event =>
      call.resultManager.currentTask.map fun task =>
        ⟨handler.scope call.context, task, .event call.resultManager.latestUserMessage event⟩
  | _ => none

/-- How a resumed step reads and writes the store. -/
inductive StoreUse (handler : Handler) (view : View) (call : Call) : Fate → Call → List Effect → Prop
  | saved {after held rest} : call.pending handler = some held → after.pending handler = none →
      (∀ effect ∈ rest, effect.saves = false) →
      StoreUse handler view call .ok after (.saveTask held.scope held.task held.write :: rest)
  | accepted {after stored task write} : view.load stored.id = some stored →
      stored.state.any terminalStateList.contains = false →
      (∀ latestUserMessage event, write ≠ .event latestUserMessage event) →
      write.apply (some stored) = some task → task.id = stored.id →
      after.pending handler = some ⟨handler.scope call.context, task, write⟩ →
      StoreUse handler view call .ok after []
  | merged {ref key event after task} : call.pc = .lock ref key → key.all view.holdsLock = true →
      ref.resolve view = some event → after.pc = .save ref key event →
      ResultManager.mergeInto call.resultManager.latestUserMessage
        (event.loads (event.target.bind view.load)) event = some task →
      event.target = some task.id →
      after.pending handler = some ⟨handler.scope call.context, task,
        .event call.resultManager.latestUserMessage event⟩ →
      StoreUse handler view call .ok after []
  | quiet {fate after effects} : after.pending handler = none →
      (∀ effect ∈ effects, effect.saves = false) → StoreUse handler view call fate after effects

end Call

namespace Pc

/-- The waits between a load and its save. -/
def saving : Pc → Bool
  | .saveHistory _ _ | .cancelSave _ | .save _ _ _ => true
  | _ => false

end Pc

namespace Call

variable {handler : Handler} {view : View} {pid : Pid} {fate : Fate} {call after : Call}
  {effects : List Effect}

theorem pending_none (calm : call.pc.saving = false) : call.pending handler = none := by
  cases counter : call.pc <;> simp_all [pending, Pc.saving]

theorem processed_saving (ref : EventRef) (event : AgentExecutionEvent) :
    (call.processed ref event).pc.saving = false := by
  cases ref <;> rfl

theorem acquire_quiet (key : Option String) :
    ∀ effect ∈ key.toList.map Effect.acquire, effect.saves = false := by
  cases key <;> simp [Effect.saves]

theorem release_quiet (key : Option String) :
    ∀ effect ∈ releaseEffects key, effect.saves = false := by
  cases key <;> simp [releaseEffects, Effect.saves]

theorem takeEvent_quiet {id : EventId} {event : AgentExecutionEvent}
    (took : call.takeEvent id event = (after, effects)) :
    after.pc.saving = false ∧ ∀ effect ∈ effects, effect.saves = false := by
  rcases takeEvent_cases took with ⟨target, rfl, rfl⟩ | ⟨taskId, target, rfl, rfl⟩
  · exact ⟨rfl, by simp⟩
  · exact ⟨rfl, acquire_quiet _⟩

theorem processingFailed_quiet {ref : EventRef} {error : String}
    (failed : call.processingFailed ref error = (after, effects)) :
    after.pc.saving = false ∧ ∀ effect ∈ effects, effect.saves = false := by
  rcases processingFailed_cases failed with ⟨counter, _, rfl, _⟩ | ⟨id, task, _, _, _, _, rfl, rfl⟩
  · exact ⟨by rw [counter]; rfl, by simp⟩
  · exact ⟨rfl, acquire_quiet _⟩

theorem joined_quiet {taskId : String} {bus : BusId} (joined : Joined view pid taskId bus effects) :
    ∀ effect ∈ effects, effect.saves = false := by
  cases joined <;> simp [Effect.saves]

theorem StoreUse.calm (calm : after.pc.saving = false)
    (quiet : ∀ effect ∈ effects, effect.saves = false) :
    StoreUse handler view call fate after effects :=
  .quiet (pending_none calm) quiet

theorem Resumed.storeUse (wellFormed : call.WellFormed)
    (keyed : ∀ taskId task, view.load taskId = some task → task.id = taskId)
    (resumed : Resumed handler view pid call fate after effects) :
    StoreUse handler view call fate after effects := by
  cases resumed with
  | answered prepares configures =>
      refine .calm rfl fun effect member => ?_
      have known := configures effect member
      cases effect <;> simp_all [Effect.configures, Effect.saves]
  | @taskAccepted message task loading loaded active =>
      have stored : view.load task.id = some task := by rw [keyed _ _ loaded, loaded]
      refine .accepted stored active ?_ ?_ ?_ rfl
      · simp
      · rfl
      · rfl
  | @historySaved message task saving =>
      have held : call.pending handler = some ⟨handler.scope call.context, appendHistory task message,
          .append message⟩ := by simp [pending, saving]
      refine .saved held (pending_none ?_) (by simp)
      simp only [resolveReferences]
      split <;> rfl
  | referenceLoaded =>
      refine .calm ?_ (by simp)
      dsimp only
      split <;> rfl
  | @contextBuilt _ _ _ _ extensions after effects loading created =>
      cases wellFormed.contextBuilt loading created with
      | configures => exact .calm rfl (by simp)
      | configuresStream _ joined => exact .calm rfl (joined_quiet joined)
      | runs joined => exact .calm rfl (joined_quiet joined)
  | configSaved => exact .calm rfl (by simp [Effect.saves])
  | configSavedFirst saving unqueued joined =>
      refine .calm rfl ?_
      rw [List.forall_mem_cons]
      exact ⟨rfl, joined_quiet (createOrGetBus_joined joined)⟩
  | loopEnded => exact .calm (by rw [leaveLoop_pc]; exact leftPc_of (Pc.saving · = false) rfl rfl call) (by simp)
  | forwarded => exact .calm (forward_pc (Pc.saving · = false) rfl rfl rfl _ rfl _ _ _) (by simp)
  | violated => exact .calm rfl (by simp)
  | taken _ _ _ _ _ _ took =>
      obtain ⟨calm, quiet⟩ := takeEvent_quiet took
      exact .calm calm quiet
  | lockFailed _ _ _ _ failed =>
      obtain ⟨calm, quiet⟩ := processingFailed_quiet failed
      exact .calm calm (List.forall_mem_append.mpr ⟨release_quiet _, quiet⟩)
  | @merged ref key event manager waiting holds resolved result =>
      obtain ⟨task, current, target⟩ := ResultManager.merge_saves result
      have merged := ResultManager.merge_saved result
      have kept : manager.latestUserMessage = call.resultManager.latestUserMessage := by
        have same := ResultManager.merge_latestUserMessage call.resultManager
          (if ResultManager.needsLoad event then event.target.bind view.load else none) event
        rwa [result] at same
      exact .merged waiting holds resolved rfl (merged.symm.trans current) target
        (by simp [pending, current, kept])
  | skipped => exact .calm (processed_saving _ _) (release_quiet _)
  | saveFailed _ _ failed =>
      obtain ⟨calm, quiet⟩ := processingFailed_quiet failed
      exact .calm calm (List.forall_mem_append.mpr ⟨release_quiet _, quiet⟩)
  | @saved ref key event task saving current =>
      have held : call.pending handler = some ⟨handler.scope call.context, task,
          .event call.resultManager.latestUserMessage event⟩ := by simp [pending, saving, current]
      exact .saved held (pending_none (processed_saving _ _)) (release_quiet _)
  | yielded =>
      refine .calm rfl ?_
      split <;> simp [Effect.saves]
  | mapped _ _ _ _ _ handedOut =>
      refine .calm (afterYield_pc (Pc.saving · = false) rfl rfl rfl _ _) ?_
      rcases handOutResults_cases handedOut with ⟨_, rfl⟩ | ⟨_, _, _, _, _, _, rfl | ⟨_, rfl⟩⟩ <;>
        simp [Effect.saves]
  | closed => exact .calm rfl (by simp)
  | continued => exact .calm rfl (by simp)
  | consumed => exact .calm (afterYield_pc (Pc.saving · = false) rfl rfl rfl _ _) (by simp)
  | cancelAttached => exact .calm rfl (by simp)
  | @cancelDirect task loading loaded active =>
      have stored : view.load task.id = some task := by rw [keyed _ _ loaded, loaded]
      refine .accepted stored active ?_ ?_ ?_ rfl
      · simp
      · rfl
      · rfl
  | cancelExecuted => exact .calm rfl (by simp)
  | @cancelSaved task saving =>
      have held : call.pending handler = some ⟨handler.scope call.context,
          cancelTask task (call.cancelStatus task), .cancel (call.cancelStatus task)⟩ := by
        simp [pending, saving]
      exact .saved held rfl (by simp)
  | resubscribeRefused => exact .calm rfl (by simp)
  | resubscribed => exact .calm rfl (by simp)
  | configTaskFound => exact .calm rfl (by simp)
  | misdirected applying => exact .calm (by simp [applying, Pc.saving]) (by simp)

/-- A call that holds a task saves it as soon as it goes on. -/
theorem Resumed.saves {held : Pending} (resumed : Resumed handler view pid call .ok after effects)
    (holds : call.pending handler = some held) :
    after.pending handler = none ∧ ∃ rest,
      effects = .saveTask held.scope held.task held.write :: rest ∧
        ∀ effect ∈ rest, effect.saves = false := by
  have idle : ∀ {pc : Pc}, call.pc = pc → pc.saving = false → False := by
    rintro pc counter calm
    rw [← counter] at calm
    cases (pending_none calm).symm.trans holds
  cases resumed with
  | answered prepares _ apart =>
      have proceeds := apart rfl
      cases counter : call.pc <;> simp_all [Pc.preparing, Pc.proceeds, pending]
  | @historySaved message task saving =>
      rw [pending, saving] at holds
      cases holds
      refine ⟨pending_none ?_, [], rfl, by simp⟩
      simp only [resolveReferences]
      split <;> rfl
  | @cancelSaved task saving =>
      rw [pending, saving] at holds
      cases holds
      exact ⟨rfl, [], rfl, by simp⟩
  | @saved ref key event task saving current =>
      simp only [pending, saving, current, Option.map_some, Option.some.injEq] at holds
      subst holds
      exact ⟨pending_none (processed_saving _ _), _, rfl, release_quiet _⟩
  | taskAccepted counter | referenceLoaded counter | contextBuilt counter | configSaved counter
  | configSavedFirst counter | loopEnded counter | forwarded counter | violated counter
  | taken counter | merged counter | skipped counter | yielded counter | mapped counter
  | closed counter | continued counter | consumed counter | cancelAttached counter
  | cancelDirect counter | cancelExecuted counter | resubscribeRefused counter
  | resubscribed counter | configTaskFound counter | misdirected counter =>
      exact (idle counter rfl).elim

/-- The listeners leave what is in the call's hands alone. -/
theorem Overheard.pending (overheard : Overheard call after) (handler : Handler) :
    after.pending handler = call.pending handler := by
  simp only [Call.pending, overheard.pc, overheard.resultManager, cancelStatus, overheard.fresh,
    overheard.context]

theorem begin_pending (request : Request) (context : ServerCallContext)
    (requestedExtensions : Option (List String)) (fresh : Fresh) :
    (handler.begin view request context requestedExtensions fresh).pending handler = none := by
  refine pending_none ?_
  have begun := @begin_cases handler view request context requestedExtensions fresh
  generalize handler.begin view request context requestedExtensions fresh = call at begun ⊢
  cases begun with
  | starts =>
      simp only [resolveReferences]
      split <;> rfl
  | loads counter => rcases counter with rfl | rfl | rfl | rfl <;> rfl
  | _ => rfl

end Call

namespace State

def pending (handler : Handler) (state : State) (pid : Pid) : Option Pending :=
  (state.calls pid).bind (Call.pending handler)

/-- What a step does to the rows and to the tasks in the calls' hands: the stepping call
saves what it holds, takes a task in hand, or does neither. -/
inductive RowStep (handler : Handler) (state : State) (label : Label) (next : State) : Prop
  | saved {held} : label.action = .resume .ok → state.pending handler label.pid = some held →
      next.pending handler label.pid = none →
      next.taskStore = state.taskStore.save held.scope held.task →
      next.writes = state.writes ++ [⟨label.pid, held.scope, held.task.id, held.write⟩] →
      RowStep handler state label next
  | accepted {scope stored task write} : label.action = .resume .ok →
      state.row scope stored.id = some stored →
      stored.state.any terminalStateList.contains = false →
      (∀ latestUserMessage event, write ≠ .event latestUserMessage event) →
      write.apply (some stored) = some task → task.id = stored.id →
      next.pending handler label.pid = some ⟨scope, task, write⟩ →
      next.taskStore = state.taskStore → next.writes = state.writes →
      RowStep handler state label next
  | merged {call ref key event task} : label.action = .resume .ok →
      state.calls label.pid = some call → call.pc = .lock ref key →
      key.all (state.view label.pid (handler.scope call.context)).holdsLock = true →
      ref.resolve (state.view label.pid (handler.scope call.context)) = some event →
      ResultManager.mergeInto call.resultManager.latestUserMessage
        (event.loads (state.row (handler.scope call.context) task.id)) event = some task →
      event.target = some task.id →
      next.pending handler label.pid = some ⟨handler.scope call.context, task,
        .event call.resultManager.latestUserMessage event⟩ →
      next.taskStore = state.taskStore → next.writes = state.writes →
      RowStep handler state label next
  | quiet : next.pending handler label.pid = none ∨
        next.pending handler label.pid = state.pending handler label.pid →
      next.taskStore = state.taskStore → next.writes = state.writes →
      RowStep handler state label next

variable {handler : Handler} {state next : State} {label : Label} {pid other : Pid}
  {call after : Call} {effects : List Effect}

theorem row_id {scope : Scope} {taskId : String} {task : Task}
    (stored : state.row scope taskId = some task) : task.id = taskId :=
  InMemoryTaskStore.load_id stored

/-- Where a row comes from after a save. -/
theorem row_saved {held : Pending} {scope : Scope} {taskId : String}
    (store : next.taskStore = state.taskStore.save held.scope held.task) :
    next.row scope taskId =
      if held.scope = scope ∧ held.task.id = taskId then some held.task
      else state.row scope taskId := by
  rw [row, store, InMemoryTaskStore.load_save]
  rfl

theorem row_kept {scope : Scope} {taskId : String} (store : next.taskStore = state.taskStore) :
    next.row scope taskId = state.row scope taskId := by
  rw [row, store]
  rfl

theorem foldl_pending (handler : Handler) (other : Pid) :
    (effects.foldl (apply pid) state).pending handler other = state.pending handler other := by
  induction effects generalizing state with
  | nil => rfl
  | cons effect rest ih =>
      rw [List.foldl_cons, ih]
      simp only [pending, apply_calls]
      cases found : state.calls other with
      | none => rfl
      | some call => exact (Call.listen_overheard _ effect).pending handler

theorem commit_pending_self :
    (state.commit pid (call, effects)).pending handler pid = call.pending handler := by
  rw [commit, foldl_pending]
  simp [pending]

theorem commit_pending_of_ne (differ : other ≠ pid) :
    (state.commit pid (call, effects)).pending handler other = state.pending handler other := by
  rw [commit, foldl_pending]
  simp [pending, setCall_of_ne differ]

/-- A call's hands are its own. -/
theorem pending_step_of_ne (stepped : state.step handler label = some next)
    (differ : other ≠ label.pid) : next.pending handler other = state.pending handler other := by
  obtain ⟨after, effects, _, rfl⟩ := step_cases stepped
  exact commit_pending_of_ne differ

theorem commit_taskStore_quiet (quiet : ∀ effect ∈ effects, effect.saves = false) :
    (state.commit pid (call, effects)).taskStore = state.taskStore ∧
      (state.commit pid (call, effects)).writes = state.writes :=
  foldl_taskStore quiet

theorem rowStep (wellFormed : state.WellFormed) (stepped : state.step handler label = some next) :
    RowStep handler state label next := by
  obtain ⟨after, effects, steppedTo, rfl⟩ := step_cases stepped
  have own : (state.commit label.pid (after, effects)).pending handler label.pid =
      after.pending handler := commit_pending_self
  cases steppedTo with
  | begun new =>
      exact .quiet (.inl (own.trans (Call.begin_pending _ _ _ _))) rfl rfl
  | @resumed pid call fate after effects found resumed =>
      have held : state.pending handler pid = call.pending handler := by simp [pending, found]
      have keyed : ∀ taskId task,
          (state.view pid (handler.scope call.context)).load taskId = some task → task.id = taskId :=
        fun taskId task stored => row_id stored
      cases (Call.resume_cases resumed).storeUse (wellFormed pid call found) keyed with
      | saved holds freed quiet =>
          refine .saved rfl (held.trans holds) (own.trans freed) ?_ ?_
          · exact (foldl_taskStore quiet).1
          · exact (foldl_taskStore quiet).2
      | accepted stored active plain applied same holds =>
          exact .accepted rfl stored active plain applied same (own.trans holds) rfl rfl
      | @merged ref key event _ task waiting holdsLock resolved saving merges target holds =>
          refine .merged rfl found waiting holdsLock resolved ?_ target (own.trans holds) rfl rfl
          rw [target] at merges
          exact merges
      | quiet calm quiet =>
          obtain ⟨store, writes⟩ := commit_taskStore_quiet quiet
          exact .quiet (.inl (own.trans calm)) store writes
  | @published pid _ bus id event found =>
      exact .quiet (.inr (own.trans (by simp [pending, found]))) rfl rfl
  | @finishedBus pid _ bus found =>
      exact .quiet (.inr (own.trans (by simp [pending, found]))) rfl rfl
  | @executorReturned pid call execution found =>
      exact .quiet (.inr (own.trans (by simp only [pending, found]; rfl))) rfl rfl
  | @executorThrew pid call execution message found =>
      exact .quiet (.inr (own.trans (by simp only [pending, found]; rfl))) rfl rfl
  | @reaped pid call execution fresh changed effects found _ _ _ _ reaped =>
      have quiet : ∀ effect ∈ effects, effect.saves = false := by
        cases Execution.reap_cases reaped with
        | failed | streamFailed =>
            intro effect member
            obtain ⟨entry, _, rfl⟩ := List.mem_map.mp member
            rfl
        | keptAlive => simp
        | closed => simp [Effect.saves]
      obtain ⟨store, writes⟩ := commit_taskStore_quiet quiet
      exact .quiet (.inr (own.trans (by simp only [pending, found]; rfl))) store writes
  | @abandoned pid call _ found abandoned =>
      refine .quiet (.inl (own.trans (Call.pending_none ?_))) rfl rfl
      obtain ⟨_, _, rfl⟩ := Call.abandon_cases abandoned
      rfl

/-- A call that holds a task and goes on has saved it. -/
theorem pending_saves {held : Pending} (stepped : state.step handler label = some next)
    (resumed : label.action = .resume .ok) (holds : state.pending handler label.pid = some held) :
    next.pending handler label.pid = none ∧
      next.taskStore = state.taskStore.save held.scope held.task ∧
      next.writes = state.writes ++ [⟨label.pid, held.scope, held.task.id, held.write⟩] := by
  obtain ⟨after, effects, steppedTo, rfl⟩ := step_cases stepped
  cases steppedTo with
  | @resumed pid call fate after effects found resumedTo =>
      cases resumed
      have own : call.pending handler = some held := by simpa [pending, found] using holds
      obtain ⟨freed, rest, rfl, quiet⟩ := (Call.resume_cases resumedTo).saves own
      exact ⟨commit_pending_self.trans freed, (foldl_taskStore quiet).1, (foldl_taskStore quiet).2⟩
  | _ => cases resumed

/-- Any other step leaves the store alone. -/
theorem store_kept (wellFormed : state.WellFormed) (stepped : state.step handler label = some next)
    (empty : label.action = .resume .ok → state.pending handler label.pid = none) :
    next.taskStore = state.taskStore ∧ next.writes = state.writes := by
  cases rowStep wellFormed stepped with
  | saved resumed holds => cases (empty resumed).symm.trans holds
  | accepted _ _ _ _ _ _ _ store writes => exact ⟨store, writes⟩
  | merged _ _ _ _ _ _ _ _ store writes => exact ⟨store, writes⟩
  | quiet _ store writes => exact ⟨store, writes⟩

end State

end A2A.Server
