import A2A.Server.Scenario
import A2A.Server.Semantics.Rows

namespace A2A.Server

open Library

/-! The message ids of a stored history.

Five places extend a history.  The three of `ResultManager` and the synthetic
error task look for the id first; the append of `_createRequestContext` and the
one of `cancelTask` do not.
-/

/-- No two messages of the history have the same id. -/
def UniqueMessages (task : Task) : Prop := (task.history.map Message.messageId).Nodup

def AgentExecutionEvent.UniqueMessages : AgentExecutionEvent → Prop
  | .task data => Server.UniqueMessages data
  | .message _ | .statusUpdate _ | .artifactUpdate _ => True

def Effect.CarriesUnique : Effect → Prop
  | .saveTask _ task _ => UniqueMessages task
  | .publish _ _ event => event.UniqueMessages
  | _ => True

section

variable {task : Task} {message : Message}

theorem mem_ids_of_hasMessage {history : List Message} {messageId : String}
    (absent : hasMessage history messageId = false) : messageId ∉ history.map Message.messageId := by
  intro member
  obtain ⟨message, present, same⟩ := List.mem_map.mp member
  simp only [hasMessage, List.any_eq_false, decide_eq_true_eq] at absent
  exact absent message present same

theorem UniqueMessages.append (unique : UniqueMessages task)
    (absent : hasMessage task.history message.messageId = false) :
    ((task.history ++ [message]).map Message.messageId).Nodup := by
  rw [List.map_append, List.nodup_append]
  refine ⟨unique, List.nodup_singleton _, ?_⟩
  rintro messageId member other ⟨⟩ rfl
  · exact mem_ids_of_hasMessage absent member
  · contradiction

theorem UniqueMessages.prependUserMessage (unique : UniqueMessages task)
    (latestUserMessage : Option Message) :
    UniqueMessages (prependUserMessage latestUserMessage task) := by
  simp only [Server.prependUserMessage]
  split
  · exact unique
  · rename_i latest
    split
    · exact unique
    · rename_i absent
      exact List.nodup_cons.mpr ⟨mem_ids_of_hasMessage (by simpa using absent), unique⟩

/-- A merged task event has the persisted history or its own. -/
theorem mergeTaskEvent_unique {latestUserMessage : Option Message} {loaded : Option Task}
    {data : Task} (stored : ∀ task, loaded = some task → UniqueMessages task)
    (unique : UniqueMessages data) :
    UniqueMessages (mergeTaskEvent latestUserMessage loaded data) := by
  refine UniqueMessages.prependUserMessage ?_ latestUserMessage
  split
  · rename_i persisted
    split
    · simp only [UniqueMessages, mergePersisted]
      split
      · exact stored persisted rfl
      · exact unique
    · exact unique
  · exact unique

theorem mergeStatusUpdate_unique (unique : UniqueMessages task) (data : TaskStatusUpdateEvent) :
    UniqueMessages (mergeStatusUpdate task data) := by
  simp only [UniqueMessages, mergeStatusUpdate]
  split
  · exact unique
  · split
    · exact unique
    · rename_i absent
      exact unique.append (by simpa using absent)

theorem mergeInto_unique {latestUserMessage : Option Message} {loaded : Option Task}
    {event : AgentExecutionEvent} (stored : ∀ task, loaded = some task → UniqueMessages task)
    (unique : event.UniqueMessages)
    (merged : ResultManager.mergeInto latestUserMessage loaded event = some task) :
    UniqueMessages task := by
  cases event with
  | message data => cases merged
  | task data =>
      cases merged
      exact mergeTaskEvent_unique stored unique
  | statusUpdate data =>
      obtain ⟨row, rfl, kept⟩ := Option.bind_eq_some_iff.mp merged
      split at kept
      · cases kept
        exact mergeStatusUpdate_unique (stored row rfl) data
      · cases kept
  | artifactUpdate data =>
      obtain ⟨artifact, _, named⟩ := Option.bind_eq_some_iff.mp merged
      obtain ⟨row, rfl, kept⟩ := Option.bind_eq_some_iff.mp named
      split at kept
      · cases kept
        exact stored row rfl
      · cases kept

theorem applyHistoryLengthSemantics_unique (unique : UniqueMessages task)
    (historyLength : Option Int) :
    UniqueMessages (applyHistoryLengthSemantics historyLength task) := by
  simp only [applyHistoryLengthSemantics]
  split
  · exact unique
  · split
    · exact List.nodup_nil
    · exact ((List.drop_sublist _ _).map _).nodup unique

theorem AgentExecutionEvent.UniqueMessages.trim {event : AgentExecutionEvent}
    (unique : event.UniqueMessages) (historyLength : Option Int) :
    (event.trim historyLength).UniqueMessages := by
  cases event with
  | task data => exact applyHistoryLengthSemantics_unique unique historyLength
  | _ => trivial

/-- The synthetic task appends the request's message only when it is not there yet. -/
theorem errorTask_unique {execution : Execution} {current : Option Task}
    (errorMessage messageUuid timestamp : String)
    (unique : ∀ task, current = some task → UniqueMessages task) :
    UniqueMessages (execution.errorTask current errorMessage messageUuid timestamp) := by
  cases current with
  | none => simp [UniqueMessages, Execution.errorTask, hasMessage]
  | some task =>
      simp only [UniqueMessages, Execution.errorTask, Option.map_some, Option.getD_some]
      split
      · exact unique task rfl
      · rename_i absent
        exact (unique task rfl).append (by simpa using absent)

end

/-- The tasks an await keeps for later. -/
def Pc.tasks : Pc → List Task
  | .saveHistory _ task | .cancelSave task => [task]
  | .loadReferences _ task _ _ _ | .getAgentCard _ task _ _ => task.toList
  | .savePushConfig requestContext _ => requestContext.task.toList
  | _ => []

/-- The await keeps no task, and no merge is under way that did not come from a bus. -/
def Pc.carriesNothing : Pc → Bool
  | .saveHistory _ _ | .cancelSave _ | .loadReferences _ _ _ _ _ | .getAgentCard _ _ _ _
  | .savePushConfig _ _ | .save _ _ _ | .lock (.own _) _ => false
  | _ => true

namespace Call

structure KeepsUnique (call : Call) : Prop where
  waiting : ∀ task ∈ call.pc.tasks, UniqueMessages task
  started : ∀ execution, call.execution = some execution →
    ∀ task, execution.requestContext.task = some task → UniqueMessages task
  saving : ∀ ref key event, call.pc = .save ref key event →
    ∀ task, call.resultManager.currentTask = some task → UniqueMessages task
  own : ∀ event key, call.pc = .lock (.own event) key → event.UniqueMessages

/-- What a step may read has unique ids. -/
structure ReadsUnique (view : View) : Prop where
  rows : ∀ taskId task, view.load taskId = some task → UniqueMessages task
  events : ∀ id event, view.event id = some event → event.UniqueMessages

variable {handler : Handler} {view : View} {pid : Pid} {fate : Fate} {call after : Call}
  {effects : List Effect}

/-- The message about to be appended is in the loaded history already. -/
def appendsDuplicate (call : Call) : Bool :=
  match call.pc with
  | .saveHistory message task => hasMessage task.history message.messageId
  | .cancelSave task => hasMessage task.history call.fresh.messageUuid
  | _ => false

theorem KeepsUnique.moved (keeps : call.KeepsUnique) (execution : after.execution = call.execution)
    (counter : after.pc.carriesNothing = true) : after.KeepsUnique where
  waiting task member := by
    cases waits : after.pc <;> simp_all [Pc.tasks, Pc.carriesNothing]
  started other executing := keeps.started other (execution ▸ executing)
  saving ref key event saves := by simp [saves, Pc.carriesNothing] at counter
  own event key waits := by simp [waits, Pc.carriesNothing] at counter

theorem KeepsUnique.holds {counter : Pc} (keeps : call.KeepsUnique)
    (tasks : ∀ task ∈ counter.tasks, UniqueMessages task)
    (calm : ∀ ref key event, counter ≠ .save ref key event)
    (idle : ∀ event key, counter ≠ .lock (.own event) key) :
    ({ call with pc := counter }).KeepsUnique where
  waiting := tasks
  started := keeps.started
  saving ref key event saves := absurd saves (calm ref key event)
  own event key waits := absurd waits (idle event key)

theorem KeepsUnique.startsExecutor {requestContext : RequestContext} {bus : BusId}
    (unique : ∀ task, requestContext.task = some task → UniqueMessages task) :
    (call.runExecutor bus requestContext).KeepsUnique where
  waiting := by simp [runExecutor, Pc.tasks]
  started execution executing := by
    cases executing
    exact unique
  saving := by simp [runExecutor]
  own := by simp [runExecutor]

theorem appended_unique {message : Message} {task : Task} (unique : UniqueMessages task)
    (absent : hasMessage task.history message.messageId = false) :
    UniqueMessages (appendHistory task message) := unique.append absent

theorem KeepsUnique.takeEvent {id : EventId} {event : AgentExecutionEvent}
    (keeps : call.KeepsUnique) (took : call.takeEvent id event = (after, effects)) :
    after.KeepsUnique ∧ ∀ effect ∈ effects, effect.CarriesUnique := by
  rcases Call.takeEvent_cases took with ⟨target, rfl, rfl⟩ | ⟨taskId, target, rfl, rfl⟩
  · exact ⟨keeps.moved rfl rfl, by simp⟩
  · exact ⟨keeps.moved rfl rfl, by simp [Effect.CarriesUnique]⟩

theorem KeepsUnique.processed (keeps : call.KeepsUnique) (ref : EventRef)
    (event : AgentExecutionEvent) : (call.processed ref event).KeepsUnique := by
  cases ref with
  | published id => exact keeps.moved rfl rfl
  | own failure => exact keeps.moved rfl rfl

theorem release_unique (key : Option String) :
    ∀ effect ∈ releaseEffects key, effect.CarriesUnique := by
  cases key <;> simp [releaseEffects, Effect.CarriesUnique]

theorem KeepsUnique.processingFailed {ref : EventRef} {error : String} (keeps : call.KeepsUnique)
    (failed : call.processingFailed ref error = (after, effects)) :
    after.KeepsUnique ∧ ∀ effect ∈ effects, effect.CarriesUnique := by
  rcases processingFailed_cases failed with ⟨counter, frame, rfl, _⟩ | ⟨id, task, _, _, _, _, rfl, rfl⟩
  · exact ⟨keeps.moved frame.execution (by rw [counter]; rfl), by simp⟩
  · refine ⟨⟨by simp [Pc.tasks], keeps.started, by simp, ?_⟩, by simp [Effect.CarriesUnique]⟩
    rintro event key ⟨⟩
    trivial

theorem KeepsUnique.contextCreated {requestContext : RequestContext} (keeps : call.KeepsUnique)
    (unique : ∀ task, requestContext.task = some task → UniqueMessages task)
    (created : ContextCreated view pid call requestContext after effects) :
    after.KeepsUnique ∧ ∀ effect ∈ effects, effect.CarriesUnique := by
  have quiet : ∀ {taskId : String} {bus : BusId} {effects : List Effect},
      Joined view pid taskId bus effects → ∀ effect ∈ effects, effect.CarriesUnique := by
    intro taskId bus effects joined
    cases joined <;> simp [Effect.CarriesUnique]
  have tasks : ∀ config, ∀ task ∈ (Pc.savePushConfig requestContext config).tasks,
      UniqueMessages task := fun config => by simpa [Pc.tasks] using unique
  cases created with
  | configures => exact ⟨keeps.holds (tasks _) (by simp) (by simp), by simp⟩
  | configuresStream _ joined =>
      exact ⟨⟨tasks _, keeps.started, by simp, by simp⟩, quiet joined⟩
  | runs joined => exact ⟨.startsExecutor unique, quiet joined⟩

/-- A resumed call keeps and saves only tasks with unique ids, unless it appends a message that
is there already. -/
theorem Resumed.keepsUnique (wellFormed : call.WellFormed) (keeps : call.KeepsUnique)
    (reads : ReadsUnique view) (resumed : Resumed handler view pid call fate after effects)
    (guarded : fate = .ok → call.appendsDuplicate = false) :
    after.KeepsUnique ∧ ∀ effect ∈ effects, effect.CarriesUnique := by
  cases resumed with
  | answered _ configures =>
      refine ⟨keeps.moved rfl rfl, fun effect member => ?_⟩
      have kind := configures effect member
      cases effect <;> simp [Effect.configures, Effect.CarriesUnique] at kind ⊢
  | taskAccepted loading loaded =>
      refine ⟨keeps.holds ?_ (by simp) (by simp), by simp⟩
      simpa [Pc.tasks] using reads.rows _ _ loaded
  | @historySaved message task saving =>
      have unique : UniqueMessages (appendHistory task message) := by
        refine appended_unique (keeps.waiting task (by simp [saving, Pc.tasks])) ?_
        simpa [appendsDuplicate, saving] using guarded rfl
      refine ⟨?_, by simpa [Effect.CarriesUnique] using unique⟩
      simp only [resolveReferences]
      split <;> exact keeps.holds (by simpa [Pc.tasks] using unique) (by simp) (by simp)
  | @referenceLoaded message task taskId reference pending loaded found loading =>
      have unique := keeps.waiting
      rw [loading] at unique
      refine ⟨?_, by simp⟩
      split <;> exact keeps.holds unique (by simp) (by simp)
  | @contextBuilt message task taskId referenceTasks extensions after effects loading created =>
      have unique := keeps.waiting
      rw [loading] at unique
      have extended : ({ call with requestedExtensions := extensions }).KeepsUnique :=
        ⟨keeps.waiting, keeps.started, keeps.saving, keeps.own⟩
      refine extended.contextCreated (fun task current => unique task ?_)
        (wellFormed.contextBuilt loading created)
      simpa [Pc.tasks, builtContext] using current
  | @configSaved requestContext config queue saving =>
      have unique := keeps.waiting
      rw [saving] at unique
      exact ⟨.startsExecutor (by simpa [Pc.tasks] using unique), by simp [Effect.CarriesUnique]⟩
  | @configSavedFirst requestContext config bus effects saving _ joined =>
      have unique := keeps.waiting
      rw [saving] at unique
      refine ⟨.startsExecutor (by simpa [Pc.tasks] using unique), ?_⟩
      cases createOrGetBus_joined joined <;> simp [Effect.CarriesUnique]
  | loopEnded =>
      refine ⟨keeps.moved leaveLoop_frame.execution ?_, by simp⟩
      rw [leaveLoop_pc]
      exact leftPc_of (Pc.carriesNothing · = true) rfl rfl call
  | @forwarded queue id rest event taskId =>
      refine ⟨keeps.moved (forward_frame _ _ _ _).execution ?_, by simp⟩
      exact forward_pc (Pc.carriesNothing · = true) rfl rfl rfl _ rfl _ _ _
  | violated => exact ⟨keeps.moved rfl rfl, by simp⟩
  | @taken queue _ rest _ pattern _ _ pulling _ _ _ _ _ took =>
      have shifted : ({ call.shifted queue rest with streamPattern := pattern }).KeepsUnique :=
        keeps.moved rfl (by simp [shifted, pulling, Pc.carriesNothing])
      exact shifted.takeEvent took
  | lockFailed _ _ _ _ failed =>
      obtain ⟨kept, quiet⟩ := keeps.processingFailed failed
      exact ⟨kept, List.forall_mem_append.mpr ⟨release_unique _, quiet⟩⟩
  | @merged ref key event manager waiting _ resolved result =>
      have known : event.UniqueMessages := by
        cases ref with
        | published id => exact reads.events id event resolved
        | own failure =>
            cases resolved
            exact keeps.own event key waiting
      refine ⟨⟨by simp [Pc.tasks], keeps.started, ?_, by simp⟩, by simp⟩
      intro _ _ _ _ task current
      rw [ResultManager.merge_saved result] at current
      refine mergeInto_unique (fun stored loaded => ?_) known current
      split at loaded
      · obtain ⟨taskId, _, found⟩ := Option.bind_eq_some_iff.mp loaded
        exact reads.rows taskId stored found
      · cases loaded
  | @skipped ref key event manager waiting =>
      refine ⟨?_, release_unique _⟩
      cases ref with
      | published id => exact keeps.moved rfl rfl
      | own failure => exact keeps.moved rfl rfl
  | saveFailed _ _ failed =>
      obtain ⟨kept, quiet⟩ := keeps.processingFailed failed
      exact ⟨kept, List.forall_mem_append.mpr ⟨release_unique _, quiet⟩⟩
  | @saved ref key event task saving current =>
      refine ⟨keeps.processed _ _, List.forall_mem_cons.mpr ⟨?_, release_unique _⟩⟩
      exact keeps.saving ref key event saving task current
  | yielded =>
      refine ⟨keeps.moved ?_ rfl, ?_⟩
      · exact (notify_frame _ _ _).execution
      · split <;> simp [Effect.CarriesUnique]
  | mapped _ _ _ _ _ handedOut =>
      refine ⟨keeps.moved ?_ ?_, ?_⟩
      · exact (afterYield_frame _).execution.trans ((handOutResults_frame handedOut).execution.trans
          (notify_frame _ _ _).execution)
      · exact afterYield_pc (Pc.carriesNothing · = true) rfl rfl rfl _ _
      · rcases handOutResults_cases handedOut with ⟨_, rfl⟩ | ⟨_, _, _, _, _, _, rfl | ⟨_, rfl⟩⟩ <;>
          simp [Effect.CarriesUnique]
  | closed => exact ⟨keeps.moved rfl rfl, by simp⟩
  | continued => exact ⟨keeps.moved rfl rfl, by simp⟩
  | consumed =>
      refine ⟨keeps.moved (afterYield_frame _).execution ?_, by simp⟩
      exact afterYield_pc (Pc.carriesNothing · = true) rfl rfl rfl _ _
  | cancelAttached => exact ⟨keeps.moved rfl rfl, by simp⟩
  | cancelDirect _ loaded =>
      refine ⟨keeps.holds ?_ (by simp) (by simp), by simp⟩
      simpa [Pc.tasks] using reads.rows _ _ loaded
  | cancelExecuted => exact ⟨keeps.moved rfl rfl, by simp⟩
  | @cancelSaved task saving =>
      refine ⟨keeps.moved rfl rfl, ?_⟩
      have unique : UniqueMessages task := keeps.waiting task (by simp [saving, Pc.tasks])
      have absent : hasMessage task.history call.fresh.messageUuid = false := by
        simpa [appendsDuplicate, saving] using guarded rfl
      have cancelled : UniqueMessages (cancelTask task (call.cancelStatus task)) :=
        unique.append absent
      simpa [Effect.CarriesUnique] using cancelled
  | resubscribeRefused => exact ⟨keeps.moved rfl rfl, by simp⟩
  | resubscribed => exact ⟨keeps.moved rfl rfl, by simp⟩
  | configTaskFound => exact ⟨keeps.moved rfl rfl, by simp⟩
  | misdirected => exact ⟨keeps, by simp⟩

theorem blank_keepsUnique (request : Request) (context : ServerCallContext)
    (requestedExtensions : Option (List String)) (fresh : Fresh) :
    (blank request context requestedExtensions fresh).KeepsUnique where
  waiting := by simp [blank, Pc.tasks]
  started := by simp [blank]
  saving := by simp [blank]
  own := by simp [blank]

theorem Begun.keepsUnique (begun : Begun view call after) (keeps : call.KeepsUnique) :
    after.KeepsUnique := by
  cases begun with
  | @starts message =>
      have prepared : ({ call with
          resultManager := call.resultManager.setContext message
          pc := .finished }).KeepsUnique := keeps.moved rfl rfl
      simp only [resolveReferences]
      split <;> exact prepared.holds (by simp [Pc.tasks]) (by simp) (by simp)
  | loads counter => rcases counter with rfl | rfl | rfl | rfl <;> exact keeps.moved rfl rfl
  | refused | follows | subscribes | idles => exact keeps.moved rfl rfl

/-- A listener changes none of the tasks a call keeps. -/
theorem KeepsUnique.heard (keeps : call.KeepsUnique) (taskIdToBus : String → Option BusId)
    (effect : Effect) : (effect.listen taskIdToBus call).KeepsUnique := by
  have overheard := @listen_overheard call taskIdToBus effect
  refine ⟨by rw [overheard.pc]; exact keeps.waiting, fun execution executing task current => ?_,
    by rw [overheard.pc, overheard.resultManager]; exact keeps.saving,
    by rw [overheard.pc]; exact keeps.own⟩
  obtain ⟨earlier, found, same, _⟩ := overheard.executed executing
  exact keeps.started earlier found task (same ▸ current)

end Call

/-- Every published failure task has unique ids. -/
theorem Execution.reap_unique {keepBusAliveStates : List TaskState} {streaming : Bool}
    {execution after : Execution} {current : Option Task} {fresh : FailureFresh} {effects : List Effect}
    (unique : ∀ task, current = some task → UniqueMessages task)
    (reaped : execution.reap keepBusAliveStates streaming current fresh = some (after, effects)) :
    after.requestContext = execution.requestContext ∧
      ∀ effect ∈ effects, effect.CarriesUnique := by
  have task := fun errorMessage => @errorTask_unique execution current errorMessage fresh.taskMessageUuid
    fresh.taskTimestamp unique
  cases Execution.reap_cases reaped with
  | @failed errorMessage =>
      refine ⟨rfl, ?_⟩
      simpa [Execution.publishAll, Execution.failureEvents, Effect.CarriesUnique,
        AgentExecutionEvent.UniqueMessages] using task errorMessage
  | @streamFailed errorMessage =>
      refine ⟨rfl, ?_⟩
      simp only [Execution.publishAll, Execution.streamFailureEvents]
      split
      · simp [Effect.CarriesUnique, AgentExecutionEvent.UniqueMessages]
      · simpa [Effect.CarriesUnique, AgentExecutionEvent.UniqueMessages] using task errorMessage
  | keptAlive => exact ⟨rfl, by simp⟩
  | closed => exact ⟨rfl, by simp [Effect.CarriesUnique]⟩

/-- The executor publishes a task with a repeated message id. -/
def PublishesDuplicate (label : Label) : Prop :=
  ∃ id data, label.action = .publish id (.task data) ∧ ¬ UniqueMessages data

/-- A follow-up's message, or the one of a cancellation, is saved into a history that has its
id already. -/
def AppendsDuplicate (state : State) (label : Label) : Prop :=
  ∃ call, state.calls label.pid = some call ∧ label.action = .resume .ok ∧
    call.appendsDuplicate = true

namespace State

variable {handler : Handler} {state next : State} {label : Label} {pid : Pid} {call after : Call}
  {effects : List Effect}

structure KeepsUnique (state : State) : Prop where
  rows : ∀ scope taskId task, state.row scope taskId = some task → UniqueMessages task
  events : ∀ id event, state.events id = some event → event.UniqueMessages
  calls : ∀ pid call, state.calls pid = some call → call.KeepsUnique

/-- The truncation of a published task leaves its ids unique, also in the request's context. -/
theorem KeepsUnique.contextTask {execution : Execution} (keeps : state.KeepsUnique)
    (started : ∀ task, execution.requestContext.task = some task → UniqueMessages task) :
    ∀ task, state.contextTask pid execution = some task → UniqueMessages task := by
  intro task current
  simp only [State.contextTask] at current
  split at current
  · rename_i data known
    cases current
    exact keeps.events _ _ known
  · exact started task current

/-- The rows and the events, without the calls. -/
def StoresUnique (state : State) : Prop :=
  (∀ scope taskId task, state.row scope taskId = some task → UniqueMessages task) ∧
    ∀ id event, state.events id = some event → event.UniqueMessages

theorem apply_storesUnique {effect : Effect} (stores : state.StoresUnique)
    (carries : effect.CarriesUnique) : (state.apply pid effect).StoresUnique := by
  obtain ⟨rows, events⟩ := stores
  cases effect with
  | saveTask scope task write =>
      refine ⟨fun other taskId stored found => ?_, events⟩
      simp only [row, apply, InMemoryTaskStore.load_save] at found
      split at found
      · cases found
        exact carries
      · exact rows other taskId stored found
  | publish bus id event =>
      refine ⟨rows, fun other known found => ?_⟩
      simp only [apply, Function.update_apply] at found
      split at found
      · cases found
        exact carries
      · exact events other known found
  | trim id historyLength =>
      refine ⟨rows, fun other known found => ?_⟩
      simp only [apply, Function.update_apply] at found
      split at found
      · obtain ⟨event, before, rfl⟩ := Option.map_eq_some_iff.mp found
        exact (events id event before).trim historyLength
      · exact events other known found
  | cleanup taskId =>
      simp only [apply]
      cases state.taskIdToBus taskId <;> exact ⟨rows, events⟩
  | _ => exact ⟨rows, events⟩

theorem foldl_storesUnique (stores : state.StoresUnique)
    (carries : ∀ effect ∈ effects, effect.CarriesUnique) :
    (effects.foldl (apply pid) state).StoresUnique := by
  induction effects generalizing state with
  | nil => exact stores
  | cons effect rest ih =>
      rw [List.forall_mem_cons] at carries
      exact ih (apply_storesUnique stores carries.1) carries.2

theorem stepped_keepsUnique (wellFormed : state.WellFormed) (keeps : state.KeepsUnique)
    (published : ¬ PublishesDuplicate label) (appended : ¬ AppendsDuplicate state label)
    (stepped : Stepped handler state label after effects) :
    after.KeepsUnique ∧ ∀ effect ∈ effects, effect.CarriesUnique := by
  cases stepped with
  | begun => exact ⟨(Call.begin_cases _ _ _ _).keepsUnique (Call.blank_keepsUnique _ _ _ _), by simp⟩
  | @resumed pid call fate after effects found resumed =>
      refine (Call.resume_cases resumed).keepsUnique (wellFormed pid call found)
        (keeps.calls pid call found) ⟨keeps.rows _, keeps.events⟩ fun succeeded => ?_
      subst succeeded
      by_contra duplicate
      exact appended ⟨call, found, rfl, by simpa using duplicate⟩
  | @published pid _ bus id event found =>
      refine ⟨keeps.calls pid _ found, ?_⟩
      cases event with
      | task data =>
          have unique : UniqueMessages data := by
            by_contra repeated
            exact published ⟨id, data, rfl, repeated⟩
          simpa [Effect.CarriesUnique, AgentExecutionEvent.UniqueMessages] using unique
      | _ => simp [Effect.CarriesUnique, AgentExecutionEvent.UniqueMessages]
  | finishedBus found => exact ⟨keeps.calls _ _ found, by simp [Effect.CarriesUnique]⟩
  | executorReturned found executing | executorThrew found executing =>
      have kept := keeps.calls _ _ found
      refine ⟨⟨kept.waiting, fun execution same => ?_, kept.saving, kept.own⟩, by simp⟩
      cases same
      exact fun task current => kept.started _ executing task current
  | reaped found executing _ _ _ reaped =>
      have kept := keeps.calls _ _ found
      obtain ⟨same, quiet⟩ :=
        Execution.reap_unique (keeps.contextTask (kept.started _ executing)) reaped
      refine ⟨⟨kept.waiting, fun execution changed => ?_, kept.saving, kept.own⟩, quiet⟩
      cases changed
      rw [same]
      exact kept.started _ executing
  | @abandoned pid call after found abandoned =>
      obtain ⟨_, _, rfl⟩ := Call.abandon_cases abandoned
      exact ⟨(keeps.calls pid call found).moved rfl rfl, by simp⟩

theorem keepsUnique_step (wellFormed : state.WellFormed) (keeps : state.KeepsUnique)
    (published : ¬ PublishesDuplicate label) (appended : ¬ AppendsDuplicate state label)
    (stepped : state.step handler label = some next) : next.KeepsUnique := by
  obtain ⟨after, effects, steppedTo, rfl⟩ := step_cases stepped
  obtain ⟨own, carries⟩ := stepped_keepsUnique wellFormed keeps published appended steppedTo
  have stores : (state.commit label.pid (after, effects)).StoresUnique :=
    foldl_storesUnique ⟨keeps.rows, keeps.events⟩ carries
  exact ⟨stores.1, stores.2, fun pid call found =>
    commit_holds (fun taskIdToBus effect holds => holds.heard taskIdToBus effect) own keeps.calls found⟩

end State

section

variable {handler : Handler} {taskStore : InMemoryTaskStore}
  {pushNotificationStore : InMemoryPushNotificationStore} {taskIdToBus : String → Option BusId}
  {labels : List Label} {state : State} {scope : Scope} {taskId : String} {task : Task}

/-- From rows with unique ids, and with executors that publish such tasks, every stored history
keeps unique ids as long as no append repeats one. -/
theorem stored_message_ids_unique
    (rows : ∀ scope taskId task, taskStore.load scope taskId = some task → UniqueMessages task)
    (runs : (handlerSystem handler).Runs
      (fun state label => ¬ PublishesDuplicate label ∧ ¬ AppendsDuplicate state label)
      (.initial taskStore pushNotificationStore taskIdToBus) labels state)
    (stored : state.row scope taskId = some task) :
    (task.history.map Message.messageId).Nodup := by
  have holds := runs.invariant (fun state => state.WellFormed ∧ state.KeepsUnique)
    ⟨State.wellFormed_initial _ _ _, rows, by simp [State.initial], by simp [State.initial]⟩
    fun invariant guarded stepped => ⟨State.wellFormed_step invariant.1 stepped,
      State.keepsUnique_step invariant.1 invariant.2 guarded.1 guarded.2 stepped⟩
  exact holds.2.rows scope taskId task stored

open Scenario

/-- An executable form of the conditions. -/
def publishesOnce (label : Label) : Bool :=
  match label.action with
  | .publish _ (.task data) => decide (data.history.map Message.messageId).Nodup
  | _ => true

def appendsOnce (state : State) (label : Label) : Bool :=
  match label.action with
  | .resume .ok => (state.calls label.pid).all fun call => !call.appendsDuplicate
  | _ => true

theorem publishesOnce_sound {label : Label} (passed : publishesOnce label = true) :
    ¬ PublishesDuplicate label := by
  rintro ⟨id, data, published, repeated⟩
  simp only [publishesOnce, published, decide_eq_true_eq] at passed
  exact repeated passed

theorem appendsOnce_sound {state : State} {label : Label} (passed : appendsOnce state label = true) :
    ¬ AppendsDuplicate state label := by
  rintro ⟨call, found, resumed, duplicate⟩
  simp [appendsOnce, resumed, found, duplicate] at passed

theorem empty_rows {scope : Scope} {taskId : String} {task : Task}
    (stored : InMemoryTaskStore.empty.load scope taskId = some task) : UniqueMessages task := by
  cases stored

/-- A task whose executor has published it once, and a second message to it. -/
def resendSchedule (messageId : String) : List Label :=
  [calls 0 (.sendMessage (params (message "m" "") false)) (context "tenant" "user") "T"] ++
    resumes 0 1 ++ [publishes 0 0 (taskEvent "T" .working)] ++ resumes 0 4 ++
    [calls 1 (.sendMessage (params (message messageId "T") true)) (context "tenant" "user") ""] ++
    resumes 1 2

theorem stored_message_ids_unique_followUp :
    ∃ state task, (handlerSystem (server false)).Runs
        (fun state label => ¬ PublishesDuplicate label ∧ ¬ AppendsDuplicate state label)
        (.initial .empty .empty (fun _ => none)) (resendSchedule "n") state ∧
      state.row ⟨"tenant", "user"⟩ "T" = some task ∧ task.history.length = 2 ∧
      (task.history.map Message.messageId).Nodup := by
  have ran : ((handlerSystem (server false)).checkedRun
      (fun state label => publishesOnce label && appendsOnce state label)
      (.initial .empty .empty (fun _ => none)) (resendSchedule "n")).bind (fun state =>
        (state.row ⟨"tenant", "user"⟩ "T").map fun task => task.history.length) = some 2 := by decide
  obtain ⟨state, ranAll, rest⟩ := Option.bind_eq_some_iff.mp ran
  obtain ⟨task, stored, length⟩ := Option.map_eq_some_iff.mp rest
  have runs := @System.runs_of_checkedRun _ _ (handlerSystem (server false))
    (fun state label => ¬ PublishesDuplicate label ∧ ¬ AppendsDuplicate state label) _ _ _ _
    (fun _ => True)
    (fun state label _ passed => by
      simp only [Bool.and_eq_true] at passed
      exact ⟨publishesOnce_sound passed.1, appendsOnce_sound passed.2⟩)
    (fun _ _ _ => trivial) trivial ranAll
  exact ⟨state, task, runs, stored, length,
    stored_message_ids_unique (fun _ _ _ => empty_rows) runs stored⟩

/-- The same message sent twice is stored twice. -/
theorem resent_message_stored_twice :
    ¬ ∀ (handler : Handler) (taskStore : InMemoryTaskStore)
      (pushNotificationStore : InMemoryPushNotificationStore) (taskIdToBus : String → Option BusId)
      (labels : List Label) (state : State) (scope : Scope) (taskId : String) (task : Task),
      (∀ scope taskId task, taskStore.load scope taskId = some task → UniqueMessages task) →
      (handlerSystem handler).Runs (fun _ label => ¬ PublishesDuplicate label)
        (.initial taskStore pushNotificationStore taskIdToBus) labels state →
      state.row scope taskId = some task → (task.history.map Message.messageId).Nodup := by
  intro storedOnce
  have ran : ((handlerSystem (server false)).checkedRun
      (fun _ label => publishesOnce label) (.initial .empty .empty (fun _ => none))
      (resendSchedule "m")).bind (fun state =>
        (state.row ⟨"tenant", "user"⟩ "T").map fun task => task.history.map Message.messageId) =
      some ["m", "m"] := by decide
  obtain ⟨state, ranAll, rest⟩ := Option.bind_eq_some_iff.mp ran
  obtain ⟨task, stored, ids⟩ := Option.map_eq_some_iff.mp rest
  have runs := @System.runs_of_checkedRun _ _ (handlerSystem (server false))
    (fun _ label => ¬ PublishesDuplicate label) _ _ _ _ (fun _ => True)
    (fun _ _ _ passed => publishesOnce_sound passed) (fun _ _ _ => trivial) trivial ranAll
  have unique := storedOnce _ _ _ _ _ _ _ _ _ (fun _ _ _ => empty_rows) runs stored
  rw [ids] at unique
  exact absurd unique (by decide)

end

end A2A.Server
