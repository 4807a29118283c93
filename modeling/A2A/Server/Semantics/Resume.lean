import A2A.Server.Semantics.Commit

namespace A2A.Server

/-! What `Call.resume` can do, one constructor for each way an `await` can end.

The later layers never unfold the step functions: they analyse a resumed call
by the cases below, and the helper functions by the equations that follow.
-/

/-- The calls that have not entered their event loop, or have left it for good. -/
def Pc.preparing : Pc → Bool
  | .pull | .lock _ _ | .save _ _ _ | .map _ | .suspended _ | .resubscribeLoad | .finished => false
  | _ => true

/-- The waits before the loop that only a failure ends with an answer. -/
def Pc.proceeds : Pc → Bool
  | .saveHistory _ _ | .savePushConfig _ _ | .cancelExecute | .cancelSave _ => true
  | _ => false

def Effect.configures : Effect → Bool
  | .savePushConfig _ _ _ _ _ | .deletePushConfig _ _ _ => true
  | _ => false

namespace Call

def shifted (call : Call) (queue : Queue) (rest : List EventId) : Call :=
  { call with eventQueue := some { queue with eventQueue := rest } }

/-- The request context that `_createRequestContext` builds for a message. -/
def builtContext (call : Call) (message : Message) (task : Option Task) (taskId : String)
    (referenceTasks : Option (List Task)) : RequestContext :=
  let contextId :=
    if message.contextId ≠ "" then message.contextId
    else match task with
      | some task => if task.contextId ≠ "" then task.contextId else call.fresh.contextUuid
      | none => call.fresh.contextUuid
  ⟨resolvedMessage message taskId contextId, taskId, contextId, task, referenceTasks⟩

def isResubscribe (call : Call) : Bool :=
  match call.request with
  | .resubscribe _ => true
  | _ => false

inductive Resumed (handler : Handler) (view : View) (pid : Pid) (call : Call) :
    Fate → Call → List Effect → Prop
  | answered {fate outcome effects} :
      call.pc.preparing = true → (∀ effect ∈ effects, effect.configures = true) →
      (fate = .ok → call.pc.proceeds = false) →
      Resumed handler view pid call fate (call.finish outcome) effects
  | taskAccepted {message task} :
      call.pc = .loadTask message → view.load message.taskId = some task →
      task.state.any terminalStateList.contains = false →
      Resumed handler view pid call .ok { call with pc := .saveHistory message task } []
  | historySaved {message task} :
      call.pc = .saveHistory message task →
      Resumed handler view pid call .ok
        (call.resolveReferences message (some (appendHistory task message)) message.taskId)
        [.saveTask (handler.scope call.context) (appendHistory task message) (.append message)]
  | referenceLoaded {message task taskId reference pending loaded found} :
      call.pc = .loadReferences message task taskId (reference :: pending) loaded →
      Resumed handler view pid call .ok
        { call with
          pc := if pending.isEmpty then .getAgentCard message task taskId (some found)
            else .loadReferences message task taskId pending found } []
  | contextBuilt {message task taskId referenceTasks extensions after effects} :
      call.pc = .getAgentCard message task taskId referenceTasks →
      contextCreated handler view pid { call with requestedExtensions := extensions }
        (call.builtContext message task taskId referenceTasks) = (after, effects) →
      Resumed handler view pid call .ok after effects
  | configSaved {requestContext config queue} :
      call.pc = .savePushConfig requestContext config → call.eventQueue = some queue →
      Resumed handler view pid call .ok (call.runExecutor queue.eventBus requestContext)
        [.savePushConfig (handler.scope call.context) requestContext.taskId
          call.context.requestedVersion config call.fresh.configUuid]
  | configSavedFirst {requestContext config bus effects} :
      call.pc = .savePushConfig requestContext config → call.eventQueue = none →
      createOrGetBus view pid requestContext.taskId = (bus, effects) →
      Resumed handler view pid call .ok
        ((call.attachQueue bus).runExecutor bus requestContext)
        (.savePushConfig (handler.scope call.context) requestContext.taskId
          call.context.requestedVersion config call.fresh.configUuid :: effects)
  | loopEnded {queue} :
      call.pc = .pull → call.eventQueue = some queue → queue.eventQueue = [] →
      queue.stopped = true → Resumed handler view pid call .ok call.leaveLoop []
  | forwarded {queue id rest event taskId} :
      call.pc = .pull → call.eventQueue = some queue → queue.eventQueue = id :: rest →
      view.event id = some event → call.request = .resubscribe taskId →
      Resumed handler view pid call .ok ((call.shifted queue rest).forward taskId id event) []
  | violated {queue id rest event text} :
      call.pc = .pull → call.eventQueue = some queue → queue.eventQueue = id :: rest →
      view.event id = some event → call.isStream = true →
      advanceStreamPattern event call.streamPattern = .error text →
      Resumed handler view pid call .ok
        ((call.shifted queue rest).stopQueue.reject (.unsupportedOperation text)) []
  | taken {queue id rest event pattern after effects} :
      call.pc = .pull → call.eventQueue = some queue → queue.eventQueue = id :: rest →
      view.event id = some event → call.isResubscribe = false →
      (call.isStream = true → advanceStreamPattern event call.streamPattern = .ok pattern) →
      ({ call.shifted queue rest with streamPattern := pattern }).takeEvent id event =
        (after, effects) →
      Resumed handler view pid call .ok after effects
  | lockFailed {ref key event error after effects} :
      call.pc = .lock ref key → key.all view.holdsLock = true → ref.resolve view = some event →
      ResultManager.needsLoad event = true →
      call.processingFailed ref error = (after, effects) →
      Resumed handler view pid call (.fail error) after (releaseEffects key ++ effects)
  | merged {ref key event manager} :
      call.pc = .lock ref key → key.all view.holdsLock = true → ref.resolve view = some event →
      call.resultManager.merge
        (if ResultManager.needsLoad event then event.target.bind view.load else none) event =
          (manager, true) →
      Resumed handler view pid call .ok
        { call with resultManager := manager, pc := .save ref key event } []
  | skipped {ref key event manager} :
      call.pc = .lock ref key → key.all view.holdsLock = true → ref.resolve view = some event →
      call.resultManager.merge
        (if ResultManager.needsLoad event then event.target.bind view.load else none) event =
          (manager, false) →
      Resumed handler view pid call .ok
        (({ call with resultManager := manager }).processed ref event) (releaseEffects key)
  | saveFailed {ref key event error task after effects} :
      call.pc = .save ref key event → call.resultManager.currentTask = some task →
      call.processingFailed ref error = (after, effects) →
      Resumed handler view pid call (.fail error) after (releaseEffects key ++ effects)
  | saved {ref key event task} :
      call.pc = .save ref key event → call.resultManager.currentTask = some task →
      Resumed handler view pid call .ok (call.processed ref event)
        (.saveTask (handler.scope call.context) task
          (.event call.resultManager.latestUserMessage event) :: releaseEffects key)
  | yielded {fate id event response stored params} :
      call.pc = .map id → view.event id = some event →
      mapEventToStreamResponse view fate event = (response, stored) →
      call.request = .sendMessageStream params →
      (fate = .ok ∨ ∃ data, event = .task data) →
      Resumed handler view pid call fate
        { call.notify handler (trimResponse (historyLengthOf params) response) with
          yielded := call.yielded ++ [trimResponse (historyLengthOf params) response]
          pc := .suspended (some id) }
        (if stored then [] else [.trim id (historyLengthOf params)])
  | mapped {fate id event response stored handed effects} :
      call.pc = .map id → view.event id = some event →
      mapEventToStreamResponse view fate event = (response, stored) →
      call.isStream = false →
      (fate = .ok ∨ ∃ data, event = .task data) →
      (call.notify handler response).handOutResults id event = (handed, effects) →
      Resumed handler view pid call fate (handed.afterYield event) effects
  | closed {last} :
      call.pc = .suspended last → call.eventQueue = none →
      Resumed handler view pid call .ok (call.finish .done) []
  | continued {queue} :
      call.pc = .suspended none → call.eventQueue = some queue →
      Resumed handler view pid call .ok { call with pc := .pull } []
  | consumed {queue id event} :
      call.pc = .suspended (some id) → call.eventQueue = some queue → view.event id = some event →
      Resumed handler view pid call .ok (call.afterYield event) []
  | cancelAttached {task bus} :
      call.pc = .cancelLoad → view.load (requestTaskId call.request) = some task →
      task.state.any terminalStateList.contains = false →
      view.eventBus (requestTaskId call.request) = some bus →
      Resumed handler view pid call .ok { call.attachQueue bus with pc := .cancelExecute } []
  | cancelDirect {task} :
      call.pc = .cancelLoad → view.load (requestTaskId call.request) = some task →
      task.state.any terminalStateList.contains = false →
      view.eventBus (requestTaskId call.request) = none →
      Resumed handler view pid call .ok { call with pc := .cancelSave task } []
  | cancelExecuted :
      call.pc = .cancelExecute → Resumed handler view pid call .ok { call with pc := .pull } []
  | cancelSaved {task} :
      call.pc = .cancelSave task →
      Resumed handler view pid call .ok { call with pc := .cancelReload }
        [.saveTask (handler.scope call.context) (cancelTask task (call.cancelStatus task))
          (.cancel (call.cancelStatus task))]
  | resubscribeRefused {fate reason} :
      call.pc = .resubscribeLoad →
      (fate = .ok → (view.load (requestTaskId call.request)).all
        (fun task => task.state.any terminalStateList.contains) = true) →
      Resumed handler view pid call fate (call.stopQueue.reject reason) []
  | resubscribed {task} :
      call.pc = .resubscribeLoad → view.load (requestTaskId call.request) = some task →
      task.state.any terminalStateList.contains = false →
      Resumed handler view pid call .ok
        { call with yielded := call.yielded ++ [.task task], pc := .suspended none } []
  | configTaskFound :
      call.pc = .configLoadTask →
      Resumed handler view pid call .ok { call with pc := .configApply } []
  | misdirected :
      call.pc = .configApply → Resumed handler view pid call .ok call []

variable {handler : Handler} {view : View} {pid : Pid} {call after : Call}
  {effects : List Effect}

theorem taskLoaded_cases (message : Message) (loading : call.pc = .loadTask message) :
    Resumed handler view pid call .ok (call.taskLoaded message (view.load message.taskId)) [] := by
  have prepares : call.pc.preparing = true := by simp [loading, Pc.preparing]
  cases loaded : view.load message.taskId with
  | none => exact .answered prepares (by simp) (by simp [loading, Pc.proceeds])
  | some task =>
      simp only [taskLoaded]
      split
      · exact .answered prepares (by simp) (by simp [loading, Pc.proceeds])
      · rename_i open'
        split
        · exact .answered prepares (by simp) (by simp [loading, Pc.proceeds])
        · exact .taskAccepted loading loaded (by simpa using open')

theorem agentCardServed_cases {message : Message} {task : Option Task} {taskId : String}
    {referenceTasks : Option (List Task)}
    (loading : call.pc = .getAgentCard message task taskId referenceTasks)
    (served : agentCardServed handler view pid call message task taskId referenceTasks =
      (after, effects)) :
    Resumed handler view pid call .ok after effects := by
  simp only [agentCardServed] at served
  split at served
  · exact .contextBuilt loading served
  · cases served
    exact .answered (by simp [loading, Pc.preparing]) (by simp) (by simp [loading, Pc.proceeds])

theorem cancelLoaded_cases (loading : call.pc = .cancelLoad) :
    Resumed handler view pid call .ok
      (call.cancelLoaded view (requestTaskId call.request)
        (view.load (requestTaskId call.request))) [] := by
  have prepares : call.pc.preparing = true := by simp [loading, Pc.preparing]
  cases loaded : view.load (requestTaskId call.request) with
  | none => exact .answered prepares (by simp) (by simp [loading, Pc.proceeds])
  | some task =>
      simp only [cancelLoaded]
      split
      · exact .answered prepares (by simp) (by simp [loading, Pc.proceeds])
      · split
        · exact .answered prepares (by simp) (by simp [loading, Pc.proceeds])
        · rename_i open'
          have active : task.state.any terminalStateList.contains = false := by simpa using open'
          cases bus : view.eventBus (requestTaskId call.request) with
          | some bus => exact .cancelAttached loading loaded active ‹_›
          | none => exact .cancelDirect loading loaded active bus

theorem pull_cases (pulling : call.pc = .pull) (pulled : call.pull view = some (after, effects)) :
    Resumed handler view pid call .ok after effects := by
  simp only [pull] at pulled
  split at pulled
  · contradiction
  · rename_i queue attached
    split at pulled
    · rename_i empty
      split at pulled
      · rename_i stopped
        cases pulled
        exact .loopEnded pulling attached empty stopped
      · contradiction
    · rename_i id rest waiting
      split at pulled
      · contradiction
      · rename_i event known
        split at pulled
        · rename_i taskId subscribed
          cases pulled
          exact .forwarded pulling attached waiting known subscribed
        · rename_i params streams
          have stream : call.isStream = true := by simp [isStream, streams]
          have own : call.isResubscribe = false := by simp [isResubscribe, streams]
          split at pulled
          · rename_i text refused
            cases pulled
            exact .violated pulling attached waiting known stream refused
          · rename_i pattern accepted
            exact .taken pulling attached waiting known own (fun _ => accepted)
              (Option.some.inj pulled)
        · rename_i notSubscribed notStream
          have own : call.isResubscribe = false := by
            cases asked : call.request with
            | resubscribe taskId => exact absurd asked (notSubscribed taskId)
            | _ => simp [isResubscribe, asked]
          have plain : call.isStream = false := by
            cases asked : call.request with
            | sendMessageStream params => exact absurd asked (notStream params)
            | _ => simp [isStream, asked]
          refine @Resumed.taken handler view pid call queue id rest event call.streamPattern _ _
            pulling attached waiting known own (fun stream => ?_) (Option.some.inj pulled)
          rw [plain] at stream
          contradiction

theorem enterLock_cases {ref : EventRef} {key : Option String} {fate : Fate}
    (waiting : call.pc = .lock ref key)
    (entered : call.enterLock view ref key fate = some (after, effects)) :
    Resumed handler view pid call fate after effects := by
  simp only [enterLock] at entered
  split at entered
  · rename_i holds
    cases resolved : ref.resolve view with
    | none => simp [resolved] at entered
    | some event =>
        rw [resolved] at entered
        cases fate with
        | fail error =>
            simp only at entered
            split at entered
            · rename_i loads
              cases failed : call.processingFailed ref error with
              | mk failedCall failedEffects =>
                  simp only [failed, Option.some.injEq, Prod.mk.injEq] at entered
                  obtain ⟨rfl, rfl⟩ := entered
                  exact .lockFailed waiting holds resolved loads failed
            · contradiction
        | ok =>
            simp only at entered
            cases result : call.resultManager.merge
                (if ResultManager.needsLoad event then event.target.bind view.load else none)
                event with
            | mk manager saves =>
                cases saves with
                | true =>
                    simp only [result, if_true, Option.some.injEq, Prod.mk.injEq] at entered
                    obtain ⟨rfl, rfl⟩ := entered
                    exact .merged waiting holds resolved result
                | false =>
                    simp only [result, Bool.false_eq_true, if_false, Option.some.injEq,
                      Prod.mk.injEq] at entered
                    obtain ⟨rfl, rfl⟩ := entered
                    exact .skipped waiting holds resolved result
  · contradiction

theorem saveCurrentTask_cases {ref : EventRef} {key : Option String}
    {event : AgentExecutionEvent} {fate : Fate} (saving : call.pc = .save ref key event)
    (saves : call.saveCurrentTask handler ref key event fate = some (after, effects)) :
    Resumed handler view pid call fate after effects := by
  simp only [saveCurrentTask] at saves
  cases current : call.resultManager.currentTask with
  | none => simp [current] at saves
  | some task =>
      rw [current] at saves
      cases fate with
      | ok =>
          simp only [Option.some.injEq, Prod.mk.injEq] at saves
          obtain ⟨rfl, rfl⟩ := saves
          exact .saved saving current
      | fail error =>
          cases failed : call.processingFailed ref error with
          | mk failedCall failedEffects =>
              simp only [failed, Option.some.injEq, Prod.mk.injEq] at saves
              obtain ⟨rfl, rfl⟩ := saves
              exact .saveFailed saving current failed

theorem notify_yielded (response : StreamResponse) :
    (call.notify handler response).yielded = call.yielded := by
  unfold notify
  split <;> rfl

theorem mapEvent_cases {id : EventId} {fate : Fate} (mapping : call.pc = .map id)
    (allowed : fate = .ok ∨ ∃ data, view.event id = some (.task data))
    (mapped : call.mapEvent handler view id fate = some (after, effects)) :
    Resumed handler view pid call fate after effects := by
  simp only [mapEvent] at mapped
  cases known : view.event id with
  | none => simp [known] at mapped
  | some event =>
      have fallible : fate = .ok ∨ ∃ data, event = .task data := by
        rcases allowed with ok | ⟨data, isTask⟩
        · exact .inl ok
        · exact .inr ⟨data, Option.some.inj (known.symm.trans isTask)⟩
      rw [known] at mapped
      cases responded : mapEventToStreamResponse view fate event with
      | mk response stored =>
          simp only [responded] at mapped
          split at mapped
          · rename_i params streams
            simp only [Option.some.injEq, Prod.mk.injEq, notify_yielded] at mapped
            obtain ⟨rfl, rfl⟩ := mapped
            exact .yielded mapping known responded streams fallible
          · rename_i notStream
            have plain : call.isStream = false := by
              cases asked : call.request with
              | sendMessageStream params => exact absurd asked (notStream params)
              | _ => simp [isStream, asked]
            cases handed : (call.notify handler response).handOutResults id event with
            | mk handedCall handedEffects =>
                simp only [handed, Option.some.injEq, Prod.mk.injEq] at mapped
                obtain ⟨rfl, rfl⟩ := mapped
                exact .mapped mapping known responded plain fallible handed

theorem next_cases {last : Option EventId} (suspended : call.pc = .suspended last)
    (advanced : call.next view last = some (after, effects)) :
    Resumed handler view pid call .ok after effects := by
  cases queued : call.eventQueue with
  | none =>
      have moved : (call.finish .done, []) = (after, effects) := by
        simpa [next, queued] using advanced
      cases moved
      exact .closed suspended queued
  | some queue =>
      cases last with
      | none =>
          have moved : ({ call with pc := .pull }, []) = (after, effects) := by
            simpa [next, queued] using advanced
          cases moved
          exact .continued suspended queued
      | some id =>
          cases known : view.event id with
          | none => simp [next, queued, known] at advanced
          | some event =>
              simp only [next, queued, known, Option.some.injEq, Prod.mk.injEq] at advanced
              obtain ⟨rfl, rfl⟩ := advanced
              exact .consumed suspended queued known

theorem configApply_cases (applying : call.pc = .configApply)
    (applied : call.configApply handler view = (after, effects)) :
    Resumed handler view pid call .ok after effects := by
  have prepares : call.pc.preparing = true := by simp [applying, Pc.preparing]
  simp only [configApply] at applied
  split at applied
  · cases applied
    exact .answered prepares (by simp [Effect.configures]) (by simp [applying, Pc.proceeds])
  · split at applied
    · cases applied
      exact .answered prepares (by simp) (by simp [applying, Pc.proceeds])
    · split at applied <;> cases applied <;> exact .answered prepares (by simp) (by simp [applying, Pc.proceeds])
  · cases applied
    exact .answered prepares (by simp) (by simp [applying, Pc.proceeds])
  · cases applied
    exact .answered prepares (by simp [Effect.configures]) (by simp [applying, Pc.proceeds])
  · cases applied
    exact .misdirected applying

theorem getTaskLoaded_answers (loaded : Option Task) :
    ∃ outcome, call.getTaskLoaded loaded = call.finish outcome := by
  unfold getTaskLoaded
  split <;> exact ⟨_, rfl⟩

theorem tasksListed_answers : ∃ outcome, call.tasksListed handler view = call.finish outcome := by
  unfold tasksListed
  split
  · split <;> exact ⟨_, rfl⟩
  · exact ⟨_, rfl⟩

theorem cancelReloaded_answers (taskId : String) (loaded : Option Task) :
    ∃ outcome, call.cancelReloaded taskId loaded = call.finish outcome := by
  unfold cancelReloaded
  split
  · exact ⟨_, rfl⟩
  · split
    · exact ⟨_, rfl⟩
    · split <;> exact ⟨_, rfl⟩

theorem resumeOk_cases (resumed : call.resumeOk handler view pid = some (after, effects)) :
    Resumed handler view pid call .ok after effects := by
  cases counter : call.pc with
  | pull => exact pull_cases counter (by simpa [resumeOk, counter] using resumed)
  | lock ref key => exact enterLock_cases counter (by simpa [resumeOk, counter] using resumed)
  | save ref key event =>
      exact saveCurrentTask_cases counter (by simpa [resumeOk, counter] using resumed)
  | map id => exact mapEvent_cases counter (.inl rfl) (by simpa [resumeOk, counter] using resumed)
  | suspended last => exact next_cases counter (by simpa [resumeOk, counter] using resumed)
  | getAgentCard message task taskId referenceTasks =>
      exact agentCardServed_cases counter (by simpa [resumeOk, counter] using resumed)
  | configApply => exact configApply_cases counter (by simpa [resumeOk, counter] using resumed)
  | finished => simp [resumeOk, counter] at resumed
  | loadTask message =>
      simp only [resumeOk, counter, Option.some.injEq, Prod.mk.injEq] at resumed
      obtain ⟨rfl, rfl⟩ := resumed
      exact taskLoaded_cases message counter
  | saveHistory message task =>
      simp only [resumeOk, counter, Option.some.injEq, Prod.mk.injEq] at resumed
      obtain ⟨rfl, rfl⟩ := resumed
      exact .historySaved counter
  | loadReferences message task taskId pending loaded =>
      cases pending with
      | nil => simp [resumeOk, counter] at resumed
      | cons reference pending =>
          simp only [resumeOk, counter, Option.some.injEq, Prod.mk.injEq] at resumed
          obtain ⟨rfl, rfl⟩ := resumed
          exact .referenceLoaded counter
  | savePushConfig requestContext config =>
      simp only [resumeOk, counter] at resumed
      cases queued : call.eventQueue with
      | some queue =>
          simp only [queued, Option.some.injEq, Prod.mk.injEq] at resumed
          obtain ⟨rfl, rfl⟩ := resumed
          exact .configSaved counter queued
      | none =>
          cases joined : createOrGetBus view pid requestContext.taskId with
          | mk bus joinEffects =>
              simp only [queued, joined, Option.some.injEq, Prod.mk.injEq] at resumed
              obtain ⟨rfl, rfl⟩ := resumed
              exact .configSavedFirst counter queued joined
  | cancelLoad =>
      simp only [resumeOk, counter, Option.some.injEq, Prod.mk.injEq] at resumed
      obtain ⟨rfl, rfl⟩ := resumed
      exact cancelLoaded_cases counter
  | cancelExecute =>
      simp only [resumeOk, counter, Option.some.injEq, Prod.mk.injEq] at resumed
      obtain ⟨rfl, rfl⟩ := resumed
      exact .cancelExecuted counter
  | cancelSave task =>
      simp only [resumeOk, counter, Option.some.injEq, Prod.mk.injEq] at resumed
      obtain ⟨rfl, rfl⟩ := resumed
      exact .cancelSaved counter
  | cancelReload =>
      simp only [resumeOk, counter, Option.some.injEq, Prod.mk.injEq] at resumed
      obtain ⟨rfl, rfl⟩ := resumed
      obtain ⟨outcome, answered⟩ := call.cancelReloaded_answers (requestTaskId call.request)
        (view.load (requestTaskId call.request))
      rw [answered]
      exact .answered (by simp [counter, Pc.preparing]) (by simp) (by simp [counter, Pc.proceeds])
  | resubscribeLoad =>
      simp only [resumeOk, counter, Option.some.injEq, Prod.mk.injEq] at resumed
      obtain ⟨rfl, rfl⟩ := resumed
      cases loaded : view.load (requestTaskId call.request) with
      | none => exact .resubscribeRefused counter (by simp [loaded])
      | some task =>
          simp only [resubscribeLoaded]
          split
          · rename_i terminal
            exact .resubscribeRefused counter (by simpa [loaded] using terminal)
          · rename_i open'
            exact .resubscribed counter loaded (by simpa using open')
  | getTaskLoad =>
      simp only [resumeOk, counter, Option.some.injEq, Prod.mk.injEq] at resumed
      obtain ⟨rfl, rfl⟩ := resumed
      obtain ⟨outcome, answered⟩ :=
        call.getTaskLoaded_answers (view.load (requestTaskId call.request))
      rw [answered]
      exact .answered (by simp [counter, Pc.preparing]) (by simp) (by simp [counter, Pc.proceeds])
  | listTasks =>
      simp only [resumeOk, counter, Option.some.injEq, Prod.mk.injEq] at resumed
      obtain ⟨rfl, rfl⟩ := resumed
      obtain ⟨outcome, answered⟩ := @call.tasksListed_answers handler view
      rw [answered]
      exact .answered (by simp [counter, Pc.preparing]) (by simp) (by simp [counter, Pc.proceeds])
  | configLoadTask =>
      simp only [resumeOk, counter] at resumed
      split at resumed <;> simp only [Option.some.injEq, Prod.mk.injEq] at resumed <;>
        obtain ⟨rfl, rfl⟩ := resumed
      · exact .answered (by simp [counter, Pc.preparing]) (by simp) (by simp [counter, Pc.proceeds])
      · exact .configTaskFound counter

theorem resume_cases {fate : Fate}
    (resumed : call.resume handler view pid fate = some (after, effects)) :
    Resumed handler view pid call fate after effects := by
  cases fate with
  | ok => exact resumeOk_cases resumed
  | fail error =>
      simp only [resume, resumeFailed] at resumed
      cases counter : call.pc with
      | lock ref key => exact enterLock_cases counter (by simpa [counter] using resumed)
      | save ref key event =>
          exact saveCurrentTask_cases counter (by simpa [counter] using resumed)
      | map id =>
          simp only [counter] at resumed
          split at resumed
          · rename_i data isTask
            exact mapEvent_cases counter (.inr ⟨data, isTask⟩) resumed
          · contradiction
      | resubscribeLoad =>
          simp only [counter, Option.some.injEq, Prod.mk.injEq] at resumed
          obtain ⟨rfl, rfl⟩ := resumed
          exact .resubscribeRefused counter nofun
      | getAgentCard =>
          simp only [counter] at resumed
          split at resumed
          · cases resumed
            exact .answered (by simp [counter, Pc.preparing]) (by simp) nofun
          · contradiction
      | pull | suspended | finished => simp [counter] at resumed
      | _ =>
          simp only [counter, Option.some.injEq, Prod.mk.injEq] at resumed
          obtain ⟨rfl, rfl⟩ := resumed
          exact .answered (by simp [counter, Pc.preparing]) (by simp) nofun

/-- Only a suspended generator is given up. -/
theorem abandon_cases (abandoned : call.abandon = some after) :
    ∃ last, call.pc = .suspended last ∧ after = call.stopQueue.finish .done := by
  simp only [abandon] at abandoned
  split at abandoned
  · rename_i last suspended
    exact ⟨last, suspended, (Option.some.inj abandoned).symm⟩
  · cases abandoned

/-- The record a call starts from. -/
def blank (request : Request) (context : ServerCallContext)
    (requestedExtensions : Option (List String)) (fresh : Fresh) : Call where
  request := request
  context := context
  fresh := fresh
  requestedExtensions := requestedExtensions
  pc := .finished
  resultManager := .new
  eventQueue := none
  execution := none
  outcome := none
  yielded := []
  notifications := []
  firstResultSent := false
  authRequiredSnapshotSent := false
  streamPattern := .undetermined
  received := []
  handled := []

/-- The message of a request that sends one. -/
def Sends (request : Request) (message : Message) : Prop :=
  ∃ params, (request = .sendMessage params ∨ request = .sendMessageStream params) ∧
    params.message = some message

/-- How a call begins, one constructor for each first `await`. -/
inductive Begun (view : View) (call : Call) : Call → Prop
  | refused {reason} : Begun view call (call.reject reason)
  | starts {message} : Sends call.request message → message.taskId = "" →
      Begun view call
        (({ call with resultManager := call.resultManager.setContext message }).resolveReferences
          message none call.fresh.taskUuid)
  | follows {message} : Sends call.request message → message.taskId ≠ "" →
      Begun view call
        { call with resultManager := call.resultManager.setContext message, pc := .loadTask message }
  | loads {pc} : pc = .cancelLoad ∨ pc = .getTaskLoad ∨ pc = .configLoadTask ∨
        pc = .listTasks →
      Begun view call { call with pc }
  | subscribes {taskId bus} : call.request = .resubscribe taskId → view.eventBus taskId = some bus →
      Begun view call { call.attachQueue bus with pc := .resubscribeLoad }
  | idles {taskId} : call.request = .resubscribe taskId → view.eventBus taskId = none →
      Begun view call { call with pc := .resubscribeLoad }

theorem begin_cases (request : Request) (context : ServerCallContext)
    (requestedExtensions : Option (List String)) (fresh : Fresh) :
    Begun view (blank request context requestedExtensions fresh)
      (handler.begin view request context requestedExtensions fresh) := by
  cases request with
  | sendMessage params | sendMessageStream params =>
      simp only [Handler.begin]
      split
      · rename_i message carried
        split
        · exact .refused
        · split
          · rename_i named
            exact .starts ⟨params, by simp [blank], carried⟩ named
          · rename_i named
            exact .follows ⟨params, by simp [blank], carried⟩ named
      · exact .refused
  | cancelTask => exact .loads (.inl rfl)
  | getTask => exact .loads (.inr (.inl rfl))
  | resubscribe taskId =>
      simp only [Handler.begin]
      split
      · split
        · exact .subscribes rfl ‹_›
        · exact .idles rfl ‹_›
      · exact .refused
  | createTaskPushNotificationConfig | getTaskPushNotificationConfig
  | listTaskPushNotificationConfigs | deleteTaskPushNotificationConfig =>
      simp only [Handler.begin]
      split
      · exact .loads (.inr (.inr (.inl rfl)))
      · exact .refused
  | listTasks params =>
      simp only [Handler.begin]
      split
      · exact .refused
      · split
        · exact .refused
        · exact .loads (.inr (.inr (.inr rfl)))

end Call

end A2A.Server
