import A2A.Server.RequestHandler.Call

namespace A2A.Server

/-! The steps of a call: what `DefaultRequestHandler` runs from one `await` to the next.

`Handler.begin` runs up to the first `await`; `Call.resume` continues a suspended
call once the operation it waits for has succeeded or failed.  Both return the
call's new record and the effects of the step on the rest of the system.
-/

/-- `messageForContext` -/
def resolvedMessage (message : Message) (taskId contextId : String) : Message :=
  { message with contextId, taskId }

def agentMessage (messageId taskId contextId text : String) : Message where
  messageId := messageId
  contextId := contextId
  taskId := taskId
  role := .agent
  parts := [⟨some (.text text), some .empty, "", "text/plain"⟩]
  metadata := some .empty
  extensions := []
  referenceTaskIds := []

def historyLengthOf (params : SendMessageRequest) : Option Int :=
  params.configuration.bind SendMessageConfiguration.historyLength

/-- `isBlocking` in `sendMessage` -/
def isBlocking (params : SendMessageRequest) : Bool :=
  match params.configuration with
  | some configuration => !configuration.returnImmediately
  | none => true

def Handler.inlinePushConfig (handler : Handler) (params : SendMessageRequest) :
    Option TaskPushNotificationConfig :=
  if handler.pushNotifications then
    params.configuration.bind SendMessageConfiguration.taskPushNotificationConfig
  else none

def releaseEffects : Option String → List Effect
  | some key => [.release key]
  | none => []

def EventRef.resolve (view : View) : EventRef → Option AgentExecutionEvent
  | .published id => view.event id
  | .own event => some event

namespace Call

/-- `createOrGetByTaskId`, with the effect of registering a new bus. -/
def createOrGetBus (view : View) (pid : Pid) (taskId : String) : BusId × List Effect :=
  match view.eventBus taskId with
  | some bus => (bus, [])
  | none => (pid, [.register taskId pid])

/-- `new ExecutionEventQueue(eventBus)` -/
def attachQueue (call : Call) (bus : BusId) : Call :=
  { call with eventQueue := some (.new bus) }

/-- `_runExecutor` and `_runStreamExecutor` up to the call of `execute()`. -/
def runExecutor (call : Call) (bus : BusId) (requestContext : RequestContext) : Call :=
  { call with
    execution := some ⟨requestContext, bus, .new, .running⟩
    pc := .pull }

/-- The part of `_createRequestContext` after the task is known. -/
def resolveReferences (call : Call) (message : Message) (task : Option Task) (taskId : String) :
    Call :=
  { call with
    pc :=
      if message.referenceTaskIds.isEmpty then .getAgentCard message task taskId none
      else .loadReferences message task taskId message.referenceTaskIds [] }

/-- `sendMessage` and `sendMessageStream` once the request context is built. -/
def contextCreated (handler : Handler) (view : View) (pid : Pid) (call : Call)
    (requestContext : RequestContext) : Call × List Effect :=
  match call.request with
  | .sendMessage params =>
      match handler.inlinePushConfig params with
      | some config => ({ call with pc := .savePushConfig requestContext config }, [])
      | none =>
          let (bus, effects) := createOrGetBus view pid requestContext.taskId
          ((call.attachQueue bus).runExecutor bus requestContext, effects)
  | .sendMessageStream params =>
      let (bus, effects) := createOrGetBus view pid requestContext.taskId
      match handler.inlinePushConfig params with
      | some config =>
          ({ call.attachQueue bus with pc := .savePushConfig requestContext config }, effects)
      | none => ((call.attachQueue bus).runExecutor bus requestContext, effects)
  | _ => (call, [])

def missingRequired (extensions : List AgentExtension) (requested : List String) : List String :=
  (extensions.filter (fun extension =>
    extension.required && !requested.contains extension.uri)).map AgentExtension.uri

/-- `_createRequestContext` from the agent card on. -/
def agentCardServed (handler : Handler) (view : View) (pid : Pid) (call : Call)
    (message : Message) (task : Option Task) (taskId : String)
    (referenceTasks : Option (List Task)) : Call × List Effect :=
  let extensions := (handler.servedCard.capabilities.map AgentCapabilities.extensions).getD []
  let missing := missingRequired extensions (call.requestedExtensions.getD [])
  if missing.isEmpty then
    let exposed := extensions.map AgentExtension.uri
    let contextId :=
      if message.contextId ≠ "" then message.contextId
      else match task with
        | some task => if task.contextId ≠ "" then task.contextId else call.fresh.contextUuid
        | none => call.fresh.contextUuid
    contextCreated handler view pid
      { call with
        requestedExtensions := call.requestedExtensions.map (List.filter (exposed.contains ·)) }
      ⟨resolvedMessage message taskId contextId, taskId, contextId, task, referenceTasks⟩
  else
    (call.reject (.extensionSupportRequired
      ("Client must declare support for required extensions: " ++ ", ".intercalate missing)), [])

/-- The checks of `_createRequestContext` on the loaded task. -/
def taskLoaded (call : Call) (message : Message) (loaded : Option Task) : Call :=
  match loaded with
  | none => call.reject (.taskNotFound ("Task not found: " ++ message.taskId))
  | some task =>
      if task.state.any terminalStateList.contains then
        call.reject (.unsupportedOperation ("Task " ++ task.id ++ " is in a terminal state (" ++
          toString ((task.state.map TaskState.toNumber).getD 0) ++ ") and cannot be modified."))
      else if message.contextId ≠ "" ∧ task.contextId ≠ "" ∧ message.contextId ≠ task.contextId then
        call.reject (.requestMalformed ("contextId mismatch: message contextId '" ++
          message.contextId ++ "' does not match task '" ++ task.id ++ "' contextId '" ++
          task.contextId ++ "'"))
      else { call with pc := .saveHistory message task }

/-- `task.history = [...(task.history || []), incomingMessage]` -/
def appendHistory (task : Task) (message : Message) : Task :=
  { task with history := task.history ++ [message] }

/-- How `sendMessage` ends once its promise has been settled by the drain. -/
def drained (call : Call) : Call := { call with pc := .finished }

/-- The end of the event loop: the rest of `_processEvents` with its `finally`, and what
each caller does next. -/
def leaveLoop (call : Call) : Call :=
  let stopped := call.stopQueue
  match call.request with
  | .sendMessage params =>
      if isBlocking params then
        match call.resultManager.getFinalResult with
        | none => stopped.reject (.a2a
            "Agent execution finished without a result, and no task context found.")
        | some (.message message) => stopped.finish (.message message)
        | some (.task task) =>
            stopped.finish (.task (applyHistoryLengthSemantics (historyLengthOf params) task))
      else if call.firstResultSent then stopped.drained
      else stopped.reject (.requestMalformed
        "Execution finished before a message or task was produced.")
  | .cancelTask _ => { stopped with pc := .cancelReload }
  | _ => stopped.finish .done

/-- `resultManager.processEvent(event)` up to the start of its locked section. -/
def processEvent (call : Call) (ref : EventRef) (event : AgentExecutionEvent) :
    Call × List Effect :=
  match event.target with
  | none => (call, [])
  | some taskId =>
      if taskId = "" then ({ call with pc := .lock ref none }, [])
      else
        let key := lockKey call.context taskId
        ({ call with pc := .lock ref (some key) }, [.acquire key])

/-- The status update `_handleProcessingError` applies after a first result. -/
def processingFailure (call : Call) (task : Task) (error : String) : AgentExecutionEvent :=
  let text := if error = "" then "Unknown error" else error
  .statusUpdate {
    taskId := task.id
    contextId := task.contextId
    status := some {
      state := .failed
      message := some (agentMessage call.fresh.messageUuid task.id task.contextId
        ("Event processing loop failed: " ++ text))
      timestamp := some call.fresh.timestamp }
    metadata := some .empty }

/-- The error path of the loop: `_handleProcessingError`, or the throw out of a stream. -/
def processingFailed (call : Call) (ref : EventRef) (error : String) : Call × List Effect :=
  match ref with
  | .own _ => (call.stopQueue.drained, [])
  | .published _ =>
      match call.request with
      | .sendMessage _ =>
          if call.firstResultSent then
            match call.resultManager.currentTask with
            | none => (call.stopQueue.drained, [])
            | some task =>
                let failure := call.processingFailure task error
                call.processEvent (.own failure) failure
          else (call.stopQueue.reject (.external error), [])
      | _ => (call.stopQueue.reject (.external error), [])

/-- `processEvent` has returned. -/
def processed (call : Call) (ref : EventRef) (event : AgentExecutionEvent) : Call :=
  match ref with
  | .published id => { call with pc := .map id, handled := call.handled ++ [(id, event)] }
  | .own _ => call.stopQueue.drained

/-- The consumer takes the next event, `for await (const event of eventQueue.events())`. -/
def takeEvent (call : Call) (id : EventId) (event : AgentExecutionEvent) : Call × List Effect :=
  match event.target with
  | none =>
      let manager := (call.resultManager.merge none event).1
      (({ call with resultManager := manager }).processed (.published id) event, [])
  | some _ => call.processEvent (.published id) event

/-- `resubscribe` forwards events of its own task and drops messages. -/
def forward (call : Call) (taskId : String) (id : EventId) (event : AgentExecutionEvent) : Call :=
  let looked := { call with handled := call.handled ++ [(id, event)] }
  if event.target = some taskId then
    { looked with yielded := call.yielded ++ [event.toStreamResponse], pc := .suspended (some id) }
  else if event.endsQueue then looked.leaveLoop
  else { looked with pc := .pull }

def pull (view : View) (call : Call) : Option (Call × List Effect) :=
  match call.eventQueue with
  | none => none
  | some queue =>
      match queue.eventQueue with
      | [] => if queue.stopped then some (call.leaveLoop, []) else none
      | id :: rest =>
          match view.event id with
          | none => none
          | some event =>
              let shifted := { call with eventQueue := some { queue with eventQueue := rest } }
              match call.request with
              | .resubscribe taskId => some (shifted.forward taskId id event, [])
              | .sendMessageStream _ =>
                  match advanceStreamPattern event call.streamPattern with
                  | .error text => some (shifted.stopQueue.reject (.unsupportedOperation text), [])
                  | .ok pattern => some (({ shifted with streamPattern := pattern }).takeEvent id event)
              | _ => some (shifted.takeEvent id event)

/-- The locked section from its start to its save. -/
def enterLock (view : View) (call : Call) (ref : EventRef) (key : Option String) (fate : Fate) :
    Option (Call × List Effect) :=
  if key.all view.holdsLock then
    match ref.resolve view with
    | none => none
    | some event =>
        match fate with
        | .fail error =>
            if ResultManager.needsLoad event then
              let (failed, effects) := call.processingFailed ref error
              some (failed, releaseEffects key ++ effects)
            else none
        | .ok =>
            let loaded :=
              if ResultManager.needsLoad event then event.target.bind view.load else none
            let (manager, saves) := call.resultManager.merge loaded event
            let merged := { call with resultManager := manager }
            if saves then some ({ merged with pc := .save ref key event }, [])
            else some (merged.processed ref event, releaseEffects key)
  else none

/-- `saveCurrentTask` and the end of the locked section. -/
def saveCurrentTask (handler : Handler) (call : Call) (ref : EventRef) (key : Option String)
    (event : AgentExecutionEvent) (fate : Fate) : Option (Call × List Effect) :=
  match call.resultManager.currentTask with
  | none => none
  | some task =>
      match fate with
      | .fail error =>
          let (failed, effects) := call.processingFailed ref error
          some (failed, releaseEffects key ++ effects)
      | .ok =>
          some (call.processed ref event,
            .saveTask (handler.scope call.context) task
              (.event call.resultManager.latestUserMessage event) :: releaseEffects key)

/-- First results and the snapshot at `AUTH_REQUIRED`, lines 284 to 327. -/
def handOutResults (call : Call) (id : EventId) (event : AgentExecutionEvent) :
    Call × List Effect :=
  match call.request with
  | .sendMessage params =>
      let historyLength := historyLengthOf params
      if isBlocking params then
        if event.requiresAuth && !call.authRequiredSnapshotSent then
          match call.resultManager.currentTask with
          | none => (call, [])
          | some task =>
              ({ call.settle (.task (applyHistoryLengthSemantics historyLength task)) with
                authRequiredSnapshotSent := true
                firstResultSent := true }, [])
        else (call, [])
      else if call.firstResultSent then (call, [])
      else
        match event with
        | .message data => ({ call.settle (.message data) with firstResultSent := true }, [])
        | .task data =>
            ({ call.settle (.task (applyHistoryLengthSemantics historyLength data)) with
              firstResultSent := true }, [.trim id historyLength])
        | _ =>
            match call.resultManager.getFinalResult with
            | none => (call, [])
            | some (.message message) =>
                ({ call.settle (.message message) with firstResultSent := true }, [])
            | some (.task task) =>
                let trimmed := applyHistoryLengthSemantics historyLength task
                ({ call.settle (.task trimmed) with
                  firstResultSent := true
                  resultManager := { call.resultManager with currentTask := some trimmed } }, [])
  | _ => (call, [])

/-- `events()` after the yield: end the loop, or wait for the next event. -/
def afterYield (call : Call) (event : AgentExecutionEvent) : Call :=
  if event.endsQueue then call.leaveLoop else { call with pc := .pull }

def notify (handler : Handler) (call : Call) (response : StreamResponse) : Call :=
  if handler.pushNotifications then
    { call with
      notifications := call.notifications ++ [(response, call.resultManager.currentTask)] }
  else call

/-- `_mapEventToStreamResponse`: a task event stands for the stored task when it can be
loaded, and for itself otherwise. -/
def mapEventToStreamResponse (view : View) (fate : Fate) (event : AgentExecutionEvent) :
    StreamResponse × Bool :=
  match event, fate with
  | .task data, .ok =>
      match view.load data.id with
      | some fullTask => (.task fullTask, true)
      | none => (.task data, false)
  | event, _ => (event.toStreamResponse, false)

def trimResponse (historyLength : Option Int) : StreamResponse → StreamResponse
  | .task value => .task (applyHistoryLengthSemantics historyLength value)
  | response => response

/-- The loop body after `processEvent`. -/
def mapEvent (handler : Handler) (view : View) (call : Call) (id : EventId) (fate : Fate) :
    Option (Call × List Effect) :=
  match view.event id with
  | none => none
  | some event =>
      let (response, stored) := mapEventToStreamResponse view fate event
      match call.request with
      | .sendMessageStream params =>
          let historyLength := historyLengthOf params
          let trimmed := trimResponse historyLength response
          let notified := call.notify handler trimmed
          some ({ notified with
              yielded := notified.yielded ++ [trimmed]
              pc := .suspended (some id) },
            if stored then [] else [.trim id historyLength])
      | _ =>
          let (handed, effects) := (call.notify handler response).handOutResults id event
          some (handed.afterYield event, effects)

/-- A stream's consumer asks for the next value. -/
def next (view : View) (call : Call) (last : Option EventId) : Option (Call × List Effect) :=
  match call.eventQueue, last with
  | none, _ => some (call.finish .done, [])
  | some _, none => some ({ call with pc := .pull }, [])
  | some _, some id =>
      match view.event id with
      | none => none
      | some event => some (call.afterYield event, [])

/-- The checks of `cancelTask` on the loaded task. -/
def cancelLoaded (view : View) (call : Call) (taskId : String) (loaded : Option Task) : Call :=
  match loaded with
  | none => call.reject (.taskNotFound ("Task not found: " ++ taskId))
  | some task =>
      if task.state = some .canceled then call.finish (.task task)
      else if task.state.any terminalStateList.contains then
        call.reject (.taskNotCancelable ("Task not cancelable: " ++ taskId))
      else
        match view.eventBus taskId with
        | some bus => { call.attachQueue bus with pc := .cancelExecute }
        | none => { call with pc := .cancelSave task }

def cancelStatus (call : Call) (task : Task) : TaskStatus where
  state := .canceled
  message := some (agentMessage call.fresh.messageUuid task.id task.contextId
    "Task cancellation requested by user.")
  timestamp := some call.fresh.timestamp

/-- `task.status = …` and the message pushed to the history. -/
def cancelTask (task : Task) (status : TaskStatus) : Task :=
  { task with status := some status, history := task.history ++ status.message.toList }

def cancelReloaded (call : Call) (taskId : String) (loaded : Option Task) : Call :=
  match loaded with
  | none => call.reject (.a2a ("Task " ++ taskId ++ " not found after cancellation."))
  | some latest =>
      match latest.status with
      | none => call.reject .typeError
      | some status =>
          if status.state = .canceled then call.finish (.task latest)
          else call.reject (.taskNotCancelable ("Task not cancelable: " ++ taskId))

/-- `resubscribe` up to its first yield, or to the `finally` of a failed check. -/
def resubscribeLoaded (call : Call) (taskId : String) (loaded : Option Task) : Call :=
  match loaded with
  | none => call.stopQueue.reject (.taskNotFound ("Task not found: " ++ taskId))
  | some task =>
      if task.state.any terminalStateList.contains then
        call.stopQueue.reject (.unsupportedOperation ("Task " ++ taskId ++
          " is in a terminal state (" ++ toString ((task.state.map TaskState.toNumber).getD 0) ++
          ") and cannot be subscribed to."))
      else { call with yielded := call.yielded ++ [.task task], pc := .suspended none }

/-- The push-configuration methods once their task has been found. -/
def configApply (handler : Handler) (view : View) (call : Call) : Call × List Effect :=
  let scope := handler.scope call.context
  match call.request with
  | .createTaskPushNotificationConfig params =>
      (call.finish (.config (InMemoryPushNotificationStore.assignId params call.fresh.configUuid)),
        [.savePushConfig scope params.taskId call.context.requestedVersion params
          call.fresh.configUuid])
  | .getTaskPushNotificationConfig taskId id =>
      let configs := view.pushConfigs taskId
      if configs.isEmpty then
        (call.reject (.a2a ("Push notification config not found for task " ++ taskId ++ ".")), [])
      else
        match configs.find? (fun config => config.id = id) with
        | some config => (call.finish (.config config), [])
        | none => (call.reject (.a2a ("Push notification config with id '" ++ id ++
            "' not found for task " ++ taskId ++ ".")), [])
  | .listTaskPushNotificationConfigs taskId => (call.finish (.configs (view.pushConfigs taskId)), [])
  | .deleteTaskPushNotificationConfig taskId id =>
      (call.finish .done, [.deletePushConfig scope taskId id])
  | _ => (call, [])

/-- The task id a request is about, once the request itself names one. -/
def requestTaskId : Request → String
  | .cancelTask id | .resubscribe id | .getTask id _ => id
  | .createTaskPushNotificationConfig params => params.taskId
  | .getTaskPushNotificationConfig taskId _ | .listTaskPushNotificationConfigs taskId
  | .deleteTaskPushNotificationConfig taskId _ => taskId
  | .sendMessage _ | .sendMessageStream _ | .listTasks _ => ""

def getTaskLoaded (call : Call) (loaded : Option Task) : Call :=
  match call.request, loaded with
  | .getTask _ historyLength, some task =>
      call.finish (.task (applyHistoryLengthSemantics historyLength task))
  | _, _ => call.reject (.taskNotFound ("Task not found: " ++ requestTaskId call.request))

/-- `listTasks` once its parameters have been checked. -/
def tasksListed (handler : Handler) (view : View) (call : Call) : Call :=
  match call.request with
  | .listTasks params =>
      match InMemoryTaskStore.list handler.runtime view.bucket params with
      | .error message => call.reject (.requestMalformed message)
      | .ok response =>
          call.finish (.tasks { response with
            tasks := response.tasks.map (applyHistoryLengthSemantics params.historyLength) })
  | _ => call.finish .done

/-- The call continues after the operation it was waiting for succeeded. -/
def resumeOk (handler : Handler) (view : View) (pid : Pid) (call : Call) :
    Option (Call × List Effect) :=
  let taskId := requestTaskId call.request
  match call.pc with
  | .loadTask message => some (call.taskLoaded message (view.load message.taskId), [])
  | .saveHistory message task =>
      some (call.resolveReferences message (some (appendHistory task message)) message.taskId,
        [.saveTask (handler.scope call.context) (appendHistory task message) (.append message)])
  | .loadReferences message task taskId (reference :: pending) loaded =>
      let found := loaded ++ (view.load reference).toList
      some ({ call with
        pc := if pending.isEmpty then .getAgentCard message task taskId (some found)
          else .loadReferences message task taskId pending found }, [])
  | .loadReferences _ _ _ [] _ => none
  | .getAgentCard message task taskId referenceTasks =>
      some (agentCardServed handler view pid call message task taskId referenceTasks)
  | .savePushConfig requestContext config =>
      let saved := .savePushConfig (handler.scope call.context) requestContext.taskId
        call.context.requestedVersion config call.fresh.configUuid
      match call.eventQueue with
      | some queue => some (call.runExecutor queue.eventBus requestContext, [saved])
      | none =>
          let (bus, effects) := createOrGetBus view pid requestContext.taskId
          some ((call.attachQueue bus).runExecutor bus requestContext, saved :: effects)
  | .pull => call.pull view
  | .lock ref key => call.enterLock view ref key .ok
  | .save ref key event => call.saveCurrentTask handler ref key event .ok
  | .map id => call.mapEvent handler view id .ok
  | .suspended last => call.next view last
  | .cancelLoad => some (call.cancelLoaded view taskId (view.load taskId), [])
  | .cancelExecute => some ({ call with pc := .pull }, [])
  | .cancelSave task =>
      let status := call.cancelStatus task
      some ({ call with pc := .cancelReload },
        [.saveTask (handler.scope call.context) (cancelTask task status) (.cancel status)])
  | .cancelReload => some (call.cancelReloaded taskId (view.load taskId), [])
  | .resubscribeLoad => some (call.resubscribeLoaded taskId (view.load taskId), [])
  | .getTaskLoad => some (call.getTaskLoaded (view.load taskId), [])
  | .listTasks => some (call.tasksListed handler view, [])
  | .configLoadTask =>
      match view.load taskId with
      | none => some (call.reject (.taskNotFound ("Task not found: " ++ taskId)), [])
      | some _ => some ({ call with pc := .configApply }, [])
  | .configApply => some (call.configApply handler view)
  | .finished => none

/-- The call continues after the operation it was waiting for failed. -/
def resumeFailed (handler : Handler) (view : View) (call : Call) (error : String) :
    Option (Call × List Effect) :=
  match call.pc with
  | .lock ref key => call.enterLock view ref key (.fail error)
  | .save ref key event => call.saveCurrentTask handler ref key event (.fail error)
  | .map id =>
      match view.event id with
      | some (.task _) => call.mapEvent handler view id (.fail error)
      | _ => none
  | .getAgentCard _ _ _ _ =>
      if handler.agentCardSignatureGenerator.isSome then
        some (call.reject (.external error), [])
      else none
  | .resubscribeLoad => some (call.stopQueue.reject (.external error), [])
  | .pull | .suspended _ | .finished => none
  | _ => some (call.reject (.external error), [])

def resume (handler : Handler) (view : View) (pid : Pid) (call : Call) :
    Fate → Option (Call × List Effect)
  | .ok => call.resumeOk handler view pid
  | .fail error => call.resumeFailed handler view error

/-- `return()` on a suspended generator. -/
def abandon (call : Call) : Option Call :=
  match call.pc with
  | .suspended _ => some (call.stopQueue.finish .done)
  | _ => none

end Call

/-- A call up to its first `await`. -/
def Handler.begin (handler : Handler) (view : View) (request : Request)
    (context : ServerCallContext) (requestedExtensions : Option (List String)) (fresh : Fresh) :
    Call :=
  let call : Call := {
    request, context, fresh, requestedExtensions
    pc := .finished
    resultManager := .new
    eventQueue := none
    execution := none
    outcome := none
    yielded := []
    notifications := []
    firstResultSent := false
    authRequiredSnapshotSent := false
    streamPattern := .undetermined
    received := []
    handled := [] }
  let send (params : SendMessageRequest) (malformed : String) : Call :=
    match params.message with
    | some message =>
        if message.messageId = "" then call.reject (.requestMalformed malformed)
        else
          let prepared := { call with resultManager := call.resultManager.setContext message }
          if message.taskId = "" then prepared.resolveReferences message none fresh.taskUuid
          else { prepared with pc := .loadTask message }
    | none => call.reject (.requestMalformed malformed)
  match request with
  | .sendMessage params => send params "message.messageId is required."
  | .sendMessageStream params => send params "message.messageId is required for streaming."
  | .cancelTask _ => { call with pc := .cancelLoad }
  | .resubscribe taskId =>
      if handler.streaming then
        match view.eventBus taskId with
        | some bus => { call.attachQueue bus with pc := .resubscribeLoad }
        | none => { call with pc := .resubscribeLoad }
      else call.reject (.unsupportedOperation
        "Streaming (and thus resubscription) is not supported.")
  | .getTask _ _ => { call with pc := .getTaskLoad }
  | .listTasks params =>
      let pageSize := params.pageSize.getD defaultPageSize
      if pageSize < 1 ∨ 100 < pageSize then
        call.reject (.requestMalformed "pageSize must be between 1 and 100")
      else if params.statusTimestampAfter.any (fun after =>
          after ≠ "" && (handler.runtime.dateParse after).isNone) then
        call.reject (.requestMalformed "statusTimestampAfter must be a valid ISO 8601 date string")
      else { call with pc := .listTasks }
  | .createTaskPushNotificationConfig _ | .getTaskPushNotificationConfig _ _
  | .listTaskPushNotificationConfigs _ | .deleteTaskPushNotificationConfig _ _ =>
      if handler.pushNotifications then { call with pc := .configLoadTask }
      else call.reject .pushNotificationNotSupported

end A2A.Server
