import A2A.Server.Semantics.Awaited

namespace A2A.Server

open Library

/-! A second run in which one request asks for another history length.

`Call.Twin` relates the two records of that request's call, and `State.Twin` the two states
of the handler.  A trim in place makes the event heaps differ, so the relation asks for equal
events only where a call still reads them.
-/

/-- The same request with another history length. -/
def configured (params : SendMessageRequest) (historyLength : Option Int) : SendMessageRequest :=
  { params with
    configuration :=
      match params.configuration with
      | some configuration => some { configuration with historyLength }
      | none => historyLength.map fun length => {
          acceptedOutputModes := []
          taskPushNotificationConfig := none
          historyLength := some length
          returnImmediately := false } }

def Request.withHistoryLength (historyLength : Option Int) : Request → Request
  | .sendMessage params => .sendMessage (configured params historyLength)
  | .sendMessageStream params => .sendMessageStream (configured params historyLength)
  | .getTask id _ => .getTask id historyLength
  | .listTasks params => .listTasks { params with historyLength }
  | request => request

section

variable (params : SendMessageRequest) (historyLength : Option Int)

@[simp] theorem configured_message : (configured params historyLength).message = params.message :=
  rfl

@[simp] theorem isBlocking_configured :
    isBlocking (configured params historyLength) = isBlocking params := by
  cases chosen : params.configuration <;> cases historyLength <;> simp [isBlocking, configured, chosen]

@[simp] theorem historyLengthOf_configured :
    historyLengthOf (configured params historyLength) = historyLength := by
  cases chosen : params.configuration <;> cases historyLength <;>
    simp [historyLengthOf, configured, chosen]

@[simp] theorem inlinePushConfig_configured (handler : Handler) :
    handler.inlinePushConfig (configured params historyLength) = handler.inlinePushConfig params := by
  cases chosen : params.configuration <;> cases historyLength <;>
    simp [Handler.inlinePushConfig, configured, chosen]

@[simp] theorem requestTaskId_withHistoryLength (request : Request) :
    Call.requestTaskId (request.withHistoryLength historyLength) = Call.requestTaskId request := by
  cases request <;> rfl

end

def withoutHistory (task : Task) : Task := { task with history := [] }

theorem withoutHistory_applied (historyLength : Option Int) (task : Task) :
    withoutHistory (applyHistoryLengthSemantics historyLength task) = withoutHistory task := by
  obtain ⟨history, applied⟩ := applyHistoryLengthSemantics_eq historyLength task
  rw [applied]
  rfl

/-- How many messages of its history a task is left with. -/
def keptMessages (historyLength : Option Int) (task : Task) : Nat :=
  match historyLength with
  | none => task.history.length
  | some length => min length.toNat task.history.length

theorem applyHistoryLengthSemantics_kept (historyLength : Option Int) (task : Task) :
    applyHistoryLengthSemantics historyLength task =
      { task with history := task.history.drop (task.history.length - keptMessages historyLength task) } := by
  cases historyLength with
  | none => simp [applyHistoryLengthSemantics, keptMessages]
  | some length =>
      simp only [applyHistoryLengthSemantics, keptMessages]
      split
      · have zero : length.toNat = 0 := by omega
        simp [zero]
      · congr 2
        omega

theorem applyHistoryLengthSemantics_congr {historyLength other : Option Int} {task : Task}
    (alike : keptMessages historyLength task = keptMessages other task) :
    applyHistoryLengthSemantics historyLength task = applyHistoryLengthSemantics other task := by
  rw [applyHistoryLengthSemantics_kept, applyHistoryLengthSemantics_kept, alike]

def Pc.saves : Pc → Bool
  | .save _ _ _ => true
  | _ => false

/-- A locked section replaces the current task from the row it loads, or leaves it alone. -/
theorem ResultManager.merge_recast (manager : ResultManager) (current loaded : Option Task)
    (event : AgentExecutionEvent) :
    let twin := { manager with currentTask := current }
    twin.merge loaded event = manager.merge loaded event ∨
      (twin.merge loaded event =
          ({ (manager.merge loaded event).1 with currentTask := current }, false) ∧
        (manager.merge loaded event).1.currentTask = manager.currentTask ∧
        (manager.merge loaded event).2 = false) := by
  cases event with
  | message data => exact .inr ⟨rfl, rfl, rfl⟩
  | task data => exact .inl rfl
  | statusUpdate data =>
      refine .inl ?_
      simp only [merge]
  | artifactUpdate data =>
      cases named : data.artifact with
      | none => exact .inr (by simp [merge, named])
      | some artifact =>
          refine .inl ?_
          simp only [merge, named]

namespace Call

variable {handler : Handler} {view : View} {pid : Pid} {fate : Fate} {call : Call}

/-- The call with another request and another answer. -/
def recast (call : Call) (request : Request) (outcome : Option Outcome)
    (yielded : List StreamResponse) (current : Option Task) : Call :=
  { call with
    request, outcome, yielded
    resultManager := { call.resultManager with currentTask := current } }

/-- The call's record in the second run.  The current task may be cut to another history when it
is neither about to be saved nor ever pushed. -/
inductive Twin (handler : Handler) (historyLength : Option Int) (call : Call) : Call → Prop
  | intro {outcome yielded current} :
      outcome.isSome = call.outcome.isSome →
      current.map withoutHistory = call.resultManager.currentTask.map withoutHistory →
      (handler.pushNotifications = true ∨ call.pc.saves = true →
        current = call.resultManager.currentTask) →
      Twin handler historyLength call
        (call.recast (call.request.withHistoryLength historyLength) outcome yielded current)

/-- Nothing that others see is cut by the truncation in the step: neither an event that is still
awaited, nor a task that is pushed.  The payload of an event whose task could not be loaded is
the event itself. -/
def Spares (handler : Handler) (historyLength : Option Int) (awaited : Prop) (view : View)
    (fate : Fate) (event : AgentExecutionEvent) (call : Call) : Prop :=
  let (response, stored) := mapEventToStreamResponse view fate event
  match call.request with
  | .sendMessageStream params =>
      (∀ data, event = .task data → stored = false → awaited →
        keptMessages (historyLengthOf params) data = keptMessages historyLength data) ∧
      ∀ task, response = .task task → handler.pushNotifications = true →
        keptMessages (historyLengthOf params) task = keptMessages historyLength task
  | .sendMessage params =>
      isBlocking params = false → call.firstResultSent = false →
        match event with
        | .message _ => True
        | .task data => awaited ∨ (handler.pushNotifications = true ∧ stored = false) →
            keptMessages (historyLengthOf params) data = keptMessages historyLength data
        | .statusUpdate _ | .artifactUpdate _ =>
            ∀ task, call.resultManager.getFinalResult = some (.task task) →
              handler.pushNotifications = true →
              keptMessages (historyLengthOf params) task = keptMessages historyLength task
  | _ => True

theorem Spares.notified {historyLength : Option Int} {awaited : Prop} {event : AgentExecutionEvent}
    (spares : call.Spares handler historyLength awaited view fate event) (response : StreamResponse) :
    (call.notify handler response).Spares handler historyLength awaited view fate event := by
  simp only [notify]
  split <;> exact spares

/-- The trims of one step in the two runs. -/
inductive Trims (historyLength : Option Int) (awaited : Prop) (id : EventId)
    (event : AgentExecutionEvent) : List Effect → List Effect → Prop
  | none : Trims historyLength awaited id event [] []
  | trim {first} : (awaited → event.trim first = event.trim historyLength) →
      Trims historyLength awaited id event [.trim id first] [.trim id historyLength]

/-- The results of one step in the two runs. -/
def Twins (handler : Handler) (historyLength : Option Int) (result twin : Call × List Effect) : Prop :=
  Twin handler historyLength result.1 twin.1 ∧ twin.2 = result.2

namespace Twin

variable {historyLength : Option Int} {twin : Call}

theorem request (twins : Twin handler historyLength call twin) :
    twin.request = call.request.withHistoryLength historyLength := by
  cases twins
  rfl

theorem current (twins : Twin handler historyLength call twin) :
    (call.resultManager.currentTask = none ∧ twin.resultManager.currentTask = none) ∨
      ∃ task kept, call.resultManager.currentTask = some task ∧
        twin.resultManager.currentTask = some kept ∧ withoutHistory kept = withoutHistory task := by
  cases twins with
  | @intro outcome yielded current answered core exact =>
      cases stored : call.resultManager.currentTask with
      | none =>
          rw [stored] at core
          exact .inl ⟨rfl, Option.map_eq_none_iff.mp core⟩
      | some task =>
          rw [stored] at core
          obtain ⟨kept, found, same⟩ := Option.map_eq_some_iff.mp core
          exact .inr ⟨task, kept, rfl, found, same⟩

theorem moved (twins : Twin handler historyLength call twin) (pc : Pc)
    (saving : pc.saves = true → call.pc.saves = true) :
    Twin handler historyLength { call with pc } { twin with pc } := by
  cases twins with
  | intro answered core exact => exact .intro answered core fun holds => exact (holds.imp_right saving)

theorem settle (twins : Twin handler historyLength call twin) (outcome other : Outcome) :
    Twin handler historyLength (call.settle outcome) (twin.settle other) := by
  cases twins with
  | @intro before yielded current answered core exact =>
      refine @intro handler historyLength (call.settle outcome) (before <|> some other) yielded current
        ?_ core exact
      cases before <;> cases earlier : call.outcome <;> simp_all [Call.settle]

theorem finish (twins : Twin handler historyLength call twin) (outcome other : Outcome) :
    Twin handler historyLength (call.finish outcome) (twin.finish other) :=
  (twins.settle outcome other).moved .finished (by simp [Pc.saves])

theorem stopQueue (twins : Twin handler historyLength call twin) :
    Twin handler historyLength call.stopQueue twin.stopQueue := by
  cases twins with
  | intro answered core exact => exact .intro answered core exact

theorem reject (twins : Twin handler historyLength call twin) (reason : ServerError) :
    Twin handler historyLength (call.reject reason) (twin.reject reason) :=
  twins.finish _ _

theorem drained (twins : Twin handler historyLength call twin) :
    Twin handler historyLength call.drained twin.drained :=
  twins.moved .finished (by simp [Pc.saves])

theorem resolveReferences (twins : Twin handler historyLength call twin) (message : Message)
    (task : Option Task) (taskId : String) :
    Twin handler historyLength (call.resolveReferences message task taskId)
      (twin.resolveReferences message task taskId) := by
  refine twins.moved _ ?_
  split <;> simp [Pc.saves]

theorem taskLoaded (twins : Twin handler historyLength call twin) (message : Message)
    (loaded : Option Task) :
    Twin handler historyLength (call.taskLoaded message loaded) (twin.taskLoaded message loaded) := by
  simp only [Call.taskLoaded]
  split
  · exact twins.reject _
  · split
    · exact twins.reject _
    · split
      · exact twins.reject _
      · exact twins.moved _ (by simp [Pc.saves])

theorem attached (twins : Twin handler historyLength call twin) (bus : BusId) :
    Twin handler historyLength (call.attachQueue bus) (twin.attachQueue bus) := by
  cases twins with
  | intro answered core exact => exact .intro answered core exact

theorem started (twins : Twin handler historyLength call twin) (bus : BusId)
    (requestContext : RequestContext) :
    Twin handler historyLength (call.runExecutor bus requestContext)
      (twin.runExecutor bus requestContext) := by
  cases twins with
  | intro answered core exact =>
      exact .intro answered core fun holds => exact (holds.imp_right (by simp [Call.runExecutor, Pc.saves]))

theorem contextCreated (twins : Twin handler historyLength call twin)
    (requestContext : RequestContext) :
    Twins handler historyLength (Call.contextCreated handler view pid call requestContext)
      (Call.contextCreated handler view pid twin requestContext) := by
  cases twins with
  | intro answered core exact =>
      rcases call with ⟨request⟩
      cases request with
      | sendMessage params | sendMessageStream params =>
          simp only [Call.contextCreated, Call.recast, Request.withHistoryLength, inlinePushConfig_configured]
          cases handler.inlinePushConfig params with
          | none | some =>
              exact ⟨.intro answered core fun holds =>
                exact (holds.imp_right (by simp [Call.attachQueue, Call.runExecutor, Pc.saves])), rfl⟩
      | _ => exact ⟨.intro answered core exact, rfl⟩

theorem agentCardServed (twins : Twin handler historyLength call twin) (message : Message)
    (task : Option Task) (taskId : String) (referenceTasks : Option (List Task)) :
    Twins handler historyLength
      (Call.agentCardServed handler view pid call message task taskId referenceTasks)
      (Call.agentCardServed handler view pid twin message task taskId referenceTasks) := by
  have same : twin.requestedExtensions = call.requestedExtensions ∧ twin.fresh = call.fresh := by
    cases twins
    exact ⟨rfl, rfl⟩
  simp only [Call.agentCardServed, same]
  split
  · refine contextCreated ?_ _
    cases twins with
    | intro answered core exact => exact .intro answered core exact
  · exact ⟨twins.reject _, rfl⟩

theorem leaveLoop (twins : Twin handler historyLength call twin) :
    Twin handler historyLength call.leaveLoop twin.leaveLoop := by
  cases twins with
  | @intro outcome yielded current answered core exact =>
      have stopped : Twin handler historyLength call.stopQueue
          (call.recast (call.request.withHistoryLength historyLength) outcome yielded current).stopQueue :=
        (Twin.intro answered core exact).stopQueue
      rcases call with ⟨request, _, _, _, _, ⟨task, _, final⟩, _, _, _, _, _, sent⟩
      cases request with
      | sendMessage params =>
          simp only [Call.leaveLoop, Call.recast, Request.withHistoryLength, isBlocking_configured,
            ResultManager.getFinalResult]
          split
          · cases final with
            | some message => exact stopped.finish _ _
            | none =>
                cases current <;> cases task <;> simp only [Option.map_some, Option.map_none,
                  reduceCtorEq] at core
                · exact stopped.reject _
                · exact stopped.finish _ _
          · cases sent with
            | true => exact stopped.drained
            | false => exact stopped.reject _
      | cancelTask id => exact stopped.moved _ (by simp [Pc.saves])
      | _ => exact stopped.finish _ _

theorem afterYield (twins : Twin handler historyLength call twin) (event : AgentExecutionEvent) :
    Twin handler historyLength (call.afterYield event) (twin.afterYield event) := by
  simp only [Call.afterYield]
  split
  · exact twins.leaveLoop
  · exact twins.moved _ (by simp [Pc.saves])

theorem processEvent (twins : Twin handler historyLength call twin) (ref : EventRef)
    (event : AgentExecutionEvent) :
    Twins handler historyLength (call.processEvent ref event) (twin.processEvent ref event) := by
  have same : twin.lockKeyOf event = call.lockKeyOf event := by
    cases twins
    rfl
  cases target : event.target with
  | none =>
      simp only [Call.processEvent, target]
      exact ⟨twins, rfl⟩
  | some taskId =>
      rw [processEvent_eq target, processEvent_eq target, same]
      exact ⟨twins.moved (.lock ref (call.lockKeyOf event)) (by simp [Pc.saves]), rfl⟩

theorem processed (twins : Twin handler historyLength call twin) (ref : EventRef)
    (event : AgentExecutionEvent) :
    Twin handler historyLength (call.processed ref event) (twin.processed ref event) := by
  cases ref with
  | own own => exact twins.stopQueue.drained
  | published id =>
      cases twins with
      | intro answered core exact =>
          exact .intro answered core fun holds => exact (holds.imp_right (by simp [Call.processed, Pc.saves]))

theorem processingFailure_core (call : Call) (error : String) {task other : Task}
    (same : withoutHistory other = withoutHistory task) :
    call.processingFailure other error = call.processingFailure task error := by
  have id : other.id = task.id := by simpa [withoutHistory] using congrArg Task.id same
  have contextId : other.contextId = task.contextId := by
    simpa [withoutHistory] using congrArg Task.contextId same
  simp only [processingFailure, id, contextId]

/-- A failure of the loop is reported under the task's ids, which no trim changes. -/
theorem processingFailed (twins : Twin handler historyLength call twin) (ref : EventRef)
    (error : String) :
    Twins handler historyLength (call.processingFailed ref error) (twin.processingFailed ref error) := by
  cases ref with
  | own own => exact ⟨twins.stopQueue.drained, rfl⟩
  | published id =>
      have sent : twin.firstResultSent = call.firstResultSent := by
        cases twins
        rfl
      simp only [Call.processingFailed, twins.request, sent]
      cases call.request with
      | sendMessage params =>
          simp only [Request.withHistoryLength]
          split
          · rcases twins.current with ⟨none, other⟩ | ⟨task, kept, current, stored, same⟩
            · simp only [none, other]
              exact ⟨twins.stopQueue.drained, rfl⟩
            · have failure : twin.processingFailure kept error = call.processingFailure task error := by
                rw [← processingFailure_core call error same]
                cases twins
                rfl
              simp only [current, stored, failure]
              exact twins.processEvent _ _
          · exact ⟨twins.stopQueue.reject _, rfl⟩
      | _ => exact ⟨twins.stopQueue.reject _, rfl⟩

theorem takeEvent (twins : Twin handler historyLength call twin) (id : EventId)
    (event : AgentExecutionEvent) :
    Twins handler historyLength (call.takeEvent id event) (twin.takeEvent id event) := by
  cases event with
  | message data =>
      cases twins with
      | intro answered core exact =>
          exact ⟨.intro answered core fun holds =>
            exact (holds.imp_right (by simp [Call.takeEvent, AgentExecutionEvent.target,
              Call.processed, Pc.saves])), rfl⟩
  | task data | statusUpdate data | artifactUpdate data => exact twins.processEvent _ _

theorem forward (twins : Twin handler historyLength call twin) (taskId : String) (id : EventId)
    (event : AgentExecutionEvent) :
    Twin handler historyLength (call.forward taskId id event) (twin.forward taskId id event) := by
  have looked : Twin handler historyLength { call with handled := call.handled ++ [(id, event)] }
      { twin with handled := twin.handled ++ [(id, event)] } := by
    cases twins with
    | intro answered core exact => exact .intro answered core exact
  simp only [Call.forward]
  split
  · cases twins with
    | intro answered core exact =>
        exact .intro answered core fun holds => exact (holds.imp_right (by simp [Pc.saves]))
  · split
    · exact looked.leaveLoop
    · exact looked.moved .pull (by simp [Pc.saves])

theorem shifted (twins : Twin handler historyLength call twin) (queue : Queue) (rest : List EventId)
    (streamPattern : StreamPattern) :
    Twin handler historyLength { call.shifted queue rest with streamPattern }
      { twin.shifted queue rest with streamPattern } := by
  cases twins with
  | intro answered core exact => exact .intro answered core exact

theorem pull (twins : Twin handler historyLength call twin) :
    Option.Rel (Twins handler historyLength) (call.pull view) (twin.pull view) := by
  have both := twins
  cases twins with
  | intro answered core exact =>
      rcases call with ⟨request, _, _, _, _, _, _ | ⟨bus, _ | ⟨id, rest⟩, stopped, attached⟩⟩
      · exact .none
      · cases stopped with
        | true => exact .some ⟨both.leaveLoop, rfl⟩
        | false => exact .none
      · simp only [Call.pull, Call.recast]
        cases view.event id with
        | none => exact .none
        | some event =>
            have shifted := both.shifted ⟨bus, id :: rest, stopped, attached⟩ rest
            cases request with
            | resubscribe taskId => exact .some ⟨(shifted _).forward taskId id event, rfl⟩
            | sendMessageStream params =>
                simp only [Request.withHistoryLength]
                cases advanceStreamPattern event _ with
                | error text => exact .some ⟨(shifted _).stopQueue.reject _, rfl⟩
                | ok pattern => exact .some ((shifted pattern).takeEvent id event)
            | _ => exact .some ((shifted _).takeEvent id event)

/-- The end of a locked section that has loaded its row. -/
theorem merged (twins : Twin handler historyLength call twin) (ref : EventRef) (key : Option String)
    (event : AgentExecutionEvent) (loaded : Option Task) :
    Option.Rel (Twins handler historyLength)
      (let (manager, saves) := call.resultManager.merge loaded event
       let merged := { call with resultManager := manager }
       if saves then some ({ merged with pc := .save ref key event }, [])
       else some (merged.processed ref event, releaseEffects key))
      (let (manager, saves) := twin.resultManager.merge loaded event
       let merged := { twin with resultManager := manager }
       if saves then some ({ merged with pc := .save ref key event }, [])
       else some (merged.processed ref event, releaseEffects key)) := by
  cases twins with
  | @intro outcome yielded current answered core exact =>
      rcases call.resultManager.merge_recast current loaded event with same | ⟨kept, stays, skips⟩
      · have replaced : Twin handler historyLength
            { call with resultManager := (call.resultManager.merge loaded event).1 }
            { call.recast (call.request.withHistoryLength historyLength) outcome yielded current with
              resultManager := (call.resultManager.merge loaded event).1 } :=
          .intro answered rfl fun _ => rfl
        simp only [Call.recast, same]
        split
        · exact .some ⟨.intro answered rfl fun _ => rfl, rfl⟩
        · exact .some ⟨replaced.processed ref event, rfl⟩
      · have passed : Twin handler historyLength
            { call with resultManager := (call.resultManager.merge loaded event).1 }
            { call.recast (call.request.withHistoryLength historyLength) outcome yielded current with
              resultManager :=
                { (call.resultManager.merge loaded event).1 with currentTask := current } } := by
          refine .intro answered ?_ ?_ <;> rw [stays]
          · exact core
          · exact exact
        simp only [Call.recast, kept, skips]
        exact .some ⟨passed.processed ref event, rfl⟩

theorem enterLock (twins : Twin handler historyLength call twin) (ref : EventRef)
    (key : Option String) (fate : Fate) :
    Option.Rel (Twins handler historyLength) (call.enterLock view ref key fate)
      (twin.enterLock view ref key fate) := by
  simp only [Call.enterLock]
  split
  · cases ref.resolve view with
    | none => exact .none
    | some event =>
        cases fate with
        | fail error =>
            simp only
            split
            · exact .some ⟨(twins.processingFailed ref error).1,
                congrArg (releaseEffects key ++ ·) (twins.processingFailed ref error).2⟩
            · exact .none
        | ok =>
            simp only
            generalize (if ResultManager.needsLoad event then event.target.bind view.load else none) = loaded
            exact twins.merged ref key event loaded
  · exact .none

theorem saveCurrentTask (twins : Twin handler historyLength call twin) (ref : EventRef)
    (key : Option String) (event : AgentExecutionEvent) (fate : Fate)
    (saving : call.pc = .save ref key event) :
    Option.Rel (Twins handler historyLength) (call.saveCurrentTask handler ref key event fate)
      (twin.saveCurrentTask handler ref key event fate) := by
  have same : twin.resultManager = call.resultManager ∧ twin.context = call.context := by
    cases twins with
    | intro answered core exact =>
        have kept := exact (.inr (by rw [saving]; rfl))
        rw [kept]
        exact ⟨rfl, rfl⟩
  simp only [Call.saveCurrentTask, same]
  cases call.resultManager.currentTask with
  | none => exact .none
  | some task =>
      cases fate with
      | ok => exact .some ⟨twins.processed ref event, rfl⟩
      | fail error =>
          exact .some ⟨(twins.processingFailed ref error).1,
            congrArg (releaseEffects key ++ ·) (twins.processingFailed ref error).2⟩

theorem next (twins : Twin handler historyLength call twin) (last : Option EventId) :
    Option.Rel (Twins handler historyLength) (call.next view last) (twin.next view last) := by
  have both := twins
  cases twins with
  | intro answered core exact =>
      rcases call with ⟨request, _, _, _, _, _, _ | queue⟩
      · exact .some ⟨both.finish _ _, rfl⟩
      · cases last with
        | none => exact .some ⟨both.moved .pull (by simp [Pc.saves]), rfl⟩
        | some id =>
            simp only [Call.next, Call.recast]
            cases view.event id with
            | none => exact .none
            | some event => exact .some ⟨both.afterYield event, rfl⟩

theorem cancelLoaded (twins : Twin handler historyLength call twin) (taskId : String)
    (loaded : Option Task) :
    Twin handler historyLength (call.cancelLoaded view taskId loaded)
      (twin.cancelLoaded view taskId loaded) := by
  simp only [Call.cancelLoaded]
  split
  · exact twins.reject _
  · split
    · exact twins.finish _ _
    · split
      · exact twins.reject _
      · split
        · exact (twins.attached _).moved .cancelExecute (by simp [Pc.saves])
        · exact twins.moved (.cancelSave _) (by simp [Pc.saves])

theorem cancelReloaded (twins : Twin handler historyLength call twin) (taskId : String)
    (loaded : Option Task) :
    Twin handler historyLength (call.cancelReloaded taskId loaded)
      (twin.cancelReloaded taskId loaded) := by
  simp only [Call.cancelReloaded]
  split
  · exact twins.reject _
  · split
    · exact twins.reject _
    · split
      · exact twins.finish _ _
      · exact twins.reject _

theorem resubscribeLoaded (twins : Twin handler historyLength call twin) (taskId : String)
    (loaded : Option Task) :
    Twin handler historyLength (call.resubscribeLoaded taskId loaded)
      (twin.resubscribeLoaded taskId loaded) := by
  simp only [Call.resubscribeLoaded]
  split
  · exact twins.stopQueue.reject _
  · split
    · exact twins.stopQueue.reject _
    · cases twins with
      | intro answered core exact =>
          exact .intro answered core fun holds => exact (holds.imp_right (by simp [Pc.saves]))

theorem configApply (twins : Twin handler historyLength call twin) :
    Twins handler historyLength (Call.configApply handler view call)
      (Call.configApply handler view twin) := by
  have same : twin.context = call.context ∧ twin.fresh = call.fresh := by
    cases twins
    exact ⟨rfl, rfl⟩
  simp only [Call.configApply, same, twins.request]
  cases call.request with
  | createTaskPushNotificationConfig params => exact ⟨twins.finish _ _, rfl⟩
  | getTaskPushNotificationConfig taskId id =>
      simp only [Request.withHistoryLength]
      split
      · exact ⟨twins.reject _, rfl⟩
      · split
        · exact ⟨twins.finish _ _, rfl⟩
        · exact ⟨twins.reject _, rfl⟩
  | listTaskPushNotificationConfigs taskId => exact ⟨twins.finish _ _, rfl⟩
  | deleteTaskPushNotificationConfig taskId id => exact ⟨twins.finish _ _, rfl⟩
  | _ => exact ⟨twins, rfl⟩

theorem getTaskLoaded (twins : Twin handler historyLength call twin) (loaded : Option Task) :
    Twin handler historyLength (call.getTaskLoaded loaded) (twin.getTaskLoaded loaded) := by
  obtain ⟨outcome, answered⟩ := call.getTaskLoaded_answers loaded
  obtain ⟨other, again⟩ := twin.getTaskLoaded_answers loaded
  rw [answered, again]
  exact twins.finish _ _

theorem tasksListed (twins : Twin handler historyLength call twin) :
    Twin handler historyLength (call.tasksListed handler view) (twin.tasksListed handler view) := by
  obtain ⟨outcome, answered⟩ := @tasksListed_answers handler view call
  obtain ⟨other, again⟩ := @tasksListed_answers handler view twin
  rw [answered, again]
  exact twins.finish _ _

theorem resume (twins : Twin handler historyLength call twin) (fate : Fate)
    (elsewhere : ∀ id, call.pc ≠ .map id) :
    Option.Rel (Twins handler historyLength) (call.resume handler view pid fate)
      (twin.resume handler view pid fate) := by
  have same : twin.pc = call.pc ∧ twin.context = call.context ∧ twin.fresh = call.fresh ∧
      twin.eventQueue = call.eventQueue := by
    cases twins
    exact ⟨rfl, rfl, rfl, rfl⟩
  cases fate with
  | ok =>
      simp only [Call.resume, resumeOk, same, twins.request, requestTaskId_withHistoryLength]
      cases counter : call.pc with
      | map id => exact absurd counter (elsewhere id)
      | loadTask message => exact .some ⟨twins.taskLoaded _ _, rfl⟩
      | saveHistory message task => exact .some ⟨twins.resolveReferences _ _ _, rfl⟩
      | loadReferences message task taskId pending loaded =>
          cases pending with
          | nil => exact .none
          | cons reference pending =>
              cases twins with
              | intro answered core exact =>
                  refine .some ⟨.intro answered core fun holds => exact (holds.imp_right ?_), rfl⟩
                  simp only
                  split <;> simp [Pc.saves]
      | getAgentCard message task taskId referenceTasks => exact .some (twins.agentCardServed _ _ _ _)
      | savePushConfig requestContext config =>
          simp only
          split
          · exact .some ⟨twins.started _ _, rfl⟩
          · exact .some ⟨(twins.attached _).started _ _, rfl⟩
      | pull => exact twins.pull
      | lock ref key => exact twins.enterLock ref key .ok
      | save ref key event => exact twins.saveCurrentTask ref key event .ok counter
      | suspended last => exact twins.next last
      | cancelLoad => exact .some ⟨twins.cancelLoaded _ _, rfl⟩
      | cancelExecute =>
          cases twins with
          | intro answered core exact =>
              exact .some ⟨.intro answered core fun holds =>
                exact (holds.imp_right (by simp [Pc.saves])), rfl⟩
      | cancelSave task =>
          cases twins with
          | intro answered core exact =>
              exact .some ⟨.intro answered core fun holds =>
                exact (holds.imp_right (by simp [Pc.saves])), rfl⟩
      | cancelReload => exact .some ⟨twins.cancelReloaded _ _, rfl⟩
      | resubscribeLoad => exact .some ⟨twins.resubscribeLoaded _ _, rfl⟩
      | getTaskLoad => exact .some ⟨twins.getTaskLoaded _, rfl⟩
      | listTasks => exact .some ⟨twins.tasksListed, rfl⟩
      | configLoadTask =>
          simp only
          split
          · exact .some ⟨twins.reject _, rfl⟩
          · cases twins with
            | intro answered core exact =>
                exact .some ⟨.intro answered core fun holds =>
                  exact (holds.imp_right (by simp [Pc.saves])), rfl⟩
      | configApply => exact .some twins.configApply
      | finished => exact .none
  | fail error =>
      simp only [Call.resume, resumeFailed, same]
      cases counter : call.pc with
      | map id => exact absurd counter (elsewhere id)
      | lock ref key => exact twins.enterLock ref key (.fail error)
      | save ref key event => exact twins.saveCurrentTask ref key event (.fail error) counter
      | getAgentCard message task taskId referenceTasks =>
          simp only
          split
          · exact .some ⟨twins.reject _, rfl⟩
          · exact .none
      | resubscribeLoad => exact .some ⟨twins.stopQueue.reject _, rfl⟩
      | pull | suspended | finished => exact .none
      | _ => exact .some ⟨twins.reject _, rfl⟩

theorem notify (twins : Twin handler historyLength call twin) {response other : StreamResponse}
    (same : handler.pushNotifications = true → other = response) :
    Twin handler historyLength (call.notify handler response) (twin.notify handler other) := by
  simp only [Call.notify]
  split
  · rename_i pushes
    cases twins with
    | intro answered core exact =>
        have kept := exact (.inl pushes)
        rw [same pushes, kept]
        exact .intro answered rfl fun _ => rfl
  · exact twins

theorem handOutResults (twins : Twin handler historyLength call twin) {awaited : Prop} {id : EventId}
    {event : AgentExecutionEvent} (counter : call.pc = .map id)
    (spares : call.Spares handler historyLength awaited view fate event) :
    Twin handler historyLength (call.handOutResults id event).1 (twin.handOutResults id event).1 ∧
      Trims historyLength awaited id event (call.handOutResults id event).2
        (twin.handOutResults id event).2 := by
  have both := twins
  cases twins with
  | @intro outcome yielded current answered core exact =>
      have settled : ∀ (first second : Option Outcome) (one other : Outcome),
          (first <|> some one).isSome = (second <|> some other).isSome := by
        intro first second one other
        cases first <;> cases second <;> rfl
      rcases call with ⟨request, _, _, _, pc, ⟨task, _, final⟩, _, _, _, _, _, sent, snapshot⟩
      cases request with
      | sendMessage params =>
          simp only [Call.handOutResults, Call.recast, Request.withHistoryLength,
            isBlocking_configured, historyLengthOf_configured]
          cases blocks : isBlocking params with
          | true =>
              simp only [if_true]
              split
              · cases current <;> cases task <;> simp only [Option.map_some, Option.map_none,
                  reduceCtorEq] at core
                · exact ⟨both, .none⟩
                · exact ⟨.intro (settled _ _ _ _) (congrArg some (Option.some.inj core)) exact, .none⟩
              · exact ⟨both, .none⟩
          | false =>
              cases sent with
              | true => exact ⟨both, .none⟩
              | false =>
                  have alike := spares blocks rfl
                  cases event with
                  | message data => exact ⟨.intro (settled _ _ _ _) core exact, .none⟩
                  | task data =>
                      refine ⟨.intro (settled _ _ _ _) core exact, .trim fun awaits => ?_⟩
                      exact congrArg _ (applyHistoryLengthSemantics_congr (alike (.inl awaits)))
                  | statusUpdate data | artifactUpdate data =>
                      cases final with
                      | some message => exact ⟨.intro (settled _ _ _ _) core exact, .none⟩
                      | none =>
                          rcases current with _ | kept <;> rcases task with _ | stored <;>
                            simp only [Option.map_some, Option.map_none, reduceCtorEq] at core
                          · exact ⟨both, .none⟩
                          · have cores := Option.some.inj core
                            refine ⟨.intro (settled _ _ _ _) (congrArg some
                              ((withoutHistory_applied _ _).trans
                                (cores.trans (withoutHistory_applied _ _).symm))) fun holds => ?_,
                              .none⟩
                            have pushes := holds.resolve_right (by
                              change ¬ Pc.saves pc = true
                              rw [show pc = .map id from counter]
                              simp [Pc.saves])
                            cases Option.some.inj (exact (.inl pushes))
                            exact congrArg some
                              (applyHistoryLengthSemantics_congr (alike _ rfl pushes)).symm
      | _ => exact ⟨both, .none⟩

theorem trimResponse_congr {first second : Option Int} {response : StreamResponse}
    (alike : ∀ task, response = .task task → keptMessages first task = keptMessages second task) :
    trimResponse first response = trimResponse second response := by
  cases response with
  | task task => exact congrArg _ (applyHistoryLengthSemantics_congr (alike task rfl))
  | _ => rfl

theorem mapEvent (twins : Twin handler historyLength call twin) {awaited : Prop} {id : EventId}
    {event : AgentExecutionEvent} (counter : call.pc = .map id) (known : view.event id = some event)
    (spares : call.Spares handler historyLength awaited view fate event) :
    Option.Rel (fun result other => Twin handler historyLength result.1 other.1 ∧
        Trims historyLength awaited id event result.2 other.2)
      (call.mapEvent handler view id fate) (twin.mapEvent handler view id fate) := by
  simp only [Call.mapEvent, known, twins.request]
  cases requested : call.request with
  | sendMessageStream params =>
      simp only [Request.withHistoryLength, historyLengthOf_configured]
      simp only [Call.Spares, requested] at spares
      have notified := twins.notify fun pushes =>
        (trimResponse_congr fun task same => spares.2 task same pushes).symm
      generalize mapEventToStreamResponse view fate event = mapped at spares notified ⊢
      obtain ⟨response, stored⟩ := mapped
      refine .some ⟨?_, ?_⟩
      · generalize call.notify handler _ = first at notified ⊢
        generalize twin.notify handler _ = second at notified ⊢
        cases notified with
        | intro answered core exact =>
            exact .intro answered core fun holds => exact (holds.imp_right (by simp [Pc.saves]))
      · cases stored with
        | true => exact .none
        | false =>
            refine .trim fun awaits => ?_
            cases event with
            | task data =>
                exact congrArg _ (applyHistoryLengthSemantics_congr (spares.1 data rfl rfl awaits))
            | _ => rfl
  | _ =>
      have notified := @notify handler _ _ _ twins (mapEventToStreamResponse view fate event).1 _ fun _ => rfl
      have handed := @handOutResults handler view fate _ _ _ notified awaited id event
        ((notify_rest handler call _).1.trans counter) (spares.notified _)
      exact .some ⟨handed.1.afterYield event, handed.2⟩

end Twin

end Call

end A2A.Server
