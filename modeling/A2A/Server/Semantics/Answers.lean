import A2A.Server.Semantics.SoleWriter

namespace A2A.Server

/-! What a call answers with, and from where it takes it.

A resumed call that has not answered keeps its manager's current task unless
it merges an event.  The last section says which task a `sendMessage` call
settles its promise with.
-/

/-- The awaits of `sendMessage` and `sendMessageStream`. -/
def Pc.sends : Pc → Bool
  | .cancelLoad | .cancelExecute | .cancelSave _ | .cancelReload | .resubscribeLoad | .getTaskLoad
  | .listTasks | .configLoadTask | .configApply => false
  | _ => true

namespace Call

variable {handler : Handler} {view : View} {pid : Pid} {fate : Fate} {call after : Call}
  {effects : List Effect}

theorem leaveLoop_resultManager : call.leaveLoop.resultManager = call.resultManager := by
  simp only [leaveLoop]
  cases call.request with
  | sendMessage params =>
      simp only
      split
      · split <;> rfl
      · split <;> rfl
  | _ => rfl

theorem afterYield_resultManager (event : AgentExecutionEvent) :
    (call.afterYield event).resultManager = call.resultManager := by
  simp only [afterYield]
  split
  · exact leaveLoop_resultManager
  · rfl

theorem forward_resultManager (taskId : String) (id : EventId) (event : AgentExecutionEvent) :
    (call.forward taskId id event).resultManager = call.resultManager := by
  simp only [forward]
  split
  · rfl
  · split
    · exact leaveLoop_resultManager
    · rfl

theorem processed_resultManager (call : Call) (ref : EventRef) (event : AgentExecutionEvent) :
    (call.processed ref event).resultManager = call.resultManager := by
  cases ref <;> rfl

theorem takeEvent_currentTask (call : Call) {id : EventId} {event : AgentExecutionEvent}
    (took : call.takeEvent id event = (after, effects)) :
    after.resultManager.currentTask = call.resultManager.currentTask := by
  cases event with
  | message data =>
      cases took
      rfl
  | _ =>
      simp only [takeEvent, AgentExecutionEvent.target] at took
      rw [processEvent_eq (by rfl)] at took
      cases took
      rfl

theorem processingFailed_resultManager {ref : EventRef} {error : String}
    (failed : call.processingFailed ref error = (after, effects)) :
    after.resultManager = call.resultManager := by
  cases ref with
  | own failure =>
      cases failed
      rfl
  | published id =>
      simp only [processingFailed] at failed
      split at failed
      · split at failed
        · split at failed
          · cases failed
            rfl
          · rw [processEvent_eq (by rfl)] at failed
            cases failed
            rfl
        · cases failed
          rfl
      · cases failed
        rfl

/-- A failed event answers with an error, or leaves the answer to the loop. -/
theorem processingFailed_outcome {ref : EventRef} {error : String} (waiting : call.outcome = none)
    (failed : call.processingFailed ref error = (after, effects)) :
    after.outcome = none ∨ ∃ reason, after.outcome = some (.error reason) := by
  cases ref with
  | own failure =>
      cases failed
      exact .inl waiting
  | published id =>
      simp only [processingFailed] at failed
      split at failed
      · split at failed
        · split at failed
          · cases failed
            exact .inl waiting
          · rw [processEvent_eq (by rfl)] at failed
            cases failed
            exact .inl waiting
        · cases failed
          exact .inr ⟨_, by simp [reject, finish, settle, stopQueue, waiting]; rfl⟩
      · cases failed
        exact .inr ⟨_, by simp [reject, finish, settle, stopQueue, waiting]; rfl⟩

theorem takeEvent_outcome (call : Call) {id : EventId} {event : AgentExecutionEvent}
    (took : call.takeEvent id event = (after, effects)) : after.outcome = call.outcome := by
  cases event with
  | message data =>
      cases took
      rfl
  | _ =>
      simp only [takeEvent, AgentExecutionEvent.target] at took
      rw [processEvent_eq (by rfl)] at took
      cases took
      rfl

/-- A section that saves nothing leaves the manager with the task it had, or with none. -/
theorem merge_unsaved {manager after : ResultManager} {event : AgentExecutionEvent}
    (keyed : ∀ taskId task, view.load taskId = some task → task.id = taskId)
    (merged : manager.merge
      (if ResultManager.needsLoad event then event.target.bind view.load else none) event =
        (after, false)) :
    after.currentTask = none ∨ after.currentTask = manager.currentTask := by
  have named : ∀ {loaded : Option Task}, loaded =
      (if ResultManager.needsLoad event then event.target.bind view.load else none) →
      ∀ {task : Task}, loaded = some task → event.target = some task.id := by
    rintro loaded read task rfl
    split at read
    · obtain ⟨taskId, target, stored⟩ := Option.bind_eq_some_iff.mp read.symm
      rw [target, keyed taskId task stored]
    · cases read
  generalize read : (if ResultManager.needsLoad event then event.target.bind view.load else none) =
    loaded at merged
  cases event with
  | message data =>
      cases merged
      exact .inr rfl
  | task data => simp [ResultManager.merge] at merged
  | statusUpdate data =>
      simp only [ResultManager.merge] at merged
      split at merged
      · rename_i task
        have same := named read.symm rfl
        simp only [AgentExecutionEvent.target, Option.some.injEq] at same
        simp [same] at merged
      · cases merged
        exact .inl rfl
  | artifactUpdate data =>
      simp only [ResultManager.merge] at merged
      split at merged
      · cases merged
        exact .inr rfl
      · split at merged
        · rename_i task
          have same := named read.symm rfl
          simp only [AgentExecutionEvent.target, Option.some.injEq] at same
          simp [same] at merged
        · cases merged
          exact .inl rfl

/-- While a call has not answered, only a merge changes its manager's current task, and no
save fails. -/
theorem Resumed.unanswered (wellFormed : call.WellFormed)
    (keyed : ∀ taskId task, view.load taskId = some task → task.id = taskId)
    (resumed : Resumed handler view pid call fate after effects) (open' : after.outcome = none) :
    call.outcome = none ∧ (call.pc.saving = true → fate = .ok) ∧
      ((∃ ref key event, after.pc = .save ref key event) ∨ after.resultManager.currentTask = none ∨
        after.resultManager.currentTask = call.resultManager.currentTask) := by
  have answered : ∀ {earlier : Call} {outcome : Outcome},
      after.outcome = (earlier.settle outcome).outcome → False := by
    intro earlier outcome same
    have settled := @settle_outcome earlier outcome
    rw [← same, open'] at settled
    cases settled
  have earlier : ∀ {before : Call}, Frame before after → before.outcome = call.outcome →
      call.outcome = none := by
    intro before frame same
    cases settled : call.outcome with
    | none => rfl
    | some outcome =>
        have kept := frame.outcome (by rw [same, settled]; rfl)
        rw [open', same, settled] at kept
        cases kept
  have failing : ∀ {ref : EventRef} {error : String} {effects : List Effect},
      (∀ failure, ref = .own failure → call.firstResultSent = true) →
      call.processingFailed ref error = (after, effects) → False := by
    intro ref error effects own failed
    have settled : call.firstResultSent = true → Frame call after → False := by
      intro sent frame
      have some := wellFormed.answered sent
      rw [earlier frame rfl] at some
      cases some
    rcases processingFailed_cases failed with ⟨_, frame, _, _, sent | ⟨failure, reports⟩ | some⟩ |
      ⟨_, _, _, _, sent, _, rfl, _⟩
    · exact settled sent frame
    · exact settled (own failure reports) frame
    · rw [open'] at some
      cases some
    · exact settled sent .advanced
  cases resumed with
  | answered => exact (answered rfl).elim
  | @contextBuilt _ _ _ _ extensions after effects loading created =>
      cases wellFormed.contextBuilt loading created <;> exact ⟨open', fun _ => rfl, .inr (.inr rfl)⟩
  | loopEnded =>
      exact ⟨earlier leaveLoop_frame rfl, fun _ => rfl,
        .inr (.inr (congrArg _ leaveLoop_resultManager))⟩
  | @forwarded queue id rest event taskId =>
      exact ⟨earlier (forward_frame (call.shifted queue rest) taskId id event) rfl, fun _ => rfl,
        .inr (.inr (congrArg _ (forward_resultManager _ _ _)))⟩
  | violated => exact (answered rfl).elim
  | @taken queue id rest event pattern after effects _ _ _ _ _ _ took =>
      have frame := takeEvent_frame { call.shifted queue rest with streamPattern := pattern } id event
      rw [took] at frame
      have current := takeEvent_currentTask _ took
      exact ⟨earlier frame rfl, fun _ => rfl, .inr (.inr current)⟩
  | lockFailed waiting _ _ _ failed =>
      refine (failing ?_ failed).elim
      rintro failure rfl
      exact wellFormed.reporting (by rw [waiting]; rfl)
  | saveFailed saving _ failed =>
      refine (failing ?_ failed).elim
      rintro failure rfl
      exact wellFormed.reporting (by rw [saving]; rfl)
  | merged => exact ⟨open', fun _ => rfl, .inl ⟨_, _, _, rfl⟩⟩
  | @skipped ref key event manager _ _ _ result =>
      have frame := processed_frame { call with resultManager := manager } ref event
      have unsaved := merge_unsaved keyed result
      exact ⟨earlier frame rfl, fun _ => rfl, .inr (by rwa [processed_resultManager])⟩
  | saved =>
      exact ⟨earlier (processed_frame _ _ _) rfl, fun _ => rfl,
        .inr (.inr (congrArg _ (processed_resultManager _ _ _)))⟩
  | yielded mapping =>
      refine ⟨earlier ((notify_frame handler call _).trans .advanced) rfl, ?_, ?_⟩
      · simp [mapping, Pc.saving]
      · exact .inr (.inr (congrArg _ (notify_rest handler call _).2.2.2.2.2))
  | @mapped fate id event response stored handed effects mapping _ _ _ _ handedOut =>
      have noted := notify_frame handler call response
      have frame := (noted.trans (handOutResults_frame handedOut)).trans (afterYield_frame event)
      refine ⟨earlier frame rfl, by simp [mapping, Pc.saving], .inr (.inr ?_)⟩
      rcases handOutResults_cases handedOut with ⟨rfl, _⟩ | ⟨outcome, manager, auth, rfl, _⟩
      · rw [afterYield_resultManager]
        exact congrArg _ (notify_rest handler call response).2.2.2.2.2
      · have settled := @settle_outcome (call.notify handler response) outcome
        have kept := (@afterYield_frame { (call.notify handler response).settle outcome with
          firstResultSent := true, authRequiredSnapshotSent := auth, resultManager := manager }
            event).outcome settled
        rw [← kept, open'] at settled
        cases settled
  | consumed =>
      exact ⟨earlier (afterYield_frame _) rfl, fun _ => rfl,
        .inr (.inr (congrArg _ (afterYield_resultManager _)))⟩
  | closed | resubscribeRefused => exact (answered rfl).elim
  | historySaved | taskAccepted | referenceLoaded | configSaved | configSavedFirst | continued
  | cancelAttached | cancelDirect | cancelExecuted | cancelSaved | resubscribed | configTaskFound
  | misdirected => exact ⟨open', fun _ => rfl, .inr (.inr rfl)⟩

/-- Before its loop a call only moves on, with the manager it had. -/
theorem Resumed.blank (wellFormed : call.WellFormed)
    (resumed : Resumed handler view pid call fate after effects)
    (waits : after.pc.unattached = true ∨ after.pc.starts = true) :
    (call.pc.unattached = true ∨ call.pc.starts = true) ∧
      after.resultManager = call.resultManager := by
  have started : ∀ {pc : Pc}, after.pc = pc → pc.unattached = false → pc.starts = false → False := by
    rintro pc rfl attached started
    simp [attached, started] at waits
  cases resumed with
  | taskAccepted loading => exact ⟨.inl (by rw [loading]; rfl), rfl⟩
  | historySaved saving => exact ⟨.inl (by rw [saving]; rfl), rfl⟩
  | referenceLoaded loading => exact ⟨.inl (by rw [loading]; rfl), rfl⟩
  | @contextBuilt _ _ _ _ extensions after effects loading created =>
      cases wellFormed.contextBuilt loading created <;> exact ⟨.inl (by rw [loading]; rfl), rfl⟩
  | loopEnded =>
      exact (started leaveLoop_pc (leftPc_of (Pc.unattached · = false) rfl rfl call)
        (leftPc_of (Pc.starts · = false) rfl rfl call)).elim
  | forwarded =>
      exact (started rfl (forward_pc (Pc.unattached · = false) rfl rfl rfl _ rfl _ _ _)
        (forward_pc (Pc.starts · = false) rfl rfl rfl _ rfl _ _ _)).elim
  | @taken queue id rest event pattern after effects _ _ _ _ _ _ took =>
      rcases takeEvent_cases took with ⟨target, rfl, _⟩ | ⟨taskId, target, rfl, _⟩
      · exact (started rfl rfl rfl).elim
      · exact (started rfl rfl rfl).elim
  | lockFailed _ _ _ _ failed | saveFailed _ _ failed =>
      rcases processingFailed_cases failed with ⟨left, _⟩ | ⟨_, _, _, _, _, _, rfl, _⟩
      · exact (started left rfl rfl).elim
      · exact (started rfl rfl rfl).elim
  | @skipped ref | @saved ref => cases ref <;> exact (started rfl rfl rfl).elim
  | mapped | consumed =>
      exact (started rfl (afterYield_pc (Pc.unattached · = false) rfl rfl rfl _ _)
        (afterYield_pc (Pc.starts · = false) rfl rfl rfl _ _)).elim
  | cancelDirect loading => exact ⟨.inl (by rw [loading]; rfl), rfl⟩
  | configTaskFound loading => exact ⟨.inl (by rw [loading]; rfl), rfl⟩
  | misdirected applying => exact ⟨.inl (by rw [applying]; rfl), rfl⟩
  | _ => exact (started rfl rfl rfl).elim

/-- What a call was made with, and the message its manager prepends, never change. -/
theorem Resumed.origin (wellFormed : call.WellFormed)
    (resumed : Resumed handler view pid call fate after effects) :
    after.request = call.request ∧ after.context = call.context ∧
      after.resultManager.latestUserMessage = call.resultManager.latestUserMessage := by
  have framed : ∀ {before : Call}, Frame before after → before.request = call.request →
      before.context = call.context →
      after.resultManager.latestUserMessage = call.resultManager.latestUserMessage →
      after.request = call.request ∧ after.context = call.context ∧
        after.resultManager.latestUserMessage = call.resultManager.latestUserMessage :=
    fun frame request context latest => ⟨frame.request.trans request, frame.context.trans context, latest⟩
  cases resumed with
  | @contextBuilt _ _ _ _ extensions after effects loading created =>
      cases wellFormed.contextBuilt loading created <;> exact ⟨rfl, rfl, rfl⟩
  | loopEnded => exact framed leaveLoop_frame rfl rfl (congrArg _ leaveLoop_resultManager)
  | @forwarded queue id rest event taskId =>
      exact framed (forward_frame (call.shifted queue rest) taskId id event) rfl rfl
        (congrArg _ (forward_resultManager _ _ _))
  | @taken queue id rest event pattern after effects _ _ _ _ _ _ took =>
      have frame := takeEvent_frame { call.shifted queue rest with streamPattern := pattern } id event
      rw [took] at frame
      refine framed frame rfl rfl ?_
      cases event with
      | message data =>
          cases took
          rfl
      | _ =>
          simp only [takeEvent, AgentExecutionEvent.target] at took
          rw [processEvent_eq (by rfl)] at took
          cases took
          rfl
  | lockFailed _ _ _ _ failed | saveFailed _ _ failed =>
      rcases processingFailed_cases failed with ⟨_, frame, _⟩ | ⟨_, _, _, _, _, _, rfl, _⟩
      · exact framed frame rfl rfl (congrArg _ (processingFailed_resultManager failed))
      · exact ⟨rfl, rfl, rfl⟩
  | @merged ref key event manager _ _ _ result =>
      refine ⟨rfl, rfl, ?_⟩
      have same := ResultManager.merge_latestUserMessage call.resultManager
        (if ResultManager.needsLoad event then event.target.bind view.load else none) event
      rwa [result] at same
  | @skipped ref key event manager _ _ _ result =>
      refine framed (processed_frame { call with resultManager := manager } ref event) rfl rfl ?_
      rw [processed_resultManager]
      have same := ResultManager.merge_latestUserMessage call.resultManager
        (if ResultManager.needsLoad event then event.target.bind view.load else none) event
      rwa [result] at same
  | saved =>
      exact framed (processed_frame _ _ _) rfl rfl (congrArg _ (processed_resultManager _ _ _))
  | yielded =>
      exact framed ((notify_frame handler call _).trans .advanced) rfl rfl
        (congrArg _ (notify_rest handler call _).2.2.2.2.2)
  | @mapped fate id event response stored handed effects _ _ _ _ _ handedOut =>
      have noted := notify_frame handler call response
      have frame := (noted.trans (handOutResults_frame handedOut)).trans (afterYield_frame event)
      refine framed frame rfl rfl ?_
      rw [afterYield_resultManager]
      have kept := (notify_rest handler call response).2.2.2.2.2
      rcases handOutResults_cases handedOut with ⟨rfl, _⟩ | ⟨_, manager, _, rfl, latest, _⟩
      · exact congrArg _ kept
      · exact latest.trans (congrArg _ kept)
  | consumed => exact framed (afterYield_frame _) rfl rfl (congrArg _ (afterYield_resultManager _))
  | _ => exact ⟨rfl, rfl, rfl⟩

/-- A save follows the load of the event it merges. -/
theorem Resumed.savesLocked {id : EventId} {key : Option String} {event : AgentExecutionEvent}
    (wellFormed : call.WellFormed) (resumed : Resumed handler view pid call fate after effects)
    (saves : after.pc = .save (.published id) key event) :
    ∃ counter, call.pc = .lock (.published id) counter ∧ view.event id = some event := by
  have elsewhere : ∀ {pc : Pc}, after.pc = pc → pc.saving = false → False := by
    rintro pc rfl calm
    simp [saves, Pc.saving] at calm
  cases resumed with
  | taskAccepted | cancelDirect => cases saves
  | historySaved =>
      simp only [resolveReferences] at saves
      split at saves <;> cases saves
  | referenceLoaded =>
      dsimp only at saves
      split at saves <;> cases saves
  | @contextBuilt _ _ _ _ extensions after effects loading created =>
      cases wellFormed.contextBuilt loading created <;> cases saves
  | loopEnded => exact (elsewhere leaveLoop_pc (leftPc_of (Pc.saving · = false) rfl rfl call)).elim
  | forwarded => exact (elsewhere rfl (forward_pc (Pc.saving · = false) rfl rfl rfl _ rfl _ _ _)).elim
  | taken _ _ _ _ _ _ took => exact (elsewhere rfl (takeEvent_quiet took).1).elim
  | lockFailed _ _ _ _ failed | saveFailed _ _ failed =>
      exact (elsewhere rfl (processingFailed_quiet failed).1).elim
  | merged waiting _ resolved =>
      cases saves
      exact ⟨_, waiting, resolved⟩
  | skipped | saved => exact (elsewhere rfl (processed_saving _ _)).elim
  | mapped | consumed => exact (elsewhere rfl (afterYield_pc (Pc.saving · = false) rfl rfl rfl _ _)).elim
  | misdirected applying => cases applying.symm.trans saves
  | _ => exact (elsewhere rfl rfl).elim

/-- A call that sends a message never waits for another method's operation. -/
theorem Resumed.sending (wellFormed : call.WellFormed)
    (sending : call.isSend = true → call.pc.sends = true)
    (resumed : Resumed handler view pid call fate after effects) (sends : after.isSend = true) :
    after.pc.sends = true := by
  have asked : call.isSend = true := by
    simpa only [isSend, (resumed.origin wellFormed).1] using sends
  have waits := sending asked
  have left : call.leftPc.sends = true := by
    simp only [leftPc]
    split
    · rename_i id cancels
      simp [isSend, cancels] at asked
    · rfl
  have yielded : ∀ {before : Call} {event : AgentExecutionEvent}, before.isSend = true →
      (before.afterYield event).pc.sends = true := by
    intro before event asks
    simp only [afterYield]
    split
    · rw [leaveLoop_pc]
      simp only [leftPc]
      split
      · rename_i id cancels
        simp [isSend, cancels] at asks
      · rfl
    · rfl
  cases resumed with
  | historySaved =>
      simp only [resolveReferences]
      split <;> rfl
  | referenceLoaded =>
      dsimp only
      split <;> rfl
  | @contextBuilt _ _ _ _ extensions after effects loading created =>
      cases contextCreated_cases (show ({ call with requestedExtensions := extensions }).isSend = true
        from asked) created <;> rfl
  | loopEnded => rw [leaveLoop_pc]; exact left
  | forwarded _ _ _ _ subscribes => simp [isSend, subscribes] at asked
  | @taken queue id rest event pattern after effects _ _ _ _ _ _ took =>
      rcases takeEvent_cases took with ⟨target, rfl, _⟩ | ⟨taskId, target, rfl, _⟩
      · rfl
      · rfl
  | lockFailed _ _ _ _ failed | saveFailed _ _ failed =>
      rcases processingFailed_cases failed with ⟨left, _⟩ | ⟨_, _, _, _, _, _, rfl, _⟩
      · rw [left]; rfl
      · rfl
  | @skipped ref | @saved ref => cases ref <;> rfl
  | @mapped fate id event response stored handed effects _ _ _ _ _ handedOut =>
      have frame := (notify_frame handler call response).trans (handOutResults_frame handedOut)
      exact yielded (by simpa only [isSend, frame.request] using asked)
  | consumed => exact yielded asked
  | cancelAttached counter | cancelDirect counter | cancelExecuted counter | cancelSaved counter
  | resubscribed counter | configTaskFound counter =>
      rw [counter] at waits
      cases waits
  | misdirected => exact waits
  | _ => rfl

/-- Before its executor runs, a call that sends a message answers with nothing but errors. -/
theorem resume_starting {result : Task} (starts : call.pc.starts = true) (waiting : call.outcome = none)
    (resumed : call.resume handler view pid fate = some (after, effects)) :
    after.outcome ≠ some (.task result) := by
  have rejected : ∀ {before : Call} {reason : ServerError}, before.outcome = none →
      (before.reject reason).outcome ≠ some (.task result) := by
    intro before reason none
    simp [reject, finish, settle, none]
  have begun : ∀ {joins : BusId × List Effect} {requestContext : RequestContext},
      ((call.attachQueue joins.1).runExecutor joins.1 requestContext).outcome ≠ some (.task result) := by
    intro joins requestContext
    simp [attachQueue, runExecutor, waiting]
  cases fate with
  | fail error =>
      cases counter : call.pc with
      | getAgentCard =>
          simp only [resume, resumeFailed, counter] at resumed
          split at resumed
          · cases resumed
            exact rejected waiting
          · cases resumed
      | loadTask | saveHistory | loadReferences | savePushConfig =>
          simp only [resume, resumeFailed, counter, Option.some.injEq, Prod.mk.injEq] at resumed
          obtain ⟨rfl, _⟩ := resumed
          exact rejected waiting
      | _ => simp [counter, Pc.starts] at starts
  | ok =>
      cases counter : call.pc with
      | loadTask message =>
          simp only [resume, resumeOk, counter, Option.some.injEq, Prod.mk.injEq] at resumed
          obtain ⟨rfl, _⟩ := resumed
          simp only [taskLoaded]
          split
          · exact rejected waiting
          · split
            · exact rejected waiting
            · split
              · exact rejected waiting
              · simp [waiting]
      | saveHistory message task =>
          simp only [resume, resumeOk, counter, Option.some.injEq, Prod.mk.injEq] at resumed
          obtain ⟨rfl, _⟩ := resumed
          simp [resolveReferences, waiting]
      | loadReferences message task taskId pending loaded =>
          cases pending with
          | nil => simp [resume, resumeOk, counter] at resumed
          | cons reference pending =>
              simp only [resume, resumeOk, counter, Option.some.injEq, Prod.mk.injEq] at resumed
              obtain ⟨rfl, _⟩ := resumed
              simp [waiting]
      | getAgentCard message task taskId referenceTasks =>
          simp only [resume, resumeOk, counter, Option.some.injEq, agentCardServed] at resumed
          split at resumed
          · have kept : after.outcome = call.outcome := by
              simp only [contextCreated] at resumed
              split at resumed
              · split at resumed <;> cases resumed <;> rfl
              · split at resumed <;> cases resumed <;> rfl
              · cases resumed
                rfl
            simp [kept, waiting]
          · cases resumed
            exact rejected waiting
      | savePushConfig requestContext config =>
          simp only [resume, resumeOk, counter] at resumed
          split at resumed <;> cases resumed
          · simp [runExecutor, waiting]
          · exact begun
      | _ => simp [counter, Pc.starts] at starts

theorem getFinalResult_task {manager : ResultManager} {task : Task}
    (final : manager.getFinalResult = some (.task task)) : manager.currentTask = some task := by
  simp only [ResultManager.getFinalResult] at final
  split at final
  · cases final
  · obtain ⟨current, same, equal⟩ := Option.map_eq_some_iff.mp final
    cases equal
    exact same

section

variable {params : SendMessageRequest} {result : Task}

/-- A loop that ends with a task as its first answer is a blocking one, and answers with the
current task. -/
theorem leaveLoop_task (sends : call.request = .sendMessage params) (waiting : call.outcome = none)
    (resolved : call.leaveLoop.outcome = some (.task result)) :
    isBlocking params = true ∧ ∃ task, call.resultManager.currentTask = some task ∧
      result = applyHistoryLengthSemantics (historyLengthOf params) task := by
  simp only [leaveLoop, sends] at resolved
  split at resolved
  · rename_i blocking
    split at resolved
    · simp [reject, finish, settle, stopQueue, waiting] at resolved
    · simp [finish, settle, stopQueue, waiting] at resolved
    · rename_i task final
      simp only [finish, settle, stopQueue, waiting] at resolved
      cases resolved
      exact ⟨blocking, task, getFinalResult_task final, rfl⟩
  · split at resolved
    · simp [drained, stopQueue, waiting] at resolved
    · simp [reject, finish, settle, stopQueue, waiting] at resolved

theorem afterYield_task {event : AgentExecutionEvent} (sends : call.request = .sendMessage params)
    (waiting : call.outcome = none) (resolved : (call.afterYield event).outcome = some (.task result)) :
    isBlocking params = true ∧ ∃ task, call.resultManager.currentTask = some task ∧
      result = applyHistoryLengthSemantics (historyLengthOf params) task := by
  simp only [afterYield] at resolved
  split at resolved
  · exact leaveLoop_task sends waiting resolved
  · cases waiting.symm.trans resolved

/-- The task that is handed out before the loop ends: the raw event's, or the current one. -/
theorem handOutResults_task {id : EventId} {event : AgentExecutionEvent} {handed : Call}
    (sends : call.request = .sendMessage params) (waiting : call.outcome = none)
    (unsent : call.firstResultSent = false) (handedOut : call.handOutResults id event = (handed, effects)) :
    (handed = call ∧ isBlocking params = true) ∨
      (handed = call ∧ ∀ data, event ≠ .task data) ∨
      (∃ data, isBlocking params = false ∧ event = .task data ∧
        handed.outcome = some (.task (applyHistoryLengthSemantics (historyLengthOf params) data))) ∨
      (∃ task, call.resultManager.currentTask = some task ∧
        (isBlocking params = false → ∀ data, event ≠ .task data) ∧
        handed.outcome = some (.task (applyHistoryLengthSemantics (historyLengthOf params) task))) ∨
      ∃ message, handed.outcome = some (.message message) := by
  simp only [handOutResults, sends] at handedOut
  split at handedOut
  · rename_i blocking
    split at handedOut
    · split at handedOut
      · cases handedOut
        exact .inl ⟨rfl, blocking⟩
      · rename_i task current
        cases handedOut
        refine .inr (.inr (.inr (.inl ⟨task, current, ?_, by simp [settle, waiting]⟩)))
        simp [blocking]
    · cases handedOut
      exact .inl ⟨rfl, blocking⟩
  · rename_i returns
    rw [if_neg (by simp [unsent])] at handedOut
    split at handedOut
    · cases handedOut
      exact .inr (.inr (.inr (.inr ⟨_, by simp [settle, waiting]; rfl⟩)))
    · cases handedOut
      exact .inr (.inr (.inl ⟨_, by simpa using returns, rfl, by simp [settle, waiting]⟩))
    · rename_i notMessage notTask
      split at handedOut
      · cases handedOut
        exact .inr (.inl ⟨rfl, fun data same => notTask data same⟩)
      · cases handedOut
        exact .inr (.inr (.inr (.inr ⟨_, by simp [settle, waiting]; rfl⟩)))
      · rename_i task final
        cases handedOut
        exact .inr (.inr (.inr (.inl ⟨task, getFinalResult_task final,
          fun _ data same => notTask data same, by simp [settle, waiting]⟩)))

/-- Where a task that `sendMessage` answers with comes from. -/
theorem resume_task (wellFormed : call.WellFormed) (route : call.pc.sends = true)
    (sends : call.request = .sendMessage params) (waiting : call.outcome = none)
    (resumed : call.resume handler view pid fate = some (after, effects))
    (resolved : after.outcome = some (.task result)) :
    (∃ task, call.resultManager.currentTask = some task ∧ call.pc.saving = false ∧
        result = applyHistoryLengthSemantics (historyLengthOf params) task ∧
        ∀ id data, isBlocking params = false → call.pc = .map id → view.event id ≠ some (.task data)) ∨
      ∃ id data, isBlocking params = false ∧ call.pc = .map id ∧ view.event id = some (.task data) ∧
        result = applyHistoryLengthSemantics (historyLengthOf params) data := by
  have later : call.pc.starts = false := by
    cases starts : call.pc.starts with
    | false => rfl
    | true => exact absurd resolved (resume_starting starts waiting resumed)
  have unsent : call.firstResultSent = false := by
    cases sent : call.firstResultSent with
    | false => rfl
    | true => simpa [waiting] using wellFormed.answered sent
  have elsewhere : call.pc.preparing = true → False := by
    intro prepares
    cases counter : call.pc <;> simp_all [Pc.preparing, Pc.starts, Pc.sends]
  have rejected : ∀ {before : Call} {reason : ServerError}, before.outcome = none →
      (before.reject reason).outcome = some (.task result) → False := by
    intro before reason none same
    simp [reject, finish, settle, none] at same
  have failing : ∀ {ref : EventRef} {error : String} {effects : List Effect},
      call.processingFailed ref error = (after, effects) → False := by
    intro ref error effects failed
    have outcome := processingFailed_outcome waiting failed
    rcases outcome with none | ⟨reason, same⟩
    · cases none.symm.trans resolved
    · cases same.symm.trans resolved
  cases resume_cases resumed with
  | answered prepares => exact (elsewhere prepares).elim
  | taskAccepted counter | historySaved counter | referenceLoaded counter | contextBuilt counter
  | configSaved counter | configSavedFirst counter =>
      simp [counter, Pc.starts] at later
  | loopEnded counter =>
      obtain ⟨blocking, task, current, same⟩ := leaveLoop_task sends waiting resolved
      exact .inl ⟨task, current, by rw [counter]; rfl, same, by simp [counter]⟩
  | forwarded _ _ _ _ subscribes => cases sends.symm.trans subscribes
  | violated => exact (rejected waiting resolved).elim
  | @taken queue id rest event pattern after effects _ _ _ _ _ _ took =>
      have kept := takeEvent_outcome _ took
      cases (kept.trans waiting).symm.trans resolved
  | lockFailed _ _ _ _ failed | saveFailed _ _ failed => exact (failing failed).elim
  | merged => cases waiting.symm.trans resolved
  | @skipped ref | @saved ref => cases ref <;> cases waiting.symm.trans resolved
  | yielded _ _ _ streams => cases sends.symm.trans streams
  | @mapped fate id event response stored handed effects counter known _ _ _ handedOut =>
      obtain ⟨_, _, _, outcome, sent, manager⟩ := notify_rest handler call response
      have asked := (notify_frame handler call response).request.trans sends
      have handedSends := (handOutResults_frame handedOut).request.trans asked
      have settled : ∀ {outcome : Outcome}, handed.outcome = some outcome →
          outcome = .task result := by
        intro outcome some
        have kept := (@afterYield_frame handed event).outcome (by rw [some]; rfl)
        rw [resolved, some] at kept
        exact (Option.some.inj kept).symm
      have ended : handed = call.notify handler response → isBlocking params = true ∧
          ∃ task, call.resultManager.currentTask = some task ∧
            result = applyHistoryLengthSemantics (historyLengthOf params) task := by
        rintro rfl
        have produced := afterYield_task asked (outcome.trans waiting) resolved
        rwa [manager] at produced
      rcases handOutResults_task asked (outcome.trans waiting) (sent.trans unsent) handedOut with
        ⟨same, _⟩ | ⟨same, _⟩ | ⟨data, returns, rfl, answer⟩ | ⟨task, current, apart, answer⟩ |
        ⟨message, answer⟩
      · obtain ⟨blocking, task, current, equal⟩ := ended same
        exact .inl ⟨task, current, by rw [counter]; rfl, equal, by simp [blocking]⟩
      · obtain ⟨blocking, task, current, equal⟩ := ended same
        exact .inl ⟨task, current, by rw [counter]; rfl, equal, by simp [blocking]⟩
      · have same := settled answer
        cases same
        exact .inr ⟨id, data, returns, counter, known, rfl⟩
      · have same := settled answer
        cases same
        rw [manager] at current
        refine .inl ⟨task, current, by rw [counter]; rfl, rfl, ?_⟩
        intro other data returns maps found
        cases counter.symm.trans maps
        cases known.symm.trans found
        exact apart returns data rfl
      · cases settled answer
  | closed => simp [finish, settle, waiting] at resolved
  | continued => cases waiting.symm.trans resolved
  | consumed counter =>
      obtain ⟨blocking, task, current, same⟩ := afterYield_task sends waiting resolved
      exact .inl ⟨task, current, by rw [counter]; rfl, same, by simp [counter]⟩
  | cancelAttached counter | cancelDirect counter | cancelExecuted counter | cancelSaved counter
  | resubscribeRefused counter | resubscribed counter | configTaskFound counter
  | misdirected counter =>
      rw [counter] at route
      cases route

end

theorem begin_currentTask (request : Request) (context : ServerCallContext)
    (requestedExtensions : Option (List String)) (fresh : Fresh) :
    let call := handler.begin view request context requestedExtensions fresh
    call.resultManager.currentTask = none ∧ ∀ ref key event, call.pc ≠ .save ref key event := by
  have begun := @begin_cases handler view request context requestedExtensions fresh
  generalize handler.begin view request context requestedExtensions fresh = call at begun ⊢
  cases begun with
  | starts =>
      simp only [resolveReferences]
      exact ⟨rfl, fun ref key event => by split <;> simp⟩
  | loads counter => rcases counter with rfl | rfl | rfl | rfl <;> exact ⟨rfl, by simp⟩
  | _ => exact ⟨rfl, by simp [reject, finish]⟩

theorem begin_sending (request : Request) (context : ServerCallContext)
    (requestedExtensions : Option (List String)) (fresh : Fresh) :
    let call := handler.begin view request context requestedExtensions fresh
    call.isSend = true → call.pc.sends = true := by
  cases request with
  | sendMessage params | sendMessageStream params =>
      intro call _
      simp only [call, Handler.begin]
      split
      · split
        · rfl
        · split
          · simp only [resolveReferences]
            split <;> rfl
          · rfl
      · rfl
  | resubscribe taskId =>
      intro call sends
      simp only [call, Handler.begin] at sends
      split at sends
      · split at sends <;> cases sends
      · cases sends
  | cancelTask | getTask =>
      intro call sends
      cases sends
  | listTasks params =>
      intro call sends
      simp only [call, Handler.begin] at sends
      split at sends
      · cases sends
      · split at sends <;> cases sends
  | _ =>
      intro call sends
      simp only [call, Handler.begin] at sends
      split at sends <;> cases sends

end Call

end A2A.Server
