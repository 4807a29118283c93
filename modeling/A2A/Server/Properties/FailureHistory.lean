import A2A.Server.Properties.MonotoneWrites
import A2A.Server.Properties.ReturnedTasks
import A2A.Server.Semantics.Contexts
import A2A.Server.Semantics.Replay

namespace A2A.Server

open Library

/-! What a failed execution leaves of the task it worked on.

`_runExecutor` publishes a whole task, whose history is the one the request was
made with; the merge puts it in place of the stored history.  What the
executor has added to the history since then is lost.
-/

/-- The messages and the artifacts of the first task, up to their content, are in the second. -/
structure Retains (before after : Task) : Prop where
  history : ∀ message ∈ before.history, hasMessage after.history message.messageId = true
  artifacts : ∀ artifact ∈ before.artifacts, hasArtifact after artifact.artifactId = true

/-- The history that a failed execution reports, from the request context's task as it is then. -/
def RequestContext.history (requestContext : RequestContext) (task : Option Task) : List Message :=
  let history := (task.map Task.history).getD []
  if hasMessage history requestContext.userMessage.messageId then history
  else history ++ [requestContext.userMessage]

theorem hasMessage_append (front back : List Message) (messageId : String) :
    hasMessage (front ++ back) messageId = (hasMessage front messageId || hasMessage back messageId) :=
  List.any_append

theorem hasMessage_single (message : Message) (messageId : String) :
    hasMessage [message] messageId = decide (message.messageId = messageId) := by
  simp [hasMessage]

theorem RequestContext.hasMessage_history (requestContext : RequestContext) (task : Option Task)
    (messageId : String) :
    hasMessage (requestContext.history task) messageId =
      (hasMessage ((task.map Task.history).getD []) messageId ||
        decide (requestContext.userMessage.messageId = messageId)) := by
  simp only [history]
  split
  · rename_i present
    by_cases same : requestContext.userMessage.messageId = messageId
    · rw [← same, present]
      rfl
    · simp [same]
  · rw [hasMessage_append, hasMessage_single]

namespace Execution

variable {execution : Execution} {current : Option Task} {errorMessage : String} {fresh : FailureFresh}

/-- The status update that follows the reported task. -/
def failureUpdate (execution : Execution) (current : Option Task) (errorMessage : String)
    (fresh : FailureFresh) : TaskStatusUpdateEvent :=
  let task := execution.errorTask current errorMessage fresh.taskMessageUuid fresh.taskTimestamp
  { taskId := task.id, contextId := task.contextId, status := task.status, metadata := some .empty }

theorem errorTask_history (messageUuid timestamp : String) :
    (execution.errorTask current errorMessage messageUuid timestamp).history =
      execution.requestContext.history current := rfl

/-- The two failure events, merged in order, put the request's history in place of the stored one
and keep the stored artifacts. -/
theorem replay_failure {latest : Option Message} {row : Option Task}
    (named : execution.requestContext.taskId ≠ "")
    (identified : ∀ task, row = some task → task.id = execution.requestContext.taskId)
    (addressed : latest.map Message.messageId = some execution.requestContext.userMessage.messageId) :
    ∃ after, (execution.failureEvents current errorMessage fresh).foldl
        (replay latest execution.requestContext.taskId) row = some after ∧
      after.status.map TaskStatus.state = some .failed ∧
      (∀ messageId, hasMessage after.history messageId =
        (hasMessage (execution.requestContext.history current) messageId ||
          decide (fresh.taskMessageUuid = messageId))) ∧
      ∀ task, row = some task → after.artifacts = task.artifacts := by
  let reported := execution.errorTask current errorMessage fresh.taskMessageUuid fresh.taskTimestamp
  let update := execution.failureUpdate current errorMessage fresh
  let merged := mergeTaskEvent latest row reported
  have present : ∀ message, latest = some message → hasMessage reported.history message.messageId = true := by
    rintro message rfl
    rw [errorTask_history, RequestContext.hasMessage_history, Option.some.inj addressed]
    simp
  have nonempty : reported.history ≠ [] := by
    obtain ⟨message, rfl, _⟩ := Option.map_eq_some_iff.mp addressed
    intro empty
    have holds := present message rfl
    simp [empty, hasMessage] at holds
  have whole : merged.history = reported.history := by
    have names : ∀ stored, row = some stored → stored.id = reported.id := identified
    obtain ⟨front, history, blank⟩ := mergeTaskEvent_history latest names
    rw [history, blank.mpr ⟨present, fun _ _ empty => absurd empty nonempty⟩, List.nil_append]
  have same : merged.id = reported.id := by
    have target := @ResultManager.mergeInto_target latest row (.task reported) merged rfl
    exact (Option.some.inj target).symm
  have artifacts : ∀ task, row = some task → merged.artifacts = task.artifacts := by
    rintro task rfl
    rw [show merged = prependUserMessage latest (mergeRow (some task) reported) from rfl,
      Write.prependUserMessage_artifacts, mergeRow,
      if_pos (show task.id = reported.id from identified task rfl)]
    change mergeArtifacts task.artifacts [] = task.artifacts
    cases empty : task.artifacts <;> simp [mergeArtifacts]
  have first : replay latest reported.id row (fresh.taskEvent, .task reported) = some merged :=
    replay_task named
  have second : replay latest reported.id (some merged) (fresh.statusEvent, .statusUpdate update) =
      some (mergeStatusUpdate merged update) :=
    @replay_statusUpdate latest merged fresh.statusEvent update named same
  refine ⟨mergeStatusUpdate merged update, ?_, rfl, fun messageId => ?_, artifacts⟩
  · rw [← second, ← first]
    rfl
  · rw [show execution.requestContext.history current = merged.history from whole.symm]
    change hasMessage (if hasMessage merged.history fresh.taskMessageUuid then merged.history
      else merged.history ++ [_]) messageId = _
    split
    · rename_i among
      by_cases equal : fresh.taskMessageUuid = messageId
      · rw [← equal, among]
        rfl
      · simp [equal]
    · rw [hasMessage_append, hasMessage_single]
      rfl

end Execution

namespace State

variable {handler : Handler} {state next : State} {label : Label} {pid : Pid} {call after : Call}
  {taskId : String} {start : Scope → Option Task}

/-- No write takes an artifact from the row of a named task. -/
theorem extends_step (followed : Followed handler start pid taskId state) (named : taskId ≠ "")
    (permitted : WrittenBy handler pid taskId state label)
    (stepped : state.step handler label = some next) (scope : Scope) :
    Extends (state.row scope taskId) (next.row scope taskId) := by
  have change : next.row scope taskId = state.row scope taskId ∨
      ∃ write, Write.Enabled taskId (state.row scope taskId) write ∧
        next.row scope taskId = write.apply (state.row scope taskId) :=
    (followed.serial scope).content_step (ownRegister_step followed.wellFormed permitted stepped)
  rcases change with same | ⟨write, enabled, applied⟩
  · rw [same]
    exact .refl _
  · cases stored : state.row scope taskId with
    | none => exact ⟨by simp, by simp⟩
    | some task =>
        rw [stored] at enabled applied
        obtain ⟨written, result⟩ := enabled.applies
        rw [applied, result]
        exact (Write.apply_cases enabled.targets (row_id stored) result).extends named enabled.targets

theorem extends_run {labels : List Label}
    (runs : (handlerSystem handler).Runs (WrittenBy handler pid taskId) state labels next)
    (followed : Followed handler start pid taskId state) (named : taskId ≠ "") (scope : Scope) :
    Followed handler start pid taskId next ∧ Extends (state.row scope taskId) (next.row scope taskId) := by
  refine runs.invariant (fun current => Followed handler start pid taskId current ∧
    Extends (state.row scope taskId) (current.row scope taskId)) ⟨followed, .refl _⟩ ?_
  rintro current label next ⟨followed, grown⟩ permitted stepped
  exact ⟨followed.step permitted stepped,
    grown.trans (extends_step followed named permitted stepped scope)⟩

/-- A call that has applied the failure events has merged what it had received before, and them. -/
theorem failure_replayed {taskStore : InMemoryTaskStore}
    {pushNotificationStore : InMemoryPushNotificationStore} {taskIdToBus : String → Option BusId}
    {before later : List Label} {final : State} {fresh : FailureFresh} {execution : Execution}
    {errorMessage : String} {params : SendMessageRequest}
    (first : (handlerSystem handler).Runs (WrittenBy handler pid taskId)
      (.initial taskStore pushNotificationStore taskIdToBus) before state)
    (found : state.calls pid = some call) (sends : call.request = .sendMessage params)
    (executing : call.execution = some execution) (rejected : execution.phase = .rejected errorMessage)
    (reaped : state.step handler ⟨pid, .executorReaped fresh⟩ = some next)
    (second : (handlerSystem handler).Runs (WrittenBy handler pid taskId) next later final)
    (settled : final.calls pid = some after)
    (applied : fresh.statusEvent ∈ after.handled.map Prod.fst) :
    ∃ base, (∀ task, base = some task → task.id = taskId) ∧
      final.row (handler.scope call.context) taskId =
        (call.received ++
            execution.failureEvents (state.contextTask pid execution) errorMessage fresh).foldl
          (replay call.resultManager.latestUserMessage taskId) base := by
  have permitted : WrittenBy handler pid taskId state ⟨pid, .executorReaped fresh⟩ :=
    fun differ => absurd rfl differ
  have following : ∀ {labels : List Label} {current : State},
      (handlerSystem handler).Runs (WrittenBy handler pid taskId)
        (.initial taskStore pushNotificationStore taskIdToBus) labels current →
      Followed handler (fun scope => taskStore.load scope taskId) pid taskId current :=
    fun runs => runs.invariant _ (followed_initial _ _ _) fun followed permitted stepped =>
      followed.step permitted stepped
  have whole := (first.snoc permitted reaped).trans second
  have started := following first
  have reached := following (first.snoc permitted reaped)
  have ended := following whole
  obtain ⟨unknown, known, record, noted, receives⟩ := failure_heard found executing rejected reaped
  obtain ⟨_, _, _, _, more, present, received, unseen⟩ :=
    received_run second reached.wellFormed reached.knows noted
  cases settled.symm.trans present
  obtain ⟨_, _, again, request, context, latest⟩ :=
    origin_run (second.cons permitted reaped) started.wellFormed found
  cases settled.symm.trans again
  have asked : after.isSend = true := by simp [Call.isSend, request, sends]
  have merges : after.isResubscribe = false := by simp [Call.isResubscribe, request, sends]
  have exact := ended.recorded after settled merges
  have ordered := ended.ordered pid _ (inbox_of settled)
  let current := state.contextTask pid execution
  have delivered : record.received =
      call.received ++ execution.failureEvents current errorMessage fresh := by
    have plain : call.isStream = false := by simp [Call.isStream, sends]
    rw [Execution.reports, plain] at receives
    split at receives
    · exact receives
    have same : record.received = call.received := receives
    have ids := ordered.initial.trans (takeThrough_initial _)
    simp only [Call.inbox] at ids
    have member : fresh.statusEvent ∈ after.received.map Prod.fst := by
      have among := (ids.map Prod.fst).subset
      simp only [List.map_map] at among
      exact among applied
    rw [received, same, List.map_append, List.mem_append] at member
    rcases member with early | late
    · obtain ⟨item, among, equal⟩ := List.mem_map.mp early
      obtain ⟨event, present, _⟩ := (started.recorded call found
        (by simp [Call.isResubscribe, sends])).known item among
      rw [equal, unknown] at present
      cases present
    · obtain ⟨item, among, equal⟩ := List.mem_map.mp late
      rw [← equal, unseen item among] at known
      cases known
  let update := execution.failureUpdate current errorMessage fresh
  let front := call.received ++ [(fresh.taskEvent,
    .task (execution.errorTask current errorMessage fresh.taskMessageUuid fresh.taskTimestamp))]
  have joined : front ++ [(fresh.statusEvent, .statusUpdate update)] =
      call.received ++ execution.failureEvents current errorMessage fresh := List.append_assoc _ _ _
  have split : after.received = front ++ (fresh.statusEvent, .statusUpdate update) :: more := by
    rw [received, delivered, ← joined, List.append_assoc]
    rfl
  have handled := exact.handled_through ordered split rfl applied
  obtain ⟨base, identified, replays⟩ := exists_replays whole settled asked
  have stopped : after.stopped = true := by
    have same := congrArg (List.any · Item.stops) handled
    simp only [List.map_append, List.any_append, List.map_cons, List.map_nil, List.any_cons,
      List.any_map] at same
    have ends : Item.stops (itemOf (fresh.statusEvent, .statusUpdate update)) = true := rfl
    simp only [ends, Bool.true_or, Bool.or_true] at same
    rw [← same]
    simp only [Call.stopped]
    congr 1
    funext item
    exact (AgentExecutionEvent.core_endsQueue _).symm
  refine ⟨base, identified, ?_⟩
  have row := replays.row.resolve_right fun left => by simp [stopped] at left
  rw [← context, row, ← latest, ← joined]
  refine exact.replayed_received (fun item member => ?_) handled base
  rw [split]
  rcases List.mem_append.mp member with early | last
  · exact List.mem_append_left _ early
  · exact List.mem_append_right _ (List.mem_cons.mpr (.inl (List.mem_singleton.mp last)))

end State

section

open Scenario

/-- A new task whose execution fails, at once or after a progress message. -/
def failingSchedule (progress : Bool) : List Label :=
  [calls 0 (.sendMessage (params (message "m" "") false)) (context "tenant" "user") "T"] ++
    resumes 0 1 ++ [publishes 0 0 (taskEvent "T" .working)] ++ resumes 0 4 ++
    (if progress then
      [publishes 0 1 (.statusUpdate {
        taskId := "T"
        contextId := "ctx"
        status := some { state := .working, message := some (message "progress" "T"), timestamp := none }
        metadata := none })] ++ resumes 0 4
    else []) ++ [throws 0]

/-- What the failure of a run makes of the task's history. -/
def failureReport (failed : State) : Option (Request × ServerCallContext × String × String ×
    List String × List String × List String × Bool) :=
  (failed.calls 0).bind fun call => call.execution.bind fun execution =>
    (failed.row ⟨"tenant", "user"⟩ "T").bind fun before =>
      (failed.step (server false) ⟨0, .executorReaped (failureFresh 7 8)⟩).bind fun next =>
        ((handlerSystem (server false)).checkedRun (fun _ label => label.pid == 0) next
          (resumes 0 7)).bind fun final => (final.calls 0).bind fun after =>
            (final.row ⟨"tenant", "user"⟩ "T").bind fun row =>
              match execution.phase with
              | .rejected _ => some (call.request, call.context, call.fresh.taskUuid,
                  execution.requestContext.taskId, before.history.map Message.messageId,
                  (execution.requestContext.history (failed.contextTask 0 execution)).map
                    Message.messageId,
                  row.history.map Message.messageId,
                  (after.handled.map Prod.fst).contains (failureFresh 7 8).statusEvent)
              | _ => none

theorem failureReport_cases {failed : State} {request : Request} {context : ServerCallContext}
    {uuid taskId : String} {stored started kept : List String}
    (reports : failureReport failed =
      some (request, context, uuid, taskId, stored, started, kept, true)) :
    ∃ call execution errorMessage before next final after row, failed.calls 0 = some call ∧
      call.execution = some execution ∧ execution.phase = .rejected errorMessage ∧
      failed.row ⟨"tenant", "user"⟩ "T" = some before ∧
      failed.step (server false) ⟨0, .executorReaped (failureFresh 7 8)⟩ = some next ∧
      (handlerSystem (server false)).checkedRun (fun _ label => label.pid == 0) next (resumes 0 7) =
        some final ∧
      final.calls 0 = some after ∧ final.row ⟨"tenant", "user"⟩ "T" = some row ∧
      call.request = request ∧ call.context = context ∧ call.fresh.taskUuid = uuid ∧
      execution.requestContext.taskId = taskId ∧ before.history.map Message.messageId = stored ∧
      (execution.requestContext.history (failed.contextTask 0 execution)).map Message.messageId =
        started ∧
      row.history.map Message.messageId = kept ∧
      (failureFresh 7 8).statusEvent ∈ after.handled.map Prod.fst := by
  obtain ⟨call, found, rest⟩ := Option.bind_eq_some_iff.mp reports
  obtain ⟨execution, executing, rest⟩ := Option.bind_eq_some_iff.mp rest
  obtain ⟨before, present, rest⟩ := Option.bind_eq_some_iff.mp rest
  obtain ⟨next, stepped, rest⟩ := Option.bind_eq_some_iff.mp rest
  obtain ⟨final, ran, rest⟩ := Option.bind_eq_some_iff.mp rest
  obtain ⟨after, settled, rest⟩ := Option.bind_eq_some_iff.mp rest
  obtain ⟨row, last, rest⟩ := Option.bind_eq_some_iff.mp rest
  split at rest
  · rename_i errorMessage rejected
    simp only [Option.some.injEq, Prod.mk.injEq, List.contains_iff_mem] at rest
    exact ⟨call, execution, errorMessage, before, next, final, after, row, found, executing, rejected,
      present, stepped, ran, settled, last, rest⟩
  · cases rest

end

end A2A.Server
