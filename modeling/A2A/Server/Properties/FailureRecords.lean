import A2A.Server.Scenario
import A2A.Server.Semantics.Contexts
import A2A.Server.Semantics.Drained

namespace A2A.Server

open Library

/-! When the failure of an execution is recorded.

The rejection handler reports the failure on the bus.  What it publishes reaches
the row only through the call's own queue, and only if no event has ended that
queue before.
-/

/-- An event of an execution that is still going on: no message and no terminal state. -/
def AgentExecutionEvent.progresses : AgentExecutionEvent → Bool
  | .message _ => false
  | event => !event.state.any terminalStateList.contains

/-- The row does not say that the task has failed. -/
def Unfailed (row : Option Task) : Prop :=
  ∀ task, row = some task → task.state ≠ some .failed

namespace Execution

variable {execution : Execution} {current : Option Task} {errorMessage : String} {fresh : FailureFresh}
  {streaming : Bool}

/-- The reported failure ends in a status update.  It is about the request's own task, which is
announced first, unless a stream has seen a task: then it is about the last one seen. -/
theorem reports_cases :
    (∃ task update, execution.reports streaming current errorMessage fresh =
        [(fresh.taskEvent, .task task), (fresh.statusEvent, .statusUpdate update)] ∧
      task.id = execution.requestContext.taskId ∧ update.taskId = execution.requestContext.taskId ∧
      update.status.map TaskStatus.state = some .failed ∧
      (streaming = true → execution.tracker.lastTask = none)) ∨
    ∃ last update, execution.reports streaming current errorMessage fresh =
        [(fresh.statusEvent, .statusUpdate update)] ∧ streaming = true ∧
      execution.tracker.lastTask = some last ∧ update.taskId = last.id ∧
      update.status.map TaskStatus.state = some .failed := by
  cases streaming with
  | false => exact .inl ⟨_, _, rfl, rfl, rfl, rfl, nofun⟩
  | true =>
      simp only [reports, if_true, streamFailureEvents]
      cases execution.tracker.lastTask with
      | none => exact .inl ⟨_, _, rfl, rfl, rfl, rfl, fun _ => rfl⟩
      | some last => exact .inr ⟨last, _, rfl, trivial, rfl, rfl, rfl⟩

/-- A reported failure ends every queue that takes it in, with its last event. -/
theorem reports_end :
    (execution.reports streaming current errorMessage fresh).any (fun item => item.2.endsQueue) = true ∧
      takeThrough (fun item => item.2.endsQueue) (execution.reports streaming current errorMessage fresh) =
        execution.reports streaming current errorMessage fresh := by
  have ends : ∀ {update : TaskStatusUpdateEvent}, update.status.map TaskStatus.state = some .failed →
      AgentExecutionEvent.endsQueue (.statusUpdate update) = true := by
    intro update failed
    obtain ⟨status, found, state⟩ := Option.map_eq_some_iff.mp failed
    simp [AgentExecutionEvent.endsQueue, found, state, terminalStateList]
  have task : ∀ data, AgentExecutionEvent.endsQueue (.task data) = false := fun data => rfl
  rcases @reports_cases execution current errorMessage fresh streaming with
    ⟨announced, update, same, _, _, failed, _⟩ | ⟨last, update, same, _, _, _, failed⟩
  all_goals simp [same, takeThrough, task, ends failed]

end Execution

/-! ### Failures in a replay -/

section

variable {latest : Option Message} {taskId : String} {row : Option Task}
  {item : EventId × AgentExecutionEvent} {items : List (EventId × AgentExecutionEvent)}

theorem replay_isSome (present : row.isSome = true) : (replay latest taskId row item).isSome = true := by
  obtain ⟨task, rfl⟩ := Option.isSome_iff_exists.mp present
  simp only [replay]
  split
  · obtain ⟨after, applied⟩ := Write.apply_exists (.event latest item.2) task
    rw [applied]
    rfl
  · rfl

/-- A task event of the task leaves a row behind. -/
theorem foldl_replay_isSome (named : taskId ≠ "")
    (known : row.isSome = true ∨ ∃ id task, (id, .task task) ∈ items ∧ task.id = taskId) :
    (items.foldl (replay latest taskId) row).isSome = true := by
  induction items generalizing row with
  | nil => simpa using known
  | cons item rest ih =>
      refine ih ?_
      rcases known with present | ⟨id, task, member, same⟩
      · exact .inl (replay_isSome present)
      · rcases List.mem_cons.mp member with rfl | later
        · subst same
          exact .inl (by rw [replay_task named]; rfl)
        · exact .inr ⟨id, task, later, same⟩

/-- The status of a row that a failed update reaches. -/
theorem replay_failed {id : EventId} {update : TaskStatusUpdateEvent} (named : taskId ≠ "")
    (present : row.isSome = true) (identified : ∀ task, row = some task → task.id = taskId)
    (own : update.taskId = taskId) (failed : update.status.map TaskStatus.state = some .failed) :
    ∃ task, replay latest taskId row (id, .statusUpdate update) = some task ∧
      task.state = some .failed := by
  obtain ⟨task, rfl⟩ := Option.isSome_iff_exists.mp present
  subst own
  exact ⟨mergeStatusUpdate task update, replay_statusUpdate named (identified task rfl), failed⟩

theorem unfailed_replay (holds : Unfailed row)
    (calm : item.2.target = some taskId → item.2.state ≠ some .failed) :
    Unfailed (replay latest taskId row item) := by
  simp only [replay]
  split
  · rename_i target
    rintro task applied failed
    simp only [Write.apply] at applied
    cases merges : ResultManager.mergeInto latest (item.2.loads row) item.2 with
    | none =>
        rw [merges] at applied
        exact holds task applied failed
    | some merged =>
        rw [merges] at applied
        cases applied
        rcases ResultManager.mergeInto_status merges with ⟨_, status⟩ | ⟨_, stored, read, status⟩
        · exact calm target (by rw [AgentExecutionEvent.state, ← status]; exact failed)
        · refine holds stored ?_ (by rw [Task.state, ← status]; exact failed)
          simp only [AgentExecutionEvent.loads] at read
          split at read
          · exact read
          · cases read
  · exact holds

theorem unfailed_foldl (holds : Unfailed row)
    (calm : ∀ item ∈ items, item.2.target = some taskId → item.2.state ≠ some .failed) :
    Unfailed (items.foldl (replay latest taskId) row) := by
  induction items generalizing row with
  | nil => exact holds
  | cons item rest ih =>
      rw [List.forall_mem_cons] at calm
      exact ih (unfailed_replay holds calm.1) calm.2

theorem unfailed_append (row : Option Task) (message : Message) (holds : Unfailed row) :
    Unfailed (Write.apply row (.append message)) := by
  rintro task applied
  obtain ⟨stored, rfl, rfl⟩ := Option.map_eq_some_iff.mp applied
  exact holds stored rfl

theorem AgentExecutionEvent.progresses_state {event : AgentExecutionEvent}
    (progresses : event.progresses = true) : event.state ≠ some .failed := by
  intro failed
  cases event <;> simp [AgentExecutionEvent.progresses, failed, terminalStateList] at progresses

end

/-- The reported failure shows in the row, unless a stream reports it for another task. -/
theorem Execution.replay_reports_iff {execution : Execution} {current : Option Task}
    {errorMessage : String} {fresh : FailureFresh} {streaming : Bool} {latest : Option Message} {stored : Option Task}
    (named : execution.requestContext.taskId ≠ "") (unfailed : Unfailed stored)
    (identified : ∀ task, stored = some task → task.id = execution.requestContext.taskId)
    (known : ∀ last, execution.tracker.lastTask = some last →
      last.id = execution.requestContext.taskId → stored.isSome = true) :
    (∃ task, (execution.reports streaming current errorMessage fresh).foldl
        (replay latest execution.requestContext.taskId) stored = some task ∧
        task.state = some .failed) ↔
      (streaming = true → ∀ task, execution.tracker.lastTask = some task →
        task.id = execution.requestContext.taskId) := by
  rcases @reports_cases execution current errorMessage fresh streaming with
    ⟨announced, update, reports, first, second, failed, unseen⟩ |
      ⟨last, update, reports, streams, seen, about, failed⟩
  · refine iff_of_true ?_ fun streams task seen => by simp [unseen streams] at seen
    rw [reports, List.foldl_cons]
    refine replay_failed named ?_ (fun task => ?_) second failed
    · rw [← first, replay_task (first ▸ named)]
      rfl
    · exact @Call.foldl_replay_id _ _ [(fresh.taskEvent, .task announced)] _ task identified
  · rw [reports, List.foldl_cons, List.foldl_nil]
    by_cases own : last.id = execution.requestContext.taskId
    · refine iff_of_true ?_ fun _ task found => ?_
      · exact replay_failed named (known last seen own) identified (about.trans own) failed
      · cases seen.symm.trans found
        exact own
    · have other : (AgentExecutionEvent.statusUpdate update).target ≠
          some execution.requestContext.taskId := by
        simpa [AgentExecutionEvent.target, about] using own
      rw [replay, if_neg other]
      refine iff_of_false ?_ fun conditions => own (conditions streams last seen)
      rintro ⟨task, present, failed⟩
      exact unfailed task present failed

namespace State

variable {handler : Handler} {state next : State} {pid : Pid} {call after : Call}
  {taskStore : InMemoryTaskStore} {pushNotificationStore : InMemoryPushNotificationStore}
  {taskIdToBus : String → Option BusId} {earlier later : List Label} {taskId : String}

/-- A call whose queue has gone deaf receives nothing more. -/
theorem deaf_run {final : State} {received : List (EventId × AgentExecutionEvent)}
    {start : Scope → Option Task} (consuming : Consuming handler start pid taskId state)
    (runs : (handlerSystem handler).Runs (ConsumedBy handler pid taskId) state later final)
    (found : state.calls pid = some call) (deaf : call.Deaf received) :
    ∃ after, final.calls pid = some after ∧ after.Deaf received := by
  refine (runs.invariant (fun current => Consuming handler start pid taskId current ∧
    ∃ after, current.calls pid = some after ∧ after.Deaf received) ⟨consuming, call, found, deaf⟩ ?_).2
  rintro current label next ⟨consuming, before, present, deaf⟩ permitted stepped
  obtain ⟨after, kept⟩ := calls_kept stepped present
  exact ⟨consuming.step permitted stepped, after, kept, consuming.deaf permitted stepped present deaf kept⟩

/-- What an idle call has applied after the failure of its execution: what its queue had received, and
then the reported failure if the queue still listened. -/
theorem failure_drained {final : State} {fresh : FailureFresh} {execution : Execution}
    {errorMessage : String} {property : Option Task → Prop}
    (appends : ∀ row message, property row → property (Write.apply row (.append message)))
    (first : (handlerSystem handler).Runs (ConsumedBy handler pid taskId)
      (.initial taskStore pushNotificationStore taskIdToBus) earlier state)
    (found : state.calls pid = some call)
    (initially : property (taskStore.load (handler.scope call.context) taskId))
    (executing : call.execution = some execution) (rejected : execution.phase = .rejected errorMessage)
    (reaped : state.step handler ⟨pid, .executorReaped fresh⟩ = some next)
    (second : (handlerSystem handler).Runs (ConsumedBy handler pid taskId) next later final)
    (settled : final.calls pid = some after) (idle : after.idle = true)
    (consumed : ∀ last, after.pc ≠ .suspended last) :
    ∃ base, property base ∧ (∀ task, base = some task → task.id = taskId) ∧
      final.row (handler.scope call.context) taskId =
        (takeThrough (fun item => item.2.endsQueue)
          (if call.listensOn execution.eventBus then
            call.received ++
              execution.reports call.isStream (state.contextTask pid execution) errorMessage fresh
          else call.received)).foldl (replay call.resultManager.latestUserMessage taskId) base := by
  have permitted : ConsumedBy handler pid taskId state ⟨pid, .executorReaped fresh⟩ :=
    ⟨fun differ => absurd rfl differ, fun _ gives => gives⟩
  have tail := second.cons permitted reaped
  have started := (first.invariant (Consuming handler (fun scope => taskStore.load scope taskId) pid taskId)
    (consuming_initial _ _ _) fun consuming permitted stepped => consuming.step permitted stepped)
  obtain ⟨_, _, again, request, context, latest⟩ := origin_run tail started.wellFormed found
  cases settled.symm.trans again
  have owns := started.wellFormed pid call found
  obtain ⟨sends, attached, _⟩ := owns.executes execution executing
  have asked : after.isSend = true := by simpa only [Call.isSend, request] using sends
  obtain ⟨base, holds, identified, row⟩ := exists_drained appends (first.trans tail) settled asked
    (context ▸ initially) idle consumed
  refine ⟨base, holds, identified, ?_⟩
  rw [← context, row, ← latest]
  congr 1
  split
  · rename_i listens
    obtain ⟨_, _, record, noted, received⟩ := failure_heard found executing rejected reaped
    have reached := started.step permitted reaped
    obtain ⟨_, _, _, _, more, present, whole, _⟩ :=
      received_run second reached.wellFormed reached.knows noted
    cases settled.symm.trans present
    rw [whole, received, if_pos listens, takeThrough_append_of_any]
    rw [List.any_append, Execution.reports_end.1, Bool.or_true]
  · rename_i deaf
    have silent : call.Deaf call.received := by
      refine ⟨by rw [attached]; rfl, ?_, rfl⟩
      cases listens : call.listening with
      | false => rfl
      | true => exact absurd (Call.listensOn_iff.mpr ⟨listens, attached⟩) deaf
    obtain ⟨_, present, still⟩ := deaf_run started tail found silent
    cases settled.symm.trans present
    rw [still.received]

/-- The failure of an execution is in the row of its task in the end exactly when the call's queue is
still listening when the rejection is handled, no event that it took in before has ended it, and the
last task that a stream has seen is the request's own. -/
theorem failure_recorded_iff {final : State} {fresh : FailureFresh} {execution : Execution}
    {errorMessage : String}
    (first : (handlerSystem handler).Runs (ConsumedBy handler pid execution.requestContext.taskId)
      (.initial taskStore pushNotificationStore taskIdToBus) earlier state)
    (found : state.calls pid = some call) (unique : call.fresh.taskUuid ≠ "")
    (unfailed : Unfailed (taskStore.load (handler.scope call.context) execution.requestContext.taskId))
    (executing : call.execution = some execution) (rejected : execution.phase = .rejected errorMessage)
    (progresses : ∀ item ∈ call.received, item.2.progresses = true)
    (reaped : state.step handler ⟨pid, .executorReaped fresh⟩ = some next)
    (second : (handlerSystem handler).Runs (ConsumedBy handler pid execution.requestContext.taskId)
      next later final)
    (settled : final.calls pid = some after) (idle : after.idle = true)
    (consumed : ∀ last, after.pc ≠ .suspended last) :
    (∃ task, final.row (handler.scope call.context) execution.requestContext.taskId = some task ∧
        task.state = some .failed) ↔
      call.listensOn execution.eventBus = true ∧ (∀ item ∈ call.received, item.2.endsQueue = false) ∧
        (call.isStream = true → ∀ task, execution.tracker.lastTask = some task →
          task.id = execution.requestContext.taskId) := by
  obtain ⟨base, holds, identified, row⟩ := failure_drained unfailed_append first found unfailed executing
    rejected reaped second settled idle consumed
  have started := first.invariant (fun current =>
      Consuming handler (fun scope => taskStore.load scope execution.requestContext.taskId) pid
        execution.requestContext.taskId current ∧ current.Addressed)
    ⟨consuming_initial _ _ _, addressed_initial _ _ _⟩ fun holds permitted stepped =>
      ⟨holds.1.step permitted stepped, addressed_step holds.1.wellFormed holds.2 stepped⟩
  have named := ((started.2 pid call found).executing execution executing).named unique
  have calm : ∀ item ∈ call.received,
      item.2.target = some execution.requestContext.taskId → item.2.state ≠ some .failed :=
    fun item member _ => AgentExecutionEvent.progresses_state (progresses item member)
  -- A row made of nothing but what was received before the failure does not say that the task has failed.
  have early : ∀ items, (∀ item ∈ items, item ∈ call.received) →
      final.row (handler.scope call.context) execution.requestContext.taskId = List.foldl
        (replay call.resultManager.latestUserMessage execution.requestContext.taskId) base items →
      ¬ ∃ task, final.row (handler.scope call.context) execution.requestContext.taskId = some task ∧
        task.state = some .failed := by
    rintro items among made ⟨task, present, failed⟩
    exact unfailed_foldl holds (fun item member => calm item (among item member)) task
      (made.symm.trans present) failed
  by_cases listens : call.listensOn execution.eventBus = true
  · rw [if_pos listens] at row
    cases ends : call.received.any (fun item => item.2.endsQueue) with
    | true =>
        rw [takeThrough_append_of_any ends] at row
        refine iff_of_false (early _ (fun item member => (takeThrough_sublist _).subset member) row) ?_
        rintro ⟨_, open', _⟩
        obtain ⟨item, member, stops⟩ := List.any_eq_true.mp ends
        simp [open' item member] at stops
    | false =>
        rw [takeThrough_append_of_none ends] at row
        have open' : ∀ item ∈ call.received, item.2.endsQueue = false := by
          simpa [List.any_eq_false] using ends
        rw [Execution.reports_end.2, List.foldl_append] at row
        have recorded := @Execution.replay_reports_iff execution (state.contextTask pid execution)
          errorMessage fresh call.isStream call.resultManager.latestUserMessage
          (call.received.foldl (replay call.resultManager.latestUserMessage _) base) named
          (unfailed_foldl holds calm)
          (fun task => Call.foldl_replay_id identified) fun last seen own => by
            obtain ⟨id, member⟩ := started.1.tracks call found execution last executing listens seen
            exact foldl_replay_isSome named (.inr ⟨id, last, member, own⟩)
        rw [row, recorded]
        exact ⟨fun own => ⟨listens, open', own⟩, fun conditions => conditions.2.2⟩
  · rw [if_neg listens] at row
    exact iff_of_false (early _ (fun item member => (takeThrough_sublist _).subset member) row)
      fun conditions => listens conditions.1

end State

section

open Scenario

/-- The next event keeps to the stream pattern. -/
def Call.inOrder (events : EventHeap) (call : Call) : Bool :=
  !call.isStream ||
    match call.eventQueue.map Queue.eventQueue with
    | some (id :: _) => (events id).all fun event =>
        (advanceStreamPattern event call.streamPattern).isOk
    | _ => true

/-- A step of the call `pid` alone, in which nothing makes it give up. -/
def neverGivesUp (pid : Pid) (state : State) (label : Label) : Bool :=
  label.pid == pid &&
    match label.action with
    | .abandon | .resume (.fail _) => false
    | .resume .ok => (state.calls pid).all fun call => call.pc.sends && call.inOrder state.events
    | _ => true

theorem consumedBy_alone {handler : Handler} {pid : Pid} {start state : State} {labels : List Label}
    (taskId : String)
    (completed : (handlerSystem handler).checkedRun (neverGivesUp pid) start labels = some state) :
    (handlerSystem handler).Runs (ConsumedBy handler pid taskId) start labels state := by
  refine @System.runs_of_checkedRun _ _ (handlerSystem handler) (ConsumedBy handler pid taskId) _ _ _ _
    (fun _ => True) (fun state label _ passed => ?_) (fun _ _ _ => trivial) trivial completed
  simp only [neverGivesUp, Bool.and_eq_true, beq_iff_eq] at passed
  obtain ⟨rfl, going⟩ := passed
  refine ⟨fun differ => absurd rfl differ, fun _ gives => ?_⟩
  obtain ⟨pid, action⟩ := label
  cases action with
  | abandon => cases going
  | resume fate =>
      obtain ⟨call, found, gives⟩ := gives
      cases fate with
      | fail error => cases going
      | ok =>
          simp only [found, Option.all_some, Bool.and_eq_true] at going
          cases gives with
          | violated _ queued queue known streams broken =>
              have present : state.events _ = some _ := known
              simp [Call.inOrder, streams, queued, queue, present, broken, Except.isOk,
                Except.toBool] at going
          | refused waiting => simp [waiting, Pc.sends] at going
  | _ => exact gives

/-- A new task whose execution fails, at once or after it has asked for input. -/
def rejectingSchedule (asks : Bool) : List Label :=
  [calls 0 (.sendMessage (params (message "m" "") false)) (context "tenant" "user") "T"] ++
    resumes 0 1 ++ [publishes 0 0 (taskEvent "T" .working)] ++ resumes 0 4 ++
    (if asks then [publishes 0 1 (statusEvent "T" .inputRequired)] ++ resumes 0 4 else []) ++ [throws 0]

/-- What is stored of a failure once the call has returned, and what led to it. -/
def recordReport (later : List Label) (failed : State) :
    Option (ServerCallContext × String × String × Bool × Bool × Bool × Bool × Option TaskState) :=
  (failed.calls 0).bind fun call => call.execution.bind fun execution =>
    (failed.step (server false) ⟨0, .executorReaped (failureFresh 7 8)⟩).bind fun next =>
      ((handlerSystem (server false)).checkedRun (neverGivesUp 0) next later).bind fun final =>
        (final.calls 0).bind fun after =>
          match execution.phase, after.pc, after.executorDone with
          | .rejected _, .finished, true => some (call.context, call.fresh.taskUuid,
              execution.requestContext.taskId, call.isStream, call.listensOn execution.eventBus,
              call.received.all (fun item => item.2.progresses && !item.2.endsQueue),
              failed.publications.all (fun published => published.event.progresses),
              (final.row ⟨"tenant", "user"⟩ "T").bind Task.state)
          | _, _, _ => none

theorem recordReport_cases {later : List Label} {failed : State} {context : ServerCallContext}
    {uuid taskId : String} {streams listens calm progress : Bool} {stored : Option TaskState}
    (reports : recordReport later failed =
      some (context, uuid, taskId, streams, listens, calm, progress, stored)) :
    ∃ call execution errorMessage next final after, failed.calls 0 = some call ∧
      call.execution = some execution ∧ execution.phase = .rejected errorMessage ∧
      failed.step (server false) ⟨0, .executorReaped (failureFresh 7 8)⟩ = some next ∧
      (handlerSystem (server false)).checkedRun (neverGivesUp 0) next later = some final ∧
      final.calls 0 = some after ∧ after.pc = .finished ∧ after.executorDone = true ∧
      call.context = context ∧ call.fresh.taskUuid = uuid ∧ execution.requestContext.taskId = taskId ∧
      call.isStream = streams ∧ call.listensOn execution.eventBus = listens ∧
      call.received.all (fun item => item.2.progresses && !item.2.endsQueue) = calm ∧
      failed.publications.all (fun published => published.event.progresses) = progress ∧
      (final.row ⟨"tenant", "user"⟩ "T").bind Task.state = stored := by
  obtain ⟨call, found, rest⟩ := Option.bind_eq_some_iff.mp reports
  obtain ⟨execution, executing, rest⟩ := Option.bind_eq_some_iff.mp rest
  obtain ⟨next, stepped, rest⟩ := Option.bind_eq_some_iff.mp rest
  obtain ⟨final, ran, rest⟩ := Option.bind_eq_some_iff.mp rest
  obtain ⟨after, settled, rest⟩ := Option.bind_eq_some_iff.mp rest
  split at rest
  · rename_i errorMessage rejected finished done
    simp only [Option.some.injEq, Prod.mk.injEq] at rest
    exact ⟨call, execution, errorMessage, next, final, after, found, executing, rejected, stepped, ran,
      settled, finished, done, rest⟩
  · cases rest

theorem failure_recorded_iff_at_once :
    ∃ (failed final : State) (task : Task), (handlerSystem (server false)).Runs
        (ConsumedBy (server false) 0 "T") (.initial .empty .empty (fun _ => none))
        (rejectingSchedule false) failed ∧
      final.row ⟨"tenant", "user"⟩ "T" = some task ∧ task.state = some .failed := by
  have ran : ((handlerSystem (server false)).checkedRun (neverGivesUp 0)
      (.initial .empty .empty (fun _ => none)) (rejectingSchedule false)).bind
        (recordReport (resumes 0 8 ++ [reaps 0 9 10])) =
      some (context "tenant" "user", "T", "T", false, true, true, true, some .failed) := rfl
  obtain ⟨failed, ranAll, reports⟩ := Option.bind_eq_some_iff.mp ran
  obtain ⟨call, execution, errorMessage, next, final, after, found, executing, rejected, reaped, continued,
    settled, finished, _, caller, uuid, named, plain, listens, calm, _, _⟩ := recordReport_cases reports
  have scope : (server false).scope call.context = ⟨"tenant", "user"⟩ := by rw [caller]; rfl
  have each : ∀ item ∈ call.received, item.2.progresses = true ∧ item.2.endsQueue = false := by
    simpa [List.all_eq_true] using calm
  have runs := consumedBy_alone execution.requestContext.taskId ranAll
  obtain ⟨task, row, state⟩ := (State.failure_recorded_iff runs found (by simp [uuid])
    (fun task present => by rw [scope, named] at present; cases present) executing rejected
    (fun item member => (each item member).1) reaped (consumedBy_alone _ continued) settled
    (by rw [Call.idle, finished]) (fun last waits => by rw [finished] at waits; cases waits)).mpr
      ⟨listens, fun item member => (each item member).2, fun streams => by simp [plain] at streams⟩
  rw [scope, named] at row
  exact ⟨failed, final, task, named ▸ runs, row, state⟩

/-- A task that asks for input and then fails stays at `INPUT_REQUIRED`: nobody takes in the failure. -/
theorem failure_after_input_required_lost :
    ¬ ∀ (handler : Handler) (taskStore : InMemoryTaskStore)
      (pushNotificationStore : InMemoryPushNotificationStore) (taskIdToBus : String → Option BusId)
      (earlier later : List Label) (failed next final : State) (fresh : FailureFresh) (pid : Pid)
      (call after : Call) (execution : Execution) (errorMessage : String),
      (handlerSystem handler).Runs (ConsumedBy handler pid execution.requestContext.taskId)
        (.initial taskStore pushNotificationStore taskIdToBus) earlier failed →
      failed.calls pid = some call → call.fresh.taskUuid ≠ "" →
      Unfailed (taskStore.load (handler.scope call.context) execution.requestContext.taskId) →
      call.execution = some execution → execution.phase = .rejected errorMessage →
      (∀ published ∈ failed.publications, published.event.progresses = true) →
      failed.step handler ⟨pid, .executorReaped fresh⟩ = some next →
      (handlerSystem handler).Runs (ConsumedBy handler pid execution.requestContext.taskId)
        next later final →
      final.calls pid = some after → after.idle = true → after.executorDone = true →
      (∀ last, after.pc ≠ .suspended last) →
      ∃ task, final.row (handler.scope call.context) execution.requestContext.taskId = some task ∧
        task.state = some .failed := by
  intro showsFailed
  have ran : ((handlerSystem (server false)).checkedRun (neverGivesUp 0)
      (.initial .empty .empty (fun _ => none)) (rejectingSchedule true)).bind (recordReport [reaps 0 9 10]) =
      some (context "tenant" "user", "T", "T", false, false, false, true, some .inputRequired) := rfl
  obtain ⟨failed, ranAll, reports⟩ := Option.bind_eq_some_iff.mp ran
  obtain ⟨call, execution, errorMessage, next, final, after, found, executing, rejected, reaped, continued,
    settled, finished, done, caller, uuid, named, _, _, _, progress, stored⟩ := recordReport_cases reports
  have scope : (server false).scope call.context = ⟨"tenant", "user"⟩ := by rw [caller]; rfl
  obtain ⟨task, row, state⟩ := showsFailed _ _ _ _ _ _ _ _ _ _ _ _ _ _ _
    (consumedBy_alone execution.requestContext.taskId ranAll) found (by simp [uuid])
    (fun task present => by rw [scope, named] at present; cases present) executing rejected
    (by simpa [List.all_eq_true] using progress) reaped (consumedBy_alone _ continued) settled
    (by rw [Call.idle, finished]) done (fun last waits => by rw [finished] at waits; cases waits)
  rw [scope, named] at row
  rw [row] at stored
  cases state.symm.trans stored

end

end A2A.Server
