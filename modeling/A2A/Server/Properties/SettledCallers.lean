import A2A.Server.Scenario
import A2A.Server.Semantics.Settlement

namespace A2A.Server

open Library

/-! Whether every `sendMessage` has answered when all executors are done.

A bus that `_settleBus` keeps alive leaves the caller's queue open.  The call then
answers for what it has taken in before, or not at all.
-/

namespace State

variable {handler : Handler} {state next : State} {label : Label} {pid other : Pid} {fate : Fate}
  {call after : Call} {effects : List Effect}

def Routed (state : State) : Prop := ∀ pid call, state.calls pid = some call → call.Routed

theorem stepped_routed (wellFormed : state.WellFormed) (routed : state.Routed)
    (stepped : Stepped handler state label after effects) : after.Routed := by
  cases stepped with
  | begun => exact Call.begin_routed _ _ _ _
  | @resumed pid call fate after effects found resumed =>
      exact (Call.resume_cases resumed).routed (wellFormed pid call found) (routed pid call found)
  | published found | finishedBus found => exact routed _ _ found
  | executorReturned found | executorThrew found | reaped found =>
      have same := routed _ _ found
      exact ⟨same.sends, same.awake, same.snapshots⟩
  | abandoned found abandoned =>
      obtain ⟨_, _, rfl⟩ := Call.abandon_cases abandoned
      exact ⟨fun _ => rfl, fun _ _ => rfl, fun _ => Call.finish_outcome _⟩

theorem routed_step (wellFormed : state.WellFormed) (routed : state.Routed)
    (stepped : state.step handler label = some next) : next.Routed := by
  obtain ⟨after, effects, steppedTo, rfl⟩ := step_cases stepped
  intro pid call found
  exact commit_holds (fun taskIdToBus effect holds => holds.heard taskIdToBus effect)
    (stepped_routed wellFormed routed steppedTo) routed found

/-- The call's queue is open and no result has been handed out, nor will one be for what the
call has taken in so far. -/
def Waits (handler : Handler) (state : State) (call : Call) : Prop :=
  ∃ params queue, call.request = .sendMessage params ∧ call.firstResultSent = false ∧
    call.eventQueue = some queue ∧ queue.stopped = false ∧
    ¬ call.Due state.events (state.stored (handler.scope call.context)) params

/-- `_settleBus` leaves a waiting call behind: its own, when it keeps the bus alive, or one on
another bus, when that is the bus it unregisters. -/
def LeavesWaiting (handler : Handler) (state : State) (label : Label) : Prop :=
  ∃ fresh call execution failed, label.action = .executorReaped fresh ∧
    state.calls label.pid = some call ∧ call.execution = some execution ∧
    execution.phase = .settling failed ∧
    if execution.tracker.lastState.any handler.keepBusAliveStates.contains then
      state.Waits handler call
    else ∃ other waiting bus, state.calls other = some waiting ∧
      state.taskIdToBus execution.requestContext.taskId = some bus ∧ bus ≠ execution.eventBus ∧
      waiting.listensOn bus = true ∧ state.Waits handler waiting

/-- A call that waits and will receive nothing more has taken in what answers it. -/
def Attended (handler : Handler) (state : State) : Prop :=
  ∀ pid call params, state.calls pid = some call → call.request = .sendMessage params →
    call.outcome = none → call.Starved →
    call.Due state.events (state.stored (handler.scope call.context)) params

/-- The invariant of the runs in which no settlement leaves a waiting call behind. -/
structure Answering (handler : Handler) (state : State) : Prop where
  wellFormed : state.WellFormed
  knows : state.Knows
  routed : state.Routed
  attended : state.Attended handler

theorem Attended.publish {bus : BusId} {id : EventId} {event : AgentExecutionEvent} (knows : state.Knows)
    (unknown : state.events id = none) (attended : state.Attended handler) :
    (state.apply pid (.publish bus id event)).Attended handler := by
  intro other record params found sends pending starved
  rw [apply_calls] at found
  obtain ⟨call, present, rfl⟩ := Option.map_eq_some_iff.mp found
  exact (attended other call params present sends pending (Call.receive_starved starved)).receive
    (knows other call present) unknown event

theorem Attended.finished {bus : BusId} (attended : state.Attended handler) :
    (state.apply pid (.finished bus)).Attended handler := by
  intro other record params found sends pending starved
  rw [apply_calls] at found
  obtain ⟨call, present, rfl⟩ := Option.map_eq_some_iff.mp found
  exact (attended other call params present sends pending
    (Call.receiveFinished_starved starved).1).receiveFinished bus

/-- A call whose promise is pending waits, unless it is due. -/
theorem waits_of_pending {params : SendMessageRequest} {queue : Queue} (wellFormed : call.WellFormed)
    (sends : call.request = .sendMessage params) (pending : call.outcome = none)
    (queued : call.eventQueue = some queue) (open' : queue.stopped = false)
    (undue : ¬ call.Due state.events (state.stored (handler.scope call.context)) params) :
    state.Waits handler call := by
  refine ⟨params, queue, sends, ?_, queued, open', undue⟩
  cases sent : call.firstResultSent with
  | false => rfl
  | true =>
      have answered := wellFormed.answered sent
      rw [pending] at answered
      cases answered

/-- The end of a bus attends to every call on it; another bus may be the one unregistered. -/
theorem Attended.closed {execution changed : Execution} (wellFormed : state.WellFormed)
    (attended : state.Attended handler) (found : state.calls pid = some call)
    (attached : call.bus = some execution.eventBus)
    (guarded : ∀ other waiting bus, state.calls other = some waiting →
      state.taskIdToBus execution.requestContext.taskId = some bus → bus ≠ execution.eventBus →
      waiting.listensOn bus = true → ¬ state.Waits handler waiting) :
    (((state.setCall pid { call with execution := some changed }).apply pid
      (.finished execution.eventBus)).apply pid
        (.cleanup execution.requestContext.taskId)).Attended handler := by
  intro other record params reached sends pending starved
  rw [apply_calls, apply_calls, Option.map_map] at reached
  obtain ⟨middle, present, rfl⟩ := Option.map_eq_some_iff.mp reached
  have heard : middle.Overheard ((Effect.cleanup execution.requestContext.taskId).listen state.taskIdToBus
      (middle.receiveFinished execution.eventBus)) :=
    (Call.receiveFinished_overheard _).trans (Call.listen_overheard _ _)
  have asked := heard.request.symm.trans sends
  have waiting := heard.outcome.symm.trans pending
  have due : middle.Due state.events (state.stored (handler.scope middle.context)) params := by
    by_cases own : other = pid
    · subst own
      cases setCall_self.symm.trans present
      refine attended other call params found asked waiting ?_
      rcases Call.closed_starved starved with ⟨⟨queue, queued, open', _⟩, deaf⟩ | ⟨bus, _, apart, listens⟩
      · refine ⟨queue, queued, open', fun on => ?_⟩
        have listens : call.listensOn execution.eventBus = true := by
          refine Call.listensOn_iff.mpr ⟨?_, attached⟩
          simp [Call.listening, show call.eventQueue = some queue from queued, on, open']
        cases listens.symm.trans deaf
      · have elsewhere : call.bus = some bus := (Call.listensOn_iff.mp listens).2
        cases attached.symm.trans elsewhere
        exact absurd rfl apart
    · rw [setCall_of_ne own] at present
      rcases Call.closed_starved starved with ⟨starved, _⟩ | ⟨bus, registered, apart, listens⟩
      · exact attended other middle params present asked waiting starved
      · by_contra undue
        obtain ⟨queue, queued, open'⟩ := Call.listensOn_open listens
        exact guarded other middle bus present registered apart listens
          (waits_of_pending (wellFormed other middle present) asked waiting queued open' undue)
  have ended := (due.receiveFinished execution.eventBus).cleanup state.taskIdToBus
    execution.requestContext.taskId
  obtain ⟨events, rows⟩ := @apply_closes ((state.setCall pid { call with execution := some changed }).apply pid
    (.finished execution.eventBus)) pid (.cleanup execution.requestContext.taskId) rfl
  rw [events, rows]
  exact heard.context ▸ ended

/-- A new record of one call that is as starved, and as due, as the one before. -/
theorem Attended.setCall (attended : state.Attended handler)
    (own : ∀ params, after.request = .sendMessage params → after.outcome = none → after.Starved →
      after.Due state.events (state.stored (handler.scope after.context)) params) :
    (state.setCall pid after).Attended handler := by
  intro other record params found sends pending starved
  by_cases same : other = pid
  · subst same
    cases setCall_self.symm.trans found
    exact own params sends pending starved
  · rw [setCall_of_ne same] at found
    exact attended other record params found sends pending starved

theorem Attended.rephased {changed : Execution} (attended : state.Attended handler)
    (found : state.calls pid = some call) (running : changed.phase.done = false) :
    (state.setCall pid { call with execution := some changed }).Attended handler := by
  refine attended.setCall fun params sends pending starved => ?_
  exact attended pid call params found sends pending (Call.rephased_starved running starved)

/-- A resumed call is as due as it was, and so is every other one. -/
theorem Answering.attends_resumed (answering : Answering handler state) (found : state.calls pid = some call)
    (resumed : call.resume handler (state.view pid (handler.scope call.context)) pid fate =
      some (after, effects)) : (state.commit pid (after, effects)).Attended handler := by
  have stepped : state.step handler ⟨pid, .resume fate⟩ = some (state.commit pid (after, effects)) := by
    simp [State.step, found, resumeCall, resumed]
  have grown : ∀ {scope taskId}, state.stored scope taskId = true →
      (state.commit pid (after, effects)).stored scope taskId = true :=
    fun present => stored_step answering.wellFormed stepped present
  have own := answering.wellFormed pid call found
  have cases' := Call.resume_cases resumed
  obtain ⟨calls, grows, _⟩ := commit_resumed own resumed
  intro other record params reached sends pending starved
  rw [calls, Function.update_apply] at reached
  split at reached
  · subst other
    cases reached
    obtain ⟨request, context, _⟩ := cases'.origin own
    have asked := request.symm.trans sends
    have routed := answering.routed pid call found
    have route : call.pc.sends = true := routed.sends (by simp [Call.isSend, asked])
    have keyed : ∀ taskId task, (state.view pid (handler.scope call.context)).load taskId = some task →
        task.id = taskId := fun taskId task stored => row_id stored
    have unanswered := (cases'.unanswered own keyed pending).1
    have due := answering.attended pid call params found asked unanswered
      (cases'.starved own asked route starved)
    rw [context]
    refine (Call.Due.resumed own (answering.knows pid call found) asked route
      routed.snapshots ?_ (fun _ => grown) ?_ cases' pending due).grows
        (cases'.knows own (answering.knows pid call found)) grows
    · intro taskId present
      obtain ⟨task, row⟩ := Option.isSome_iff_exists.mp present
      exact ⟨task, row, row_id row⟩
    · intro ref key event task ok saving current
      subst ok
      have held : state.pending handler pid =
          some ⟨handler.scope call.context, task, .event call.resultManager.latestUserMessage event⟩ := by
        rw [State.pending, found, Option.bind_some]
        simp [Call.pending, saving, current]
      rw [stored, row_saved (pending_saves stepped rfl held).2.1, if_pos ⟨rfl, rfl⟩]
      rfl
  · exact ((answering.attended other record params reached sends pending starved).grows
      (answering.knows other record reached) grows).mono fun _ => grown

theorem Answering.attends (answering : Answering handler state)
    (permitted : ¬ LeavesWaiting handler state label) (stepped : state.step handler label = some next) :
    next.Attended handler := by
  have attended := answering.attended
  obtain ⟨after, effects, steppedTo, rfl⟩ := step_cases stepped
  cases steppedTo with
  | begun absent =>
      refine attended.setCall fun params sends _ starved => ?_
      obtain ⟨queue, queued, _⟩ := starved
      cases ((Call.begin_cases _ _ _ _).unqueued rfl sends).symm.trans queued
  | resumed found resumed => exact answering.attends_resumed found resumed
  | published found _ unknown =>
      rw [commit_cons, setCall_eq_self found]
      exact attended.publish answering.knows unknown
  | finishedBus found =>
      rw [commit_cons, setCall_eq_self found]
      exact attended.finished
  | executorReturned found | executorThrew found => exact attended.rephased found rfl
  | @reaped pid call execution fresh changed effects found executing unknownTask unknownStatus differ
      reaped =>
      have known : (state.setCall pid { call with execution := some changed }).Knows := by
        have own := answering.knows pid call found
        exact setCall_knows answering.knows ⟨own.queued, own.current, own.saving, own.own, own.unqueued⟩
      cases Execution.reap_settles reaped with
      | updated => exact (attended.rephased found rfl).publish known unknownStatus
      | announced =>
          refine Attended.publish (apply_knows known ?_) ?_
            (Attended.publish known unknownTask (attended.rephased found rfl))
          · rintro _ _ _ ⟨⟩
            exact unknownTask
          · simpa [apply, Function.update_of_ne differ.symm] using unknownStatus
      | @keptAlive failed settling kept =>
          refine attended.setCall fun params sends pending starved => ?_
          obtain ⟨queue, queued, open', _⟩ := starved
          by_contra undue
          refine permitted ⟨fresh, call, execution, failed, rfl, found, executing, settling, ?_⟩
          rw [if_pos kept]
          exact waits_of_pending (answering.wellFormed pid call found) sends pending queued open' undue
      | @closed failed settling leaves =>
          refine Attended.closed answering.wellFormed attended found
            ((answering.wellFormed pid call found).executes execution executing).2.1 ?_
          intro other waiting bus present registered apart listens waits
          refine permitted ⟨fresh, call, execution, failed, rfl, found, executing, settling, ?_⟩
          rw [if_neg (by simp [leaves])]
          exact ⟨other, waiting, bus, present, registered, apart, listens, waits⟩
  | @abandoned pid call after found abandoned =>
      obtain ⟨_, _, rfl⟩ := Call.abandon_cases abandoned
      refine attended.setCall fun params _ pending => ?_
      have answered := @Call.finish_outcome call.stopQueue .done
      rw [show (call.stopQueue.finish .done).outcome = none from pending] at answered
      cases answered

theorem answering_initial (taskStore : InMemoryTaskStore)
    (pushNotificationStore : InMemoryPushNotificationStore) (taskIdToBus : String → Option BusId) :
    Answering handler (.initial taskStore pushNotificationStore taskIdToBus) where
  wellFormed := wellFormed_initial _ _ _
  knows pid call found := by simp [initial] at found
  routed pid call found := by simp [initial] at found
  attended pid call params found := by simp [initial] at found

theorem Answering.step (answering : Answering handler state)
    (permitted : ¬ LeavesWaiting handler state label) (stepped : state.step handler label = some next) :
    Answering handler next where
  wellFormed := wellFormed_step answering.wellFormed stepped
  knows := knows_step answering.wellFormed answering.knows stepped
  routed := routed_step answering.wellFormed answering.routed stepped
  attended := answering.attends permitted stepped

/-- When no step is left to take, every promise of `sendMessage` has been settled. -/
theorem Answering.settled {params : SendMessageRequest} (answering : Answering handler state)
    (quiescent : state.Quiescent) (found : state.calls pid = some call)
    (sends : call.request = .sendMessage params) : call.outcome.isSome = true := by
  obtain ⟨idle, done⟩ := quiescent pid call found
  have wellFormed := answering.wellFormed pid call found
  have awake := (answering.routed pid call found).awake params sends
  cases counter : call.pc with
  | finished => exact wellFormed.returned counter
  | suspended last =>
      rw [counter] at awake
      cases awake
  | pull =>
      obtain ⟨queue, queued⟩ := Option.isSome_iff_exists.mp
        (wellFormed.listening (by rw [counter]; rfl))
      simp only [Call.idle, counter, queued, Bool.and_eq_true, Bool.not_eq_true'] at idle
      have starved : call.Starved := ⟨queue, queued, idle.2, fun _ => done⟩
      by_contra pending
      have due := answering.attended pid call params found sends
        (Option.not_isSome_iff_eq_none.mp pending) starved
      rcases due with ⟨id, event, mapping, _⟩ | ⟨items, waits, settles⟩
      · cases counter.symm.trans mapping
      · have nothing : items = [] := by
          simp only [Call.inbox, Call.remaining_queued queued, counter, Pc.waiting,
            List.isEmpty_iff.mp idle.1] at waits
          exact (Option.some.inj waits).symm
        rw [nothing] at settles
        cases settles
  | _ => simp [Call.idle, counter] at idle

end State

open Scenario

variable {handler : Handler} {state : State} {pid : Pid} {call : Call}

/-- Every caller is settled: when everything has come to rest, the promise of each `sendMessage`
has been settled, in a run in which no settled executor leaves its caller waiting. -/
theorem sendMessage_settles {taskStore : InMemoryTaskStore}
    {pushNotificationStore : InMemoryPushNotificationStore} {taskIdToBus : String → Option BusId}
    {labels : List Label} {params : SendMessageRequest}
    (runs : (handlerSystem handler).Runs (fun state label => ¬ State.LeavesWaiting handler state label)
      (.initial taskStore pushNotificationStore taskIdToBus) labels state)
    (quiescent : state.Quiescent) (found : state.calls pid = some call)
    (sends : call.request = .sendMessage params) : call.outcome.isSome = true := by
  have answering : State.Answering handler state :=
    runs.invariant _ (State.answering_initial taskStore pushNotificationStore taskIdToBus)
      fun answering permitted stepped => answering.step permitted stepped
  exact answering.settled quiescent found sends

/-- A check that implies that no call is left waiting: a settled executor keeps its bus alive, and
its caller has been handed a result. -/
def leavesNobody (handler : Handler) (state : State) (label : Label) : Bool :=
  match label.action, state.calls label.pid with
  | .executorReaped _, some call =>
      call.firstResultSent && call.execution.all (fun execution =>
        execution.tracker.lastState.any handler.keepBusAliveStates.contains)
  | _, _ => true

theorem leavesNobody_sound (state : State) (label : Label) (_ : True)
    (passed : leavesNobody handler state label = true) : ¬ State.LeavesWaiting handler state label := by
  rintro ⟨fresh, call, execution, failed, asked, found, executing, _, waits⟩
  simp only [leavesNobody, asked, found, executing, Option.all_some, Bool.and_eq_true] at passed
  rw [if_pos passed.2] at waits
  obtain ⟨_, _, _, unsent, _⟩ := waits
  cases passed.1.symm.trans unsent

/-- A blocking request whose agent asks for a credential. -/
def snapshotSchedule : List Label :=
  [calls 0 (.sendMessage (params (message "m" "") false)) (context "tenant" "user") "T"] ++
    resumes 0 1 ++
    [publishes 0 0 (taskEvent "T" .working), publishes 0 1 (statusEvent "T" .authRequired)] ++
    resumes 0 8 ++ [returns 0, reaps 0 2 3]

theorem sendMessage_settles_snapshot :
    ∃ state call, (handlerSystem (server false)).Runs
        (fun state label => ¬ State.LeavesWaiting (server false) state label) (seeded ⟨"", ""⟩ [])
        snapshotSchedule state ∧
      state.Quiescent ∧ state.calls 0 = some call ∧
      call.request = .sendMessage (params (message "m" "") false) ∧ call.outcome.isSome = true := by
  have ran : ((handlerSystem (server false)).checkedRun (leavesNobody (server false)) (seeded ⟨"", ""⟩ [])
      snapshotSchedule).bind (fun state => (state.calls 0).map fun call =>
        (settled (snapshotSchedule.map Label.pid) state, call.request)) =
      some (true, .sendMessage (params (message "m" "") false)) := rfl
  obtain ⟨state, ranAll, rest⟩ := Option.bind_eq_some_iff.mp ran
  obtain ⟨call, found, facts⟩ := Option.map_eq_some_iff.mp rest
  simp only [Prod.mk.injEq] at facts
  have runs := @System.runs_of_checkedRun _ _ (handlerSystem (server false))
    (fun state label => ¬ State.LeavesWaiting (server false) state label) _ _ _ _ (fun _ => True)
    leavesNobody_sound (fun _ _ _ => trivial) trivial ranAll
  have quiescent := quiescent_of_settled runs rfl facts.1
  exact ⟨state, call, runs, quiescent, found, facts.2, sendMessage_settles runs quiescent found facts.2⟩

/-- A blocking request whose agent asks for input in a task event. -/
def inputRequiredSchedule : List Label :=
  [calls 0 (.sendMessage (params (message "m" "") false)) (context "tenant" "user") "T"] ++
    resumes 0 1 ++
    [publishes 0 0 (taskEvent "T" .inputRequired), returns 0, reaps 0 1 2] ++ resumes 0 4

/-- The bus is kept alive for a state that the queue does not stop at, and no snapshot is due. -/
theorem inputRequired_leaves_sendMessage_pending :
    ∃ state call, (handlerSystem (server false)).run (seeded ⟨"", ""⟩ []) inputRequiredSchedule =
        some state ∧
      state.Quiescent ∧ state.calls 0 = some call ∧
      call.request = .sendMessage (params (message "m" "") false) ∧ call.outcome = none := by
  have ran : ((handlerSystem (server false)).run (seeded ⟨"", ""⟩ []) inputRequiredSchedule).bind
      (fun state => (state.calls 0).map fun call =>
        (settled (inputRequiredSchedule.map Label.pid) state, call.request, call.outcome)) =
      some (true, .sendMessage (params (message "m" "") false), none) := rfl
  obtain ⟨state, ranAll, rest⟩ := Option.bind_eq_some_iff.mp ran
  obtain ⟨call, found, facts⟩ := Option.map_eq_some_iff.mp rest
  simp only [Prod.mk.injEq] at facts
  have quiescent := quiescent_of_settled (System.reaches_of_run ranAll) rfl facts.1
  exact ⟨state, call, ranAll, quiescent, found, facts.2.1, facts.2.2⟩

end A2A.Server
