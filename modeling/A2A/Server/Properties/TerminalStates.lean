import A2A.Server.Scenario
import A2A.Server.Semantics.Rows

namespace A2A.Server

open Library

/-! When a stored terminal state stays as it is.

No function that merges or saves looks at the stored state.  A terminal state
is kept as long as no event with another state is merged into its row, and the
save that makes the row terminal does not overtake a save still in another
call's hands.
-/

def isTerminal (task : Task) : Bool := task.state.any terminalStateList.contains

def RespectsTerminal (handler : Handler) (state : State) (label : Label) : Prop :=
  label.action = .resume .ok →
    (∀ call ref key event stored, state.calls label.pid = some call → call.pc = .lock ref key →
      ref.resolve (state.view label.pid (handler.scope call.context)) = some event →
      event.target.bind (state.row (handler.scope call.context)) = some stored →
      isTerminal stored = true → event.replacesStatus = true → event.state = stored.state) ∧
    ∀ held, state.pending handler label.pid = some held → isTerminal held.task = true →
      ∀ other lagging, other ≠ label.pid → state.pending handler other = some lagging →
        lagging.scope = held.scope → lagging.task.id = held.task.id →
        lagging.task.state = held.task.state

/-- No call holds a task that would change a terminal row. -/
def HandsAgree (handler : Handler) (state : State) : Prop :=
  ∀ pid held stored, state.pending handler pid = some held →
    state.row held.scope held.task.id = some stored → isTerminal stored = true →
    held.task.state = stored.state

variable {handler : Handler} {state next : State} {label : Label}

theorem handsAgree_step (wellFormed : state.WellFormed) (agree : HandsAgree handler state)
    (respects : RespectsTerminal handler state label)
    (stepped : state.step handler label = some next) : HandsAgree handler next := by
  intro pid held stored holds found terminal
  have others : ∀ {held}, pid ≠ label.pid → next.pending handler pid = some held →
      state.pending handler pid = some held := fun differ holds =>
    (State.pending_step_of_ne stepped differ).symm.trans holds
  cases State.rowStep wellFormed stepped with
  | @saved saved resumed savedHolds freed store _ =>
      have differ : pid ≠ label.pid := by
        rintro rfl
        cases freed.symm.trans holds
      rw [State.row_saved store] at found
      split at found
      · rename_i same
        cases found
        exact (respects resumed).2 saved savedHolds terminal pid held differ (others differ holds)
          same.1.symm same.2.symm
      · exact agree pid held stored (others differ holds) found terminal
  | @accepted scope loaded task write _ present active _ _ same ownHolds store _ =>
      rw [State.row_kept store] at found
      by_cases own : pid = label.pid
      · subst own
        cases ownHolds.symm.trans holds
        rw [same, present, Option.some.injEq] at found
        subst found
        rw [isTerminal, active] at terminal
        cases terminal
      · exact agree pid held stored (others own holds) found terminal
  | @merged call ref key event task resumed calls waiting _ resolved merges target ownHolds store _ =>
      rw [State.row_kept store] at found
      by_cases own : pid = label.pid
      · subst own
        cases ownHolds.symm.trans holds
        have loaded : event.target.bind (state.row (handler.scope call.context)) = some stored := by
          rw [target]
          exact found
        rcases ResultManager.mergeInto_status merges with ⟨replaces, status⟩ | ⟨_, read, reads, status⟩
        · have same := (respects resumed).1 call ref key event stored calls waiting resolved loaded
            terminal replaces
          rw [← same, Task.state, status, AgentExecutionEvent.state]
        · simp only [AgentExecutionEvent.loads] at reads
          split at reads
          · cases found.symm.trans reads
            rw [Task.state, status, Task.state]
          · cases reads
      · exact agree pid held stored (others own holds) found terminal
  | quiet calm store _ =>
      rw [State.row_kept store] at found
      by_cases own : pid = label.pid
      · subst own
        rcases calm with none | kept
        · cases none.symm.trans holds
        · exact agree label.pid held stored (kept.symm.trans holds) found terminal
      · exact agree pid held stored (others own holds) found terminal

/-- One step keeps the state of a terminal row. -/
theorem terminal_step {scope : Scope} {taskId : String} {task : Task} (wellFormed : state.WellFormed)
    (agree : HandsAgree handler state) (stepped : state.step handler label = some next)
    (stored : state.row scope taskId = some task) (terminal : isTerminal task = true) :
    ∃ kept, next.row scope taskId = some kept ∧ kept.state = task.state := by
  cases State.rowStep wellFormed stepped with
  | @saved held _ holds _ store _ =>
      rw [State.row_saved store]
      split
      · rename_i same
        obtain ⟨rfl, rfl⟩ := same
        exact ⟨held.task, rfl, agree _ held task holds stored terminal⟩
      · exact ⟨task, stored, rfl⟩
  | accepted _ _ _ _ _ _ _ store _ => exact ⟨task, (State.row_kept store).trans stored, rfl⟩
  | merged _ _ _ _ _ _ _ _ store _ => exact ⟨task, (State.row_kept store).trans stored, rfl⟩
  | quiet _ store _ => exact ⟨task, (State.row_kept store).trans stored, rfl⟩

theorem handsAgree_initial (taskStore : InMemoryTaskStore)
    (pushNotificationStore : InMemoryPushNotificationStore) (taskIdToBus : String → Option BusId) :
    HandsAgree handler (.initial taskStore pushNotificationStore taskIdToBus) := by
  intro pid held stored holds
  simp [State.pending, State.initial] at holds

/-- Terminal states are absorbing: whatever happens after a row has become terminal, its
state stays the one it became terminal with. -/
theorem terminal_state_absorbing {taskStore : InMemoryTaskStore}
    {pushNotificationStore : InMemoryPushNotificationStore} {taskIdToBus : String → Option BusId}
    {labels more : List Label} {later : State} {scope : Scope} {taskId : String} {task : Task}
    (first : (handlerSystem handler).Runs (RespectsTerminal handler)
      (.initial taskStore pushNotificationStore taskIdToBus) labels state)
    (rest : (handlerSystem handler).Runs (RespectsTerminal handler) state more later)
    (stored : state.row scope taskId = some task) (terminal : isTerminal task = true) :
    ∃ kept, later.row scope taskId = some kept ∧ kept.state = task.state := by
  have keeps : ∀ {state : State} {label : Label} {next : State},
      state.WellFormed ∧ HandsAgree handler state → RespectsTerminal handler state label →
      (handlerSystem handler).step state label = some next →
      next.WellFormed ∧ HandsAgree handler next := fun holds respects stepped =>
    ⟨State.wellFormed_step holds.1 stepped, handsAgree_step holds.1 holds.2 respects stepped⟩
  have reached : state.WellFormed ∧ HandsAgree handler state :=
    first.invariant _ ⟨State.wellFormed_initial _ _ _, handsAgree_initial _ _ _⟩ keeps
  have final := rest.invariant (fun current => (current.WellFormed ∧ HandsAgree handler current) ∧
      ∃ kept, current.row scope taskId = some kept ∧ kept.state = task.state)
    ⟨reached, task, stored, rfl⟩ (by
      rintro middle label next ⟨holds, kept, present, same⟩ respects stepped
      have still : isTerminal kept = true := by rwa [isTerminal, same]
      obtain ⟨after, found, equal⟩ := terminal_step holds.1 holds.2 stepped present still
      exact ⟨keeps holds respects stepped, after, found, equal.trans same⟩)
  exact final.2

section

open Scenario

/-- `RespectsTerminal`, for a state whose calls are all among `pids`. -/
def respectsTerminal (handler : Handler) (pids : List Pid) (state : State) (label : Label) : Bool :=
  pids.contains label.pid &&
    match label.action, state.calls label.pid with
    | .resume .ok, some call =>
        let scope := handler.scope call.context
        (match call.pc with
          | .lock ref _ =>
              (ref.resolve (state.view label.pid scope)).all fun event =>
                (event.target.bind (state.row scope)).all fun stored =>
                  !isTerminal stored || !event.replacesStatus || event.state = stored.state
          | _ => true) &&
          (call.pending handler).all fun held =>
            !isTerminal held.task || pids.all fun other =>
              other = label.pid || (state.pending handler other).isNone
    | _, _ => true

theorem respectsTerminal_sound {pids : List Pid} (state : State) (label : Label)
    (within : Within pids state) (passed : respectsTerminal handler pids state label = true) :
    RespectsTerminal handler state label := by
  intro resumed
  simp only [respectsTerminal, resumed, Bool.and_eq_true] at passed
  cases found : state.calls label.pid with
  | none => exact ⟨by simp, by simp [State.pending, found]⟩
  | some call =>
      simp only [found, Bool.and_eq_true] at passed
      obtain ⟨_, merges, overtakes⟩ := passed
      refine ⟨?_, ?_⟩
      · intro record ref key event stored same waiting resolved loaded terminal replaces
        cases same
        simpa [waiting, resolved, loaded, terminal, replaces] using merges
      · intro held holds terminal other lagging differ lags
        have held' : call.pending handler = some held := by simpa [State.pending, found] using holds
        have listed : other ∈ pids := by
          obtain ⟨record, present, _⟩ := Option.bind_eq_some_iff.mp lags
          exact within other record present
        simp only [held', Option.all_some, terminal, Bool.not_true, Bool.false_or,
          List.all_eq_true] at overtakes
        simpa [differ, lags] using overtakes other listed

/-- A request that runs to completion, and one that tries to cancel the task afterwards. -/
def completingSchedule : List Label :=
  [calls 0 (.sendMessage (params (message "m" "") false)) (context "tenant" "user") "T"] ++
    resumes 0 1 ++
    [publishes 0 0 (taskEvent "T" .working), publishes 0 1 (statusEvent "T" .completed),
      returns 0, reaps 0 2 3] ++
    resumes 0 8

def lateCancelSchedule : List Label :=
  [calls 1 (.cancelTask "T") (context "tenant" "user") ""] ++ resumes 1 1

theorem terminal_state_absorbing_completed :
    ∃ state later task,
      (handlerSystem (server false)).Runs (RespectsTerminal (server false)) (seeded ⟨"", ""⟩ [])
        completingSchedule state ∧
      (handlerSystem (server false)).Runs (RespectsTerminal (server false)) state
        lateCancelSchedule later ∧
      state.row ⟨"tenant", "user"⟩ "T" = some task ∧ task.state = some .completed ∧
      ∃ kept, later.row ⟨"tenant", "user"⟩ "T" = some kept ∧ kept.state = task.state := by
  have ran : ((handlerSystem (server false)).checkedRun (respectsTerminal (server false) [0, 1])
        (seeded ⟨"", ""⟩ []) completingSchedule).bind (fun state =>
      ((handlerSystem (server false)).checkedRun (respectsTerminal (server false) [0, 1])
        state lateCancelSchedule).map fun _ =>
          (state.row ⟨"tenant", "user"⟩ "T").map Task.state) = some (some (some .completed)) := by
    decide
  obtain ⟨state, ranFirst, rest⟩ := Option.bind_eq_some_iff.mp ran
  obtain ⟨later, ranRest, facts⟩ := Option.map_eq_some_iff.mp rest
  obtain ⟨task, stored, completed⟩ := Option.map_eq_some_iff.mp facts
  have keeps : ∀ {state : State} {label : Label} {next : State}, Within [0, 1] state →
      respectsTerminal (server false) [0, 1] state label = true →
      (handlerSystem (server false)).step state label = some next → Within [0, 1] next := by
    intro state label next within passed stepped
    simp only [respectsTerminal, Bool.and_eq_true] at passed
    exact within_step within passed.1 stepped
  have first := System.runs_of_checkedRun respectsTerminal_sound keeps (within_seeded _ _ _) ranFirst
  have within : Within [0, 1] state := by
    intro pid call found
    have listed := State.calls_labelled first rfl found
    simp only [completingSchedule, resumes, List.map_append, List.map_replicate] at listed
    simp_all [calls, publishes, returns, reaps]
  have second := System.runs_of_checkedRun respectsTerminal_sound keeps within ranRest
  exact ⟨state, later, task, first, second, stored, completed,
    terminal_state_absorbing first second stored (by rw [isTerminal, completed]; rfl)⟩

/-- A cancellation drains the events of a run whose own consumer is ahead of it. -/
def overtakenSchedule : List Label :=
  [calls 0 (.sendMessage (params (message "m" "") false)) (context "tenant" "user") "T"] ++
    resumes 0 1 ++ [publishes 0 0 (taskEvent "T" .submitted)] ++ resumes 0 4 ++
    [calls 1 (.cancelTask "T") (context "tenant" "user") ""] ++ resumes 1 1 ++
    [publishes 0 1 (statusEvent "T" .working), publishes 0 2 (statusEvent "T" .completed),
      returns 0, reaps 0 3 4] ++
    resumes 0 8

/-- The lagging queue writes `WORKING` over the stored `COMPLETED`. -/
theorem lagging_drain_overwrites_terminal :
    ∃ state later,
      (handlerSystem (server false)).run (seeded ⟨"", ""⟩ []) overtakenSchedule = some state ∧
      (handlerSystem (server false)).run state (resumes 1 4) = some later ∧
      (state.row ⟨"tenant", "user"⟩ "T").map Task.state = some (some .completed) ∧
      (later.row ⟨"tenant", "user"⟩ "T").map Task.state = some (some .working) := by
  have ran : ((handlerSystem (server false)).run (seeded ⟨"", ""⟩ []) overtakenSchedule).bind
      (fun state => ((handlerSystem (server false)).run state (resumes 1 4)).map fun later =>
        ((state.row ⟨"tenant", "user"⟩ "T").map Task.state,
          (later.row ⟨"tenant", "user"⟩ "T").map Task.state)) =
      some (some (some .completed), some (some .working)) := by decide
  obtain ⟨state, ranFirst, rest⟩ := Option.bind_eq_some_iff.mp ran
  obtain ⟨later, ranRest, facts⟩ := Option.map_eq_some_iff.mp rest
  simp only [Prod.mk.injEq] at facts
  exact ⟨state, later, ranFirst, ranRest, facts.1, facts.2⟩

end

end A2A.Server
