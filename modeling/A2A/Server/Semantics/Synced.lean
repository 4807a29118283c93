import A2A.Server.Semantics.Answers

namespace A2A.Server

open Library

/-! What the one writer of a task knows of the task's row.

Until it has answered, the call's manager holds what the store holds; while it
maps a task event, that event is the last write in the row's log.
-/

namespace State

variable {handler : Handler} {state next : State} {label : Label} {pid : Pid}
  {call after : Call} {effects : List Effect} {fate : Fate} {taskId : String}

/-- What the one call that writes a task knows of its row. -/
structure Synced (handler : Handler) (state : State) (taskId : String) (call : Call) : Prop where
  route : call.isSend = true → call.pc.sends = true
  blank : call.pc.unattached = true ∨ call.pc.starts = true → call.resultManager.currentTask = none
  saving : ∀ id key event, call.pc = .save (.published id) key event →
    event.target = some taskId → state.events id = some event
  mapping : ∀ id data, call.pc = .map id → state.events id = some (.task data) → data.id = taskId →
    ∃ earlier, rowWrites state.writes (handler.scope call.context) taskId =
      earlier ++ [.event call.resultManager.latestUserMessage (.task data)]
  current : ∀ task, call.outcome = none → call.pc.saving = false →
    call.resultManager.currentTask = some task → task.id = taskId →
    state.row (handler.scope call.context) taskId = some task

/-- Neither the row nor the events of the task have changed. -/
theorem Synced.carried (synced : state.Synced handler taskId call) (knows : call.Knows state.events)
    (grows : EventHeap.Grows state.events next.events) (pc : after.pc = call.pc)
    (manager : after.resultManager = call.resultManager) (request : after.request = call.request)
    (context : after.context = call.context) (outcome : after.outcome = call.outcome)
    (row : next.row (handler.scope call.context) taskId = state.row (handler.scope call.context) taskId)
    (log : rowWrites next.writes (handler.scope call.context) taskId =
      rowWrites state.writes (handler.scope call.context) taskId)
    (events : ∀ id event, state.events id = some event → event.target = some taskId →
      next.events id = some event) : next.Synced handler taskId after where
  route sends := by
    rw [pc]
    exact synced.route (by simpa only [Call.isSend, request] using sends)
  blank waits := by
    rw [manager]
    exact synced.blank (by rwa [pc] at waits)
  saving id key event saves target := events id event (synced.saving id key event (pc ▸ saves) target) target
  mapping id data maps present named := by
    obtain ⟨event, found⟩ := Option.isSome_iff_exists.mp (knows.current id (by rw [← pc, maps]; rfl))
    obtain ⟨kept, later, same⟩ := grows id event found
    cases later.symm.trans present
    have target : event.target = some taskId := by
      have equal := congrArg AgentExecutionEvent.target same
      simp only [AgentExecutionEvent.core_target] at equal
      rw [← equal, ← named]
      rfl
    cases (events id event found target).symm.trans present
    rw [manager, context, log]
    exact synced.mapping id data (pc ▸ maps) found named
  current task open' calm holds named := by
    rw [context, row]
    exact synced.current task (outcome ▸ open') (pc ▸ calm) (manager ▸ holds) named

theorem Synced.overheard (synced : state.Synced handler taskId call)
    (overheard : call.Overheard after) : state.Synced handler taskId after where
  route sends := by
    rw [overheard.pc]
    exact synced.route (overheard.isSend ▸ sends)
  blank waits := by
    rw [overheard.resultManager]
    exact synced.blank (by rwa [overheard.pc] at waits)
  saving id key event saves := synced.saving id key event (overheard.pc ▸ saves)
  mapping id data maps := by
    rw [overheard.resultManager, overheard.context]
    exact synced.mapping id data (overheard.pc ▸ maps)
  current task open' calm holds := by
    rw [overheard.context]
    exact synced.current task (overheard.outcome ▸ open') (overheard.pc ▸ calm)
      (overheard.resultManager ▸ holds)

theorem synced_begun (request : Request) (context : ServerCallContext)
    (requestedExtensions : Option (List String)) (fresh : Fresh) (view : View) :
    state.Synced handler taskId (handler.begin view request context requestedExtensions fresh) := by
  obtain ⟨none, unsaved⟩ := @Call.begin_currentTask handler view request context requestedExtensions fresh
  refine ⟨Call.begin_sending _ _ _ _, fun _ => none, ?_, ?_, ?_⟩
  · intro id key event saves
    exact absurd saves (unsaved _ _ _)
  · intro id data maps
    exact absurd maps (begin_unmapped _ _ _ _)
  · intro task _ _ holds
    cases none.symm.trans holds

theorem synced_resumed (wellFormed : state.WellFormed) (knows : state.Knows)
    (spares : state.Spares pid taskId) (found : state.calls pid = some call)
    (synced : state.Synced handler taskId call)
    (resumed : call.resume handler (state.view pid (handler.scope call.context)) pid fate =
      some (after, effects)) :
    (state.commit pid (after, effects)).Synced handler taskId after := by
  have own := wellFormed pid call found
  have cases' := Call.resume_cases resumed
  have stepped : state.step handler ⟨pid, .resume fate⟩ = some (state.commit pid (after, effects)) := by
    simp [State.step, found, resumeCall, resumed]
  have grows := step_grows wellFormed stepped
  have intact : ∀ {id event}, state.events id = some event → event.target = some taskId →
      call.pc ≠ .map id → (state.commit pid (after, effects)).events id = some event := by
    intro id event present target unmapped
    refine event_step wellFormed spares stepped present target ?_
    rintro fate ⟨⟩ other same
    cases found.symm.trans same
    exact unmapped
  have held : ∀ {copy : Pending}, call.pending handler = some copy →
      state.pending handler pid = some copy := by
    intro copy holds
    rw [pending, found, Option.bind_some, holds]
  refine ⟨cases'.sending own synced.route, ?_, ?_, ?_, ?_⟩
  · intro waits
    obtain ⟨waited, same⟩ := cases'.blank own waits
    rw [same]
    exact synced.blank waited
  · intro id key event saves target
    have resolved : ∃ counter, call.pc = .lock (.published id) counter ∧ state.events id = some event :=
      cases'.savesLocked own saves
    obtain ⟨counter, waiting, present⟩ := resolved
    exact intact present target (by simp [waiting])
  · intro id data maps present named
    obtain ⟨old, before⟩ := Option.isSome_iff_exists.mp
      ((cases'.knows own (knows pid call found)).current id (by rw [maps]; rfl))
    obtain ⟨kept, later, same⟩ := grows id old before
    cases later.symm.trans present
    have target : old.target = some taskId := by
      have equal := congrArg AgentExecutionEvent.target same
      simp only [AgentExecutionEvent.core_target] at equal
      rw [← equal, ← named]
      rfl
    have unmapped : call.pc ≠ .map id := fun mapping => by
      cases old with
      | task task =>
          obtain ⟨_, _, _, _, saving, _⟩ := cases'.maps own (knows pid call found) maps before
          cases mapping.symm.trans saving
      | _ => cases same
    cases (intact before target unmapped).symm.trans present
    obtain ⟨rfl, key, event, task, saving, current, saved, identity, rfl, rfl⟩ :=
      cases'.maps own (knows pid call found) maps before
    have merged := synced.saving id key event saving (by rw [saved, identity, named])
    cases merged.symm.trans before
    have writes := (pending_saves stepped rfl (@held ⟨handler.scope call.context, task,
      .event call.resultManager.latestUserMessage (.task data)⟩ (by simp [Call.pending, saving, current]))).2.2
    refine ⟨rowWrites state.writes (handler.scope call.context) taskId, ?_⟩
    rw [writes, rowWrites_append, if_pos ⟨rfl, identity.trans named⟩]
    rfl
  · intro task open' calm holds named
    have keyed : ∀ taskId task, (state.view pid (handler.scope call.context)).load taskId = some task →
        task.id = taskId := fun taskId task stored => row_id stored
    have context : after.context = call.context := (cases'.origin own).2.1
    obtain ⟨unanswered, saves, merges | none | same⟩ := cases'.unanswered own keyed open'
    · obtain ⟨ref, key, event, counter⟩ := merges
      rw [counter] at calm
      cases calm
    · cases none.symm.trans holds
    · rw [same] at holds
      rw [context]
      cases saving : call.pc.saving with
      | false =>
          have nothing : state.pending handler pid = Option.none := by
            rw [pending, found]
            exact Call.pending_none saving
          rw [row_kept (store_kept wellFormed stepped fun _ => nothing).1]
          exact synced.current task unanswered saving holds named
      | true =>
          cases saves saving
          cases counter : call.pc with
          | save ref key event =>
              have store := (pending_saves stepped rfl (@held ⟨handler.scope call.context, task,
                .event call.resultManager.latestUserMessage event⟩ (by simp [Call.pending, counter, holds]))).2.1
              rw [row_saved store, if_pos ⟨rfl, named⟩]
          | saveHistory | cancelSave =>
              have blank := synced.blank (.inl (by rw [counter]; rfl))
              cases blank.symm.trans holds
          | _ => simp [counter, Pc.saving] at saving

theorem synced_step (wellFormed : state.WellFormed) (knows : state.Knows)
    (spares : state.Spares pid taskId) (permitted : WrittenBy handler pid taskId state label)
    (synced : ∀ call, state.calls pid = some call → state.Synced handler taskId call)
    (stepped : state.step handler label = some next) :
    ∀ call, next.calls pid = some call → next.Synced handler taskId call := by
  intro record present
  have grows := step_grows wellFormed stepped
  have kept : ∀ {call changed : Call}, state.calls pid = some call → changed.pc = call.pc →
      changed.resultManager = call.resultManager → changed.request = call.request →
      changed.context = call.context → changed.outcome = call.outcome →
      (∀ fate, label ≠ ⟨pid, .resume fate⟩) →
      next.row (handler.scope call.context) taskId = state.row (handler.scope call.context) taskId →
      rowWrites next.writes (handler.scope call.context) taskId =
        rowWrites state.writes (handler.scope call.context) taskId →
      next.Synced handler taskId changed := by
    intro call changed found pc manager request context outcome apart row log
    refine (synced call found).carried (knows pid call found) grows pc manager request context outcome
      row log fun id event known target => ?_
    exact event_step wellFormed spares stepped known target fun fate resumed => absurd resumed (apart fate)
  by_cases own : label.pid = pid
  · subst own
    obtain ⟨after, effects, steppedTo, rfl⟩ := step_cases stepped
    rcases commit_overheard present with ⟨_, overheard⟩ | ⟨differ, _⟩
    · refine Synced.overheard ?_ overheard
      have calm : ∀ {call changed : Call}, state.calls label.pid = some call → changed.pc = call.pc →
          changed.resultManager = call.resultManager → changed.request = call.request →
          changed.context = call.context → changed.outcome = call.outcome →
          label.action ≠ .resume .ok → (∀ fate, label ≠ ⟨label.pid, .resume fate⟩) →
          (state.commit label.pid (after, effects)).Synced handler taskId changed := by
        intro call changed found pc manager request context outcome silent apart
        obtain ⟨store, writes⟩ := store_kept wellFormed stepped fun resumed => absurd resumed silent
        exact kept found pc manager request context outcome apart (row_kept store) (by rw [writes])
      cases steppedTo with
      | begun => exact synced_begun _ _ _ _ _
      | resumed found resumed =>
          exact synced_resumed wellFormed knows spares found (synced _ found) resumed
      | published found => exact calm found rfl rfl rfl rfl rfl (by simp) (by simp)
      | finishedBus found => exact calm found rfl rfl rfl rfl rfl (by simp) (by simp)
      | executorReturned found => exact calm found rfl rfl rfl rfl rfl (by simp) (by simp)
      | executorThrew found => exact calm found rfl rfl rfl rfl rfl (by simp) (by simp)
      | reaped found => exact calm found rfl rfl rfl rfl rfl (by simp) (by simp)
      | @abandoned pid call after found abandoned =>
          obtain ⟨_, _, rfl⟩ := Call.abandon_cases abandoned
          refine ⟨fun _ => rfl, ?_, ?_, ?_, ?_⟩
          · rintro (waits | waits) <;> cases waits
          · intro id key event saves
            cases saves
          · intro id data maps
            cases maps
          · intro task open'
            have settled := @Call.settle_outcome call.stopQueue .done
            rw [show (call.stopQueue.settle .done).outcome = none from open'] at settled
            cases settled
    · exact absurd rfl differ
  · obtain ⟨after, effects, steppedTo, rfl⟩ := step_cases stepped
    rcases commit_overheard present with ⟨same, _⟩ | ⟨_, before, earlier, overheard⟩
    · exact absurd same.symm own
    · have same := fun scope => @ownRegister_other handler state _ label pid scope taskId wellFormed
        permitted own stepped
      refine kept earlier overheard.pc overheard.resultManager overheard.request overheard.context
        overheard.outcome ?_ (congrArg Register.content (same _)) (congrArg Register.log (same _))
      rintro fate rfl
      exact own rfl

/-- What is known of every state of a run in which one call writes a task. -/
structure Tracked (handler : Handler) (pid : Pid) (taskId : String) (state : State) : Prop where
  wellFormed : state.WellFormed
  knows : state.Knows
  spares : state.Spares pid taskId
  synced : ∀ call, state.calls pid = some call → state.Synced handler taskId call

theorem tracked_initial (taskStore : InMemoryTaskStore)
    (pushNotificationStore : InMemoryPushNotificationStore) (taskIdToBus : String → Option BusId) :
    Tracked handler pid taskId (.initial taskStore pushNotificationStore taskIdToBus) where
  wellFormed := wellFormed_initial _ _ _
  knows pid call found := by simp [initial] at found
  spares := spares_initial pid taskId _ _ _
  synced call found := by simp [initial] at found

theorem Tracked.step (tracked : Tracked handler pid taskId state)
    (permitted : WrittenBy handler pid taskId state label)
    (stepped : state.step handler label = some next) : Tracked handler pid taskId next where
  wellFormed := wellFormed_step tracked.wellFormed stepped
  knows := knows_step tracked.wellFormed tracked.knows stepped
  spares := spares_step tracked.wellFormed tracked.knows tracked.spares permitted stepped
  synced := synced_step tracked.wellFormed tracked.knows tracked.spares permitted tracked.synced stepped

end State

end A2A.Server
