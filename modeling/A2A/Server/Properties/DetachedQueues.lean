import A2A.Server.Scenario
import A2A.Server.Semantics.Buses

namespace A2A.Server

open Library

/-! Which listeners a call leaves on its bus when it is over.

A queue attaches its listeners in its constructor.  `_processEvents`, `resubscribe`
and the loop of `sendMessageStream` detach them in a `finally`; two awaits lie
between the constructor and that `finally`.
-/

/-- No listener of the call's queue is on a bus. -/
def Call.Released (call : Call) : Prop :=
  ∀ queue, call.eventQueue = some queue → queue.attached = false

/-- The call has left its loop, or never entered one. -/
def Pc.ended : Pc → Bool
  | .finished | .cancelReload => true
  | _ => false

/-- A call that is over has released its queue, and a settled execution its tracker. -/
structure Call.Detaches (call : Call) : Prop where
  ended : call.pc.ended = true → call.Released
  settled : ∀ execution, call.execution = some execution → execution.phase.done = true →
    execution.tracker.attached = false

/-- The awaits between `new ExecutionEventQueue` and the `finally` that stops it. -/
def Pc.unguarded : Pc → Bool
  | .savePushConfig _ _ | .cancelExecute => true
  | _ => false

/-- The call's push configuration cannot be saved, or its executor refuses to cancel, while its
queue is attached. -/
def LeavesQueue (state : State) (label : Label) : Prop :=
  ∃ call error, state.calls label.pid = some call ∧ label.action = .resume (.fail error) ∧
    call.pc.unguarded = true ∧ ¬ call.Released

namespace Call

variable {handler : Handler} {view : View} {pid : Pid} {fate : Fate} {call after : Call}
  {effects : List Effect}

theorem released_of_unqueued (unqueued : call.eventQueue = none) : call.Released := by
  simp [Released, unqueued]

theorem released_of_stopped (stopped : after.eventQueue = call.eventQueue.map Queue.stop) :
    after.Released := by
  intro queue found
  rw [stopped] at found
  obtain ⟨earlier, _, rfl⟩ := Option.map_eq_some_iff.mp found
  rfl

theorem Released.congr (released : call.Released) (same : after.eventQueue = call.eventQueue) :
    after.Released := by
  intro queue found
  exact released queue (same ▸ found)

theorem Released.frame (released : call.Released) (frame : Frame call after) : after.Released := by
  rcases frame.eventQueue with same | stopped
  · exact released.congr same
  · exact released_of_stopped stopped

/-- A listener attaches nothing. -/
theorem Released.heard (released : call.Released) (taskIdToBus : String → Option BusId)
    (effect : Effect) : (effect.listen taskIdToBus call).Released := by
  have mapped : ∀ {change : Queue → Queue} {after : Call},
      (∀ queue, queue.attached = false → (change queue).attached = false) →
      after.eventQueue = call.eventQueue.map change → after.Released := by
    intro change after keeps same queue found
    rw [same] at found
    obtain ⟨earlier, present, rfl⟩ := Option.map_eq_some_iff.mp found
    exact keeps earlier (released earlier present)
  cases effect with
  | publish bus id event =>
      refine mapped (fun queue quiet => ?_) rfl
      simp only [Queue.handleEvent]
      split <;> exact quiet
  | finished bus =>
      refine mapped (fun queue quiet => ?_) rfl
      simp only [Queue.handleFinished]
      split
      · rfl
      · exact quiet
  | cleanup taskId =>
      simp only [Effect.listen]
      cases taskIdToBus taskId with
      | none => exact released
      | some bus =>
          refine mapped (fun queue quiet => ?_) rfl
          simp only [Queue.removeListeners]
          split
          · rfl
          · exact quiet
  | _ => exact released

theorem Detaches.heard (detaches : call.Detaches) (taskIdToBus : String → Option BusId)
    (effect : Effect) : (effect.listen taskIdToBus call).Detaches where
  ended left := by
    rw [(listen_overheard taskIdToBus effect).pc] at left
    exact (detaches.ended left).heard taskIdToBus effect
  settled execution executing done := by
    have mapped : ∀ {change : Execution → Execution},
        (∀ execution, (change execution).phase = execution.phase) →
        (∀ execution, execution.tracker.attached = false →
          (change execution).tracker.attached = false) →
        call.execution.map change = some execution → execution.tracker.attached = false := by
      intro change phases keeps found
      obtain ⟨earlier, present, rfl⟩ := Option.map_eq_some_iff.mp found
      exact keeps earlier (detaches.settled earlier present (phases earlier ▸ done))
    cases effect with
    | publish bus id event =>
        refine mapped (Execution.receive_phase bus event) (fun execution quiet => ?_) executing
        simp only [Execution.receive]
        split <;> exact quiet
    | cleanup taskId =>
        simp only [Effect.listen] at executing
        cases registered : taskIdToBus taskId with
        | none => exact detaches.settled execution (by simpa [registered] using executing) done
        | some bus =>
            rw [registered] at executing
            refine @mapped (Execution.removeListeners bus) (fun execution => ?_)
              (fun execution quiet => ?_) executing
            · simp only [Execution.removeListeners]
              split <;> rfl
            · simp only [Execution.removeListeners]
              split
              · rfl
              · exact quiet
    | _ => exact detaches.settled execution executing done

theorem leaveLoop_released : call.leaveLoop.Released := released_of_stopped leaveLoop_eventQueue

theorem afterYield_released {event : AgentExecutionEvent}
    (left : (call.afterYield event).pc.ended = true) : (call.afterYield event).Released := by
  simp only [afterYield] at left ⊢
  split at left
  · rename_i ends
    rw [if_pos ends]
    exact leaveLoop_released
  · cases left

theorem forward_released {taskId : String} {id : EventId} {event : AgentExecutionEvent}
    (left : (call.forward taskId id event).pc.ended = true) :
    (call.forward taskId id event).Released := by
  simp only [forward] at left ⊢
  split at left
  · cases left
  · rename_i other
    split at left
    · rename_i ends
      rw [if_neg other, if_pos ends]
      exact leaveLoop_released
    · cases left

theorem processed_released {ref : EventRef} {event : AgentExecutionEvent}
    (left : (call.processed ref event).pc.ended = true) : (call.processed ref event).Released := by
  cases ref with
  | published id => cases left
  | own failure => exact released_of_stopped rfl

theorem processingFailed_released {ref : EventRef} {error : String}
    (failed : call.processingFailed ref error = (after, effects)) (left : after.pc.ended = true) :
    after.Released := by
  rcases processingFailed_cases failed with ⟨_, _, _, stopped, _⟩ | ⟨_, _, _, _, _, _, rfl, _⟩
  · exact released_of_stopped stopped
  · cases left

theorem takeEvent_continues {id : EventId} {event : AgentExecutionEvent}
    (took : call.takeEvent id event = (after, effects)) : after.pc.ended = false := by
  rcases takeEvent_cases took with ⟨target, rfl, _⟩ | ⟨taskId, target, rfl, _⟩
  · rfl
  · rfl

/-- A call that answers before its loop has released its queue, unless the answer is the failure
of an unguarded await. -/
theorem answered_releases {outcome : Outcome} (wellFormed : call.WellFormed)
    (detaches : call.Detaches) (prepares : call.pc.preparing = true)
    (proceeds : fate = .ok → call.pc.proceeds = false) :
    (call.finish outcome).Released ∨
      (∃ error, fate = .fail error) ∧ call.pc.unguarded = true ∧ ¬ call.Released := by
  have same : (call.finish outcome).eventQueue = call.eventQueue := rfl
  -- every other await before the loop comes before the queue or after its end
  have guarded : call.pc.unguarded = false ∨ call.pc.proceeds = false → call.Released := by
    intro answers
    cases unattached : call.pc.unattached with
    | true => exact released_of_unqueued (wellFormed.unattached unattached)
    | false =>
        refine detaches.ended ?_
        cases counter : call.pc <;>
          simp_all [Pc.preparing, Pc.proceeds, Pc.unguarded, Pc.unattached, Pc.ended]
  by_cases released : call.Released
  · exact .inl (released.congr same)
  · refine .inr ⟨?_, ?_, released⟩
    · cases fate with
      | fail error => exact ⟨error, rfl⟩
      | ok => exact (released (guarded (.inr (proceeds rfl)))).elim
    · by_contra other
      exact released (guarded (.inl (by simpa using other)))

/-- A resumed call that is over afterwards has released its queue, unless it failed at one of the
two unguarded awaits. -/
theorem Resumed.releases (wellFormed : call.WellFormed) (detaches : call.Detaches)
    (resumed : Resumed handler view pid call fate after effects) (left : after.pc.ended = true) :
    after.Released ∨ (∃ error, fate = .fail error) ∧ call.pc.unguarded = true ∧ ¬ call.Released := by
  cases resumed with
  | answered prepares _ proceeds => exact answered_releases wellFormed detaches prepares proceeds
  | historySaved saving =>
      have unqueued := wellFormed.unattached (by simp [saving, Pc.unattached])
      exact .inl ((released_of_unqueued unqueued).congr rfl)
  | referenceLoaded loading =>
      have unqueued := wellFormed.unattached (by simp [loading, Pc.unattached])
      exact .inl ((released_of_unqueued unqueued).congr rfl)
  | @contextBuilt _ _ _ _ extensions after effects loading created =>
      cases wellFormed.contextBuilt loading created <;> cases left
  | loopEnded => exact .inl leaveLoop_released
  | forwarded => exact .inl (forward_released left)
  | @violated queue _ rest => exact .inl (@released_of_stopped (call.shifted queue rest) _ rfl)
  | taken _ _ _ _ _ _ took => simp [takeEvent_continues took] at left
  | lockFailed _ _ _ _ failed => exact .inl (processingFailed_released failed left)
  | skipped => exact .inl (processed_released left)
  | saveFailed _ _ failed => exact .inl (processingFailed_released failed left)
  | saved => exact .inl (processed_released left)
  | mapped => exact .inl (afterYield_released left)
  | closed _ unqueued => exact .inl ((released_of_unqueued unqueued).congr rfl)
  | consumed => exact .inl (afterYield_released left)
  | cancelSaved saving =>
      have unqueued := wellFormed.unattached (by simp [saving, Pc.unattached])
      exact .inl ((released_of_unqueued unqueued).congr rfl)
  | resubscribeRefused => exact .inl (released_of_stopped rfl)
  | misdirected applying => simp [applying, Pc.ended] at left
  | _ => cases left

theorem Begun.detaches (begun : Begun view call after) (unqueued : call.eventQueue = none)
    (unstarted : call.execution = none) : after.Detaches := by
  cases begun with
  | subscribes => exact ⟨nofun, by simp [attachQueue, unstarted]⟩
  | _ => exact ⟨fun _ => released_of_unqueued unqueued, by simp [unstarted, resolveReferences, reject, finish, settle]⟩

/-- A step before its listeners, unless it leaves its queue behind. -/
theorem Resumed.detaches (wellFormed : call.WellFormed) (detaches : call.Detaches)
    (resumed : Resumed handler view pid call fate after effects)
    (guarded : ¬ ((∃ error, fate = .fail error) ∧ call.pc.unguarded = true ∧ ¬ call.Released)) :
    after.Detaches where
  ended left := (resumed.releases wellFormed detaches left).resolve_right guarded
  settled execution executing done := by
    cases resumed.busUse wellFormed with
    | unchanged same | attached _ _ same => exact detaches.settled execution (same ▸ executing) done
    | prepared _ _ _ idle => simp [idle] at executing
    | started _ _ _ _ runs | startedPrepared _ _ _ _ runs =>
        rw [runs, Option.some.injEq] at executing
        subst executing
        cases done

end Call

theorem Execution.reap_detaches {keepBusAliveStates : List TaskState} {streaming : Bool}
    {execution after : Execution} {task : Option Task} {fresh : FailureFresh} {effects : List Effect}
    (reaped : execution.reap keepBusAliveStates streaming task fresh = some (after, effects))
    (done : after.phase.done = true) : after.tracker.attached = false := by
  cases Execution.reap_cases reaped with
  | failed | streamFailed => cases done
  | keptAlive | closed => rfl

namespace State

variable {handler : Handler} {state next : State} {label : Label} {after : Call}
  {effects : List Effect}

def Detaches (state : State) : Prop := ∀ pid call, state.calls pid = some call → call.Detaches

theorem stepped_detaches (wellFormed : state.WellFormed) (detaches : state.Detaches)
    (guarded : ¬ LeavesQueue state label) (stepped : Stepped handler state label after effects) :
    after.Detaches := by
  cases stepped with
  | begun => exact (Call.begin_cases _ _ _ _).detaches rfl rfl
  | @resumed pid call fate after effects found resumed =>
      refine (Call.resume_cases resumed).detaches (wellFormed pid call found)
        (detaches pid call found) ?_
      rintro ⟨⟨error, rfl⟩, unguarded, attached⟩
      exact guarded ⟨call, error, found, rfl, unguarded, attached⟩
  | published found | finishedBus found => exact detaches _ _ found
  | executorReturned found | executorThrew found =>
      refine ⟨(detaches _ _ found).ended, fun execution executing done => ?_⟩
      cases executing
      cases done
  | reaped found _ _ _ _ reaped =>
      refine ⟨(detaches _ _ found).ended, fun execution executing done => ?_⟩
      cases executing
      exact Execution.reap_detaches reaped done
  | @abandoned pid call after found abandoned =>
      obtain ⟨_, _, rfl⟩ := Call.abandon_cases abandoned
      exact ⟨fun _ => Call.released_of_stopped rfl, (detaches _ _ found).settled⟩

theorem detaches_step (wellFormed : state.WellFormed) (detaches : state.Detaches)
    (guarded : ¬ LeavesQueue state label) (stepped : state.step handler label = some next) :
    next.Detaches := by
  obtain ⟨after, effects, steppedTo, rfl⟩ := step_cases stepped
  intro pid call found
  exact commit_holds (fun taskIdToBus effect holds => holds.heard taskIdToBus effect)
    (stepped_detaches wellFormed detaches guarded steppedTo) detaches found

end State

section

variable {handler : Handler} {taskStore : InMemoryTaskStore}
  {pushNotificationStore : InMemoryPushNotificationStore} {taskIdToBus : String → Option BusId}
  {labels : List Label} {state : State} {pid : Pid} {call : Call}

/-- In a run in which no call ends at an unguarded await with its queue attached, every call that
is over has released its queue, and every execution that has settled its tracker. -/
theorem finished_call_is_detached
    (runs : (handlerSystem handler).Runs (fun state label => ¬ LeavesQueue state label)
      (.initial taskStore pushNotificationStore taskIdToBus) labels state)
    (found : state.calls pid = some call) :
    (call.pc = .finished → ∀ queue, call.eventQueue = some queue → queue.attached = false) ∧
      ∀ execution, call.execution = some execution → execution.phase.done = true →
        execution.tracker.attached = false := by
  have holds := runs.invariant (fun state => state.WellFormed ∧ state.Detaches)
    ⟨State.wellFormed_initial _ _ _, fun _ _ present => nomatch present⟩
    fun invariant guarded stepped => ⟨State.wellFormed_step invariant.1 stepped,
      State.detaches_step invariant.1 invariant.2 guarded stepped⟩
  have detaches := holds.2 pid call found
  exact ⟨fun finished => detaches.ended (by rw [finished]; rfl), detaches.settled⟩

open Scenario

/-- An executable form of the condition. -/
def releasesQueue (state : State) (label : Label) : Bool :=
  match label.action, state.calls label.pid with
  | .resume (.fail _), some call => !(call.pc.unguarded && call.eventQueue.any Queue.attached)
  | _, _ => true

theorem releasesQueue_sound (state : State) (label : Label)
    (passed : releasesQueue state label = true) : ¬ LeavesQueue state label := by
  rintro ⟨call, error, found, failed, unguarded, attached⟩
  simp only [releasesQueue, failed, found, unguarded, Bool.true_and, Bool.not_eq_true'] at passed
  refine attached fun queue queued => ?_
  simpa [queued] using passed

/-- A stream whose store fails at its second event, and a follow-up that is cancelled. -/
def failingStreamSchedule : List Label :=
  [calls 0 (.sendMessageStream (params (message "m" "") false)) (context "tenant" "user") "T"] ++
    resumes 0 1 ++
    [publishes 0 0 (taskEvent "T" .working), publishes 0 1 (statusEvent "T" .completed)] ++
    resumes 0 6 ++ [fails 0, returns 0, reaps 0 2 3]

theorem finished_call_is_detached_failing :
    ∃ state call, (handlerSystem (server false)).Runs (fun state label => ¬ LeavesQueue state label)
        (seeded ⟨"", ""⟩ []) failingStreamSchedule state ∧
      state.calls 0 = some call ∧ call.pc = .finished ∧
      ∀ queue, call.eventQueue = some queue → queue.attached = false := by
  have ran : ((handlerSystem (server false)).checkedRun releasesQueue (seeded ⟨"", ""⟩ [])
      failingStreamSchedule).bind (fun state => (state.calls 0).map fun call =>
        match call.pc with | .finished => true | _ => false) = some true := by decide
  obtain ⟨state, ranAll, rest⟩ := Option.bind_eq_some_iff.mp ran
  obtain ⟨call, found, ended⟩ := Option.map_eq_some_iff.mp rest
  have finished : call.pc = .finished := by
    cases counter : call.pc <;> simp_all
  have runs := @System.runs_of_checkedRun _ _ (handlerSystem (server false))
    (fun state label => ¬ LeavesQueue state label) _ _ _ _ (fun _ => True)
    (fun state label _ passed => releasesQueue_sound state label passed)
    (fun _ _ _ => trivial) trivial ranAll
  exact ⟨state, call, runs, found, finished, (finished_call_is_detached runs found).1 finished⟩

/-- A cancellation that its executor rejects. -/
def refusedCancelSchedule : List Label :=
  [calls 0 (.sendMessage (params (message "m" "") false)) (context "tenant" "user") "T"] ++
    resumes 0 1 ++ [publishes 0 0 (taskEvent "T" .working)] ++ resumes 0 4 ++
    [calls 1 (.cancelTask "T") (context "tenant" "user") ""] ++ resumes 1 1 ++ [fails 1]

/-- The rejected cancellation has left its queue on the bus. -/
theorem refused_cancel_stays_attached :
    ¬ ∀ (handler : Handler) (taskStore : InMemoryTaskStore)
      (pushNotificationStore : InMemoryPushNotificationStore) (taskIdToBus : String → Option BusId)
      (labels : List Label) (state : State) (pid : Pid) (call : Call),
      (handlerSystem handler).Reaches (.initial taskStore pushNotificationStore taskIdToBus)
        labels state →
      state.calls pid = some call → call.pc = .finished →
      ∀ queue, call.eventQueue = some queue → queue.attached = false := by
  intro alwaysDetached
  have ran : ((handlerSystem (server false)).run (seeded ⟨"", ""⟩ []) refusedCancelSchedule).bind
      (fun state => (state.calls 1).bind fun call => call.eventQueue.map fun queue =>
        (match call.pc with | .finished => true | _ => false, queue.attached)) =
      some (true, true) := by decide
  obtain ⟨state, ranAll, rest⟩ := Option.bind_eq_some_iff.mp ran
  obtain ⟨call, found, rest⟩ := Option.bind_eq_some_iff.mp rest
  obtain ⟨queue, queued, facts⟩ := Option.map_eq_some_iff.mp rest
  simp only [Prod.mk.injEq] at facts
  have finished : call.pc = .finished := by
    cases counter : call.pc <;> simp_all
  have detached := alwaysDetached _ _ _ _ _ _ _ _ (System.reaches_of_run ranAll) found finished queue queued
  rw [detached] at facts
  exact absurd facts.2 (by simp)

end

end A2A.Server
