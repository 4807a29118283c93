import A2A.Server.Semantics.Consumers

namespace A2A.Server

open Library

/-! The published events that a call still reads.

A resumed call reads no other event, and comes to await none that it did not await before;
only the listeners of a publication add one.  The rejection handler of `execute()` reads one more,
the task of its request context.
-/

namespace Execution

/-- The rejection handler may still copy the history of the request context's task: the streaming
one does so only when no task has been published. -/
def reportsTask (streaming : Bool) (execution : Execution) : Bool :=
  match execution.phase with
  | .running | .rejected _ => !streaming || execution.tracker.lastTask.isNone
  | .settling _ | .settled _ => false

theorem reap_congr {keepBusAliveStates : List TaskState} {streaming : Bool} {execution : Execution}
    {task other : Option Task} (fresh : FailureFresh)
    (alike : execution.reportsTask streaming = true → other = task) :
    execution.reap keepBusAliveStates streaming other fresh =
      execution.reap keepBusAliveStates streaming task fresh := by
  simp only [reap]
  cases phase : execution.phase with
  | rejected errorMessage =>
      cases streaming with
      | false => rw [alike (by simp [reportsTask, phase])]
      | true =>
          cases published : execution.tracker.lastTask with
          | none => rw [alike (by simp [reportsTask, phase, published])]
          | some last => simp [streamFailureEvents, published]
  | _ => rfl

theorem receive_reportsTask {streaming : Bool} {bus : BusId} {event : AgentExecutionEvent}
    {execution : Execution} (reports : (execution.receive bus event).reportsTask streaming = true) :
    execution.reportsTask streaming = true := by
  simp only [receive] at reports
  split at reports
  · cases event with
    | task data =>
        cases streaming with
        | false => exact reports
        | true =>
            simp only [reportsTask, Tracker.listener] at reports
            split at reports <;> simp at reports
    | _ => exact reports
  · exact reports

theorem removeListeners_reportsTask (streaming : Bool) (bus : BusId) (execution : Execution) :
    (execution.removeListeners bus).reportsTask streaming = execution.reportsTask streaming := by
  simp only [removeListeners]
  split <;> rfl

end Execution

/-- The published event that the call's next steps read. -/
def Pc.reads : Pc → Option EventId
  | .lock (.published id) _ | .save (.published id) _ _ | .map id => some id
  | _ => none

namespace Call

/-- The call will still read the event: it waits in the queue, or is being handled. -/
def Awaits (id : EventId) (call : Call) : Prop :=
  (∃ queue, call.eventQueue = some queue ∧ id ∈ queue.eventQueue) ∨ call.pc.reads = some id

/-- The call's execution, or the one it will start, may still report the task of its context. -/
def mayReport (call : Call) : Bool :=
  match call.execution with
  | some execution => execution.reportsTask call.isStream
  | none => true

theorem running_mayReport {call : Call} {execution : Execution} {phase : Phase}
    (executing : call.execution = some execution) (running : execution.phase = .running)
    (reports : ({ call with execution := some { execution with phase } }).mayReport = true) :
    call.mayReport = true := by
  simp only [mayReport, executing, Execution.reportsTask, running] at reports ⊢
  cases phase <;> simp_all [isStream]

theorem listen_mayReport {call : Call} {taskIdToBus : String → Option BusId} {effect : Effect}
    (reports : (effect.listen taskIdToBus call).mayReport = true) : call.mayReport = true := by
  cases executing : call.execution with
  | none => simp [mayReport, executing]
  | some execution =>
      have removes : ∀ bus, (call.removeListeners bus).mayReport = true → call.mayReport = true := by
        intro bus reports
        simp only [mayReport, removeListeners, executing, Option.map_some] at reports ⊢
        rwa [← execution.removeListeners_reportsTask _ bus]
      cases effect with
      | publish bus id event =>
          simp only [Effect.listen, mayReport, receive, executing, Option.map_some] at reports ⊢
          exact execution.receive_reportsTask reports
      | cleanup taskId =>
          cases registered : taskIdToBus taskId with
          | none => simpa [Effect.listen, registered] using reports
          | some bus => exact removes bus (by simpa [Effect.listen, registered] using reports)
      | _ => exact reports

/-- The heaps agree on what the call still reads, and everywhere up to histories. -/
def Agree (call : Call) (events other : EventHeap) : Prop :=
  ∀ id, (other id).map AgentExecutionEvent.core = (events id).map AgentExecutionEvent.core ∧
    (call.Awaits id → other id = events id)

variable {handler : Handler} {view : View} {pid : Pid} {fate : Fate} {call after : Call}
  {effects : List Effect} {events other : EventHeap} {id : EventId}

theorem next_congr (last : Option EventId) (agree : call.Agree view.event events) :
    call.next { view with event := events } last = call.next view last := by
  simp only [next]
  cases call.eventQueue with
  | none => rfl
  | some queue =>
      cases last with
      | none => rfl
      | some id =>
          have same := (agree id).1
          cases known : view.event id with
          | none =>
              rw [known] at same
              simp [known, Option.map_eq_none_iff.mp same]
          | some event =>
              rw [known] at same
              obtain ⟨twin, found, alike⟩ := Option.map_eq_some_iff.mp same
              simp [known, found, afterYield, AgentExecutionEvent.endsQueue_of_core alike]

theorem pull_congr (agree : call.Agree view.event events) :
    call.pull { view with event := events } = call.pull view := by
  cases queued : call.eventQueue with
  | none => simp only [pull, queued]
  | some queue =>
      cases waiting : queue.eventQueue with
      | nil => simp only [pull, queued, waiting]
      | cons id rest =>
          have awaited : call.Awaits id := .inl ⟨queue, queued, by simp [waiting]⟩
          simp only [pull, queued, waiting, (agree id).2 awaited]

theorem enterLock_congr {ref : EventRef} {key : Option String} (counter : call.pc = .lock ref key)
    (agree : call.Agree view.event events) :
    call.enterLock { view with event := events } ref key fate = call.enterLock view ref key fate := by
  have same : ref.resolve { view with event := events } = ref.resolve view := by
    cases ref with
    | own event => rfl
    | published id => exact (agree id).2 (.inr (by rw [counter]; rfl))
  simp only [enterLock, same]

theorem mapEvent_congr (counter : call.pc = .map id) (agree : call.Agree view.event events) :
    call.mapEvent handler { view with event := events } id fate =
      call.mapEvent handler view id fate := by
  have awaited : call.Awaits id := .inr (by rw [counter]; rfl)
  simp only [mapEvent, (agree id).2 awaited]
  rfl

/-- A resumed call reads no event but those it awaits, and of the last it yielded only what no
trim changes. -/
theorem resume_congr (agree : call.Agree view.event events) :
    call.resume handler { view with event := events } pid fate =
      call.resume handler view pid fate := by
  cases fate with
  | ok =>
      simp only [resume, resumeOk]
      cases counter : call.pc with
      | pull => exact pull_congr agree
      | lock ref key => exact enterLock_congr counter agree
      | map id => exact mapEvent_congr counter agree
      | suspended last => exact next_congr last agree
      | loadReferences message task taskId pending loaded => cases pending <;> rfl
      | _ => rfl
  | fail error =>
      simp only [resume, resumeFailed]
      cases counter : call.pc with
      | lock ref key => exact enterLock_congr counter agree
      | map id =>
          have awaited : call.Awaits id := .inr (by rw [counter]; rfl)
          simp only [(agree id).2 awaited]
          cases view.event id with
          | none => rfl
          | some event =>
              cases event with
              | task data => exact mapEvent_congr counter agree
              | _ => rfl
      | _ => rfl

theorem Frame.awaits (frame : Frame call after)
    (reading : ∀ id, after.pc.reads = some id → call.Awaits id) (awaits : after.Awaits id) :
    call.Awaits id := by
  rcases awaits with ⟨queue, queued, member⟩ | working
  · have same := frame.queued
    rw [queued] at same
    obtain ⟨earlier, attached, equal⟩ := Option.map_eq_some_iff.mp same.symm
    exact .inl ⟨earlier, attached, equal ▸ member⟩
  · exact reading id working

theorem shifted_awaits {queue : Queue} {rest : List EventId} {head : EventId}
    (attached : call.eventQueue = some queue) (waiting : queue.eventQueue = head :: rest)
    (awaits : (call.shifted queue rest).Awaits id) : call.Awaits id := by
  rcases awaits with ⟨shifted, queued, member⟩ | working
  · cases queued
    exact .inl ⟨queue, attached, by simp [waiting, show id ∈ rest from member]⟩
  · exact .inr working

theorem takeEvent_reads {event : AgentExecutionEvent}
    (took : call.takeEvent id event = (after, effects)) :
    Frame call after ∧ after.pc.reads = some id := by
  have frame := takeEvent_frame call id event
  rw [took] at frame
  refine ⟨frame, ?_⟩
  rcases takeEvent_cases took with ⟨_, rfl, _⟩ | ⟨_, _, rfl, _⟩
  · rfl
  · rfl

theorem processed_reads {ref : EventRef} {event : AgentExecutionEvent} {key : Option String}
    (reads : (call.processed ref event).pc.reads = some id) :
    (Pc.lock ref key).reads = some id ∧ (Pc.save ref key event).reads = some id := by
  cases ref with
  | own own => cases reads
  | published other => exact ⟨reads, reads⟩

/-- A resumed call awaits nothing it did not await before. -/
theorem Resumed.awaits (wellFormed : call.WellFormed)
    (resumed : Resumed handler view pid call fate after effects) (awaits : after.Awaits id) :
    call.Awaits id := by
  have unread : Frame call after → after.pc.reads = none → call.Awaits id := fun frame none =>
    frame.awaits (fun other reads => by simp [none] at reads) awaits
  cases resumed with
  | answered => exact unread (finish_frame _) rfl
  | taskAccepted | cancelExecuted | cancelSaved | cancelDirect | configTaskFound =>
      exact unread .advanced rfl
  | historySaved =>
      refine unread .advanced ?_
      simp only [resolveReferences]
      split <;> rfl
  | referenceLoaded =>
      refine unread .advanced ?_
      simp only
      split <;> rfl
  | @contextBuilt _ _ _ _ extensions _ _ loading created =>
      cases wellFormed.contextBuilt loading created with
      | configures => exact unread .advanced rfl
      | configuresStream | runs =>
          rcases awaits with ⟨queue, queued, member⟩ | working
          · cases queued
            cases member
          · cases working
  | configSaved =>
      rcases awaits with queued | working
      · exact .inl queued
      · cases working
  | configSavedFirst | cancelAttached =>
      rcases awaits with ⟨queue, queued, member⟩ | working
      · cases queued
        cases member
      · cases working
  | loopEnded => 
      refine unread leaveLoop_frame ?_
      rw [leaveLoop_pc]
      exact leftPc_of (·.reads = none) rfl rfl call
  | forwarded pulling attached waiting =>
      refine shifted_awaits attached waiting ((forward_frame _ _ _ _).awaits (fun other reads => ?_) awaits)
      rw [forward_pc (·.reads = none) rfl rfl rfl _ rfl] at reads
      cases reads
  | violated pulling attached waiting =>
      refine shifted_awaits attached waiting
        ((stopQueue_frame.trans (finish_frame _)).awaits (fun other reads => ?_) awaits)
      cases reads
  | taken _ attached waiting _ _ _ took =>
      obtain ⟨frame, head⟩ := takeEvent_reads took
      rcases awaits with ⟨queue, queued, member⟩ | working
      · have same := frame.queued
        rw [queued] at same
        cases same
        exact .inl ⟨_, attached, by simp [waiting, member]⟩
      · cases head.symm.trans working
        exact .inl ⟨_, attached, by simp [waiting]⟩
  | lockFailed waiting _ _ _ failed | saveFailed waiting _ failed =>
      rcases processingFailed_cases failed with ⟨counter, frame, _⟩ | ⟨_, task, _, _, _, _, rfl, _⟩
      · exact unread frame (by rw [counter]; rfl)
      · exact unread .advanced rfl
  | @merged ref key event manager waiting =>
      refine Frame.advanced.awaits (fun other reads => .inr ?_) awaits
      rw [waiting]
      cases ref with
      | published id => exact reads
      | own failure => cases reads
  | @skipped ref key event manager waiting =>
      have managed : Frame call { call with resultManager := manager } := .advanced
      refine (managed.trans (processed_frame _ ref event)).awaits (fun other reads => .inr ?_) awaits
      rw [waiting]
      exact (processed_reads reads).1
  | @saved ref key event task saving =>
      refine (processed_frame call ref event).awaits (fun other reads => .inr ?_) awaits
      rw [saving]
      exact (processed_reads reads).2
  | yielded => exact unread ((notify_frame handler call _).trans .advanced) rfl
  | mapped mapping known _ _ _ handedOut =>
      exact unread (((notify_frame handler call _).trans (handOutResults_frame handedOut)).trans
        (afterYield_frame _)) (afterYield_pc (·.reads = none) rfl rfl rfl _ _)
  | closed => exact unread (finish_frame _) rfl
  | continued => exact unread .advanced rfl
  | consumed => exact unread (afterYield_frame _) (afterYield_pc (·.reads = none) rfl rfl rfl _ _)
  | resubscribeRefused => exact unread (stopQueue_frame.trans (finish_frame _)) rfl
  | resubscribed => exact unread .advanced rfl
  | misdirected => exact awaits

/-- The loop body after the merge reads nothing more of its event. -/
theorem mapEvent_left (mapped : call.mapEvent handler view id fate = some (after, effects)) :
    Frame call after ∧ after.pc.reads = none := by
  simp only [mapEvent] at mapped
  split at mapped
  · cases mapped
  · rename_i event _
    generalize mapEventToStreamResponse view fate event = result at mapped
    obtain ⟨response, stored⟩ := result
    simp only at mapped
    split at mapped
    · cases mapped
      exact ⟨(notify_frame handler call _).trans .advanced, rfl⟩
    · cases handedOut : (call.notify handler response).handOutResults id event with
      | mk handed trims =>
          simp only [handedOut, Option.some.injEq, Prod.mk.injEq] at mapped
          obtain ⟨rfl, rfl⟩ := mapped
          exact ⟨((notify_frame handler call _).trans (handOutResults_frame handedOut)).trans
            (afterYield_frame _), afterYield_pc (·.reads = none) rfl rfl rfl _ _⟩

theorem resume_mapping (counter : call.pc = .map id)
    (resumed : call.resume handler view pid fate = some (after, effects)) :
    ∃ event, view.event id = some event ∧ (fate = .ok ∨ ∃ data, event = .task data) := by
  cases known : view.event id with
  | none => cases fate <;> simp [resume, resumeOk, resumeFailed, mapEvent, counter, known] at resumed
  | some event =>
      refine ⟨event, rfl, ?_⟩
      cases fate with
      | ok => exact .inl rfl
      | fail error =>
          cases event with
          | task data => exact .inr ⟨data, rfl⟩
          | _ => simp [resume, resumeFailed, counter, known] at resumed

theorem resume_map {event : AgentExecutionEvent} (counter : call.pc = .map id)
    (known : view.event id = some event) (goes : fate = .ok ∨ ∃ data, event = .task data) :
    call.resume handler view pid fate = call.mapEvent handler view id fate := by
  cases fate with
  | ok => simp only [resume, resumeOk, counter]
  | fail error =>
      obtain ⟨data, rfl⟩ := goes.resolve_left Fate.noConfusion
      simp only [resume, resumeFailed, counter, known]

end Call

end A2A.Server
