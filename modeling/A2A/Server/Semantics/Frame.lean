import A2A.Server.Semantics.Resume

namespace A2A.Server

/-! What the steps of a call leave alone.

`Call.Frame` collects the fields that no step of the event loop changes; each
helper of the loop keeps it, and with it most invariants about the call.
-/

namespace Queue

@[simp] theorem stop_eventBus (queue : Queue) : queue.stop.eventBus = queue.eventBus := rfl
@[simp] theorem stop_eventQueue (queue : Queue) : queue.stop.eventQueue = queue.eventQueue := rfl
@[simp] theorem stop_stop (queue : Queue) : queue.stop.stop = queue.stop := rfl

end Queue

namespace Call

structure Frame (call after : Call) : Prop where
  request : after.request = call.request
  context : after.context = call.context
  fresh : after.fresh = call.fresh
  execution : after.execution = call.execution
  received : after.received = call.received
  eventQueue : after.eventQueue = call.eventQueue ∨ after.eventQueue = call.eventQueue.map Queue.stop
  outcome : call.outcome.isSome = true → after.outcome = call.outcome
  answered : after.firstResultSent = true →
    call.firstResultSent = true ∨ after.outcome.isSome = true

namespace Frame

variable {call middle after : Call}

/-- The fields that the loop does change. -/
theorem advanced {requestedExtensions : Option (List String)} {pc : Pc}
    {resultManager : ResultManager} {yielded : List StreamResponse}
    {notifications : List (StreamResponse × Option Task)} {authRequiredSnapshotSent : Bool}
    {streamPattern : StreamPattern} {handled : List (EventId × AgentExecutionEvent)} :
    Frame call { call with
      requestedExtensions, pc, resultManager, yielded, notifications, authRequiredSnapshotSent,
      streamPattern, handled } :=
  ⟨rfl, rfl, rfl, rfl, rfl, .inl rfl, fun _ => rfl, .inl⟩

theorem refl : Frame call call := advanced

theorem trans (first : Frame call middle) (second : Frame middle after) : Frame call after where
  request := second.request.trans first.request
  context := second.context.trans first.context
  fresh := second.fresh.trans first.fresh
  execution := second.execution.trans first.execution
  received := second.received.trans first.received
  eventQueue := by
    rcases first.eventQueue with kept | stopped <;> rcases second.eventQueue with same | again
    · exact .inl (same.trans kept)
    · exact .inr (again.trans (congrArg _ kept))
    · exact .inr (same.trans stopped)
    · refine .inr (again.trans ?_)
      rw [stopped, Option.map_map]
      rfl
  outcome settled := by
    have kept := first.outcome settled
    exact (second.outcome (by rwa [kept])).trans kept
  answered sent := by
    rcases second.answered sent with earlier | settled
    · rcases first.answered earlier with sent | settled
      · exact .inl sent
      · exact .inr (by rwa [second.outcome settled])
    · exact .inr settled

/-- Every queue of a framed call is on the bus it was on before. -/
theorem eventBus (frame : Frame call after) :
    after.eventQueue.map Queue.eventBus = call.eventQueue.map Queue.eventBus := by
  rcases frame.eventQueue with kept | stopped
  · rw [kept]
  · rw [stopped, Option.map_map]
    rfl

theorem queued (frame : Frame call after) :
    after.eventQueue.map Queue.eventQueue = call.eventQueue.map Queue.eventQueue := by
  rcases frame.eventQueue with kept | stopped
  · rw [kept]
  · rw [stopped, Option.map_map]
    rfl

theorem isStream (frame : Frame call after) : after.isStream = call.isStream := by
  simp only [Call.isStream, frame.request]

end Frame

variable {handler : Handler} {view : View} {call after : Call} {effects : List Effect}

theorem settle_frame (outcome : Outcome) : Frame call (call.settle outcome) :=
  ⟨rfl, rfl, rfl, rfl, rfl, .inl rfl, fun settled => by
    obtain ⟨earlier, found⟩ := Option.isSome_iff_exists.mp settled
    simp [settle, found], .inl⟩

theorem settle_outcome (outcome : Outcome) : (call.settle outcome).outcome.isSome = true := by
  cases found : call.outcome <;> simp [settle, found]

theorem finish_frame (outcome : Outcome) : Frame call (call.finish outcome) :=
  (settle_frame outcome).trans .advanced

theorem finish_outcome (outcome : Outcome) : (call.finish outcome).outcome.isSome = true :=
  settle_outcome outcome

theorem stopQueue_frame : Frame call call.stopQueue :=
  ⟨rfl, rfl, rfl, rfl, rfl, .inr rfl, fun _ => rfl, .inl⟩

theorem drained_frame : Frame call call.drained := .advanced

theorem leaveLoop_frame : Frame call call.leaveLoop := by
  have stopped : Frame call call.stopQueue := stopQueue_frame
  simp only [leaveLoop]
  split
  · split
    · split <;> exact stopped.trans (finish_frame _)
    · split
      · exact stopped.trans drained_frame
      · exact stopped.trans (finish_frame _)
  · exact stopped.trans .advanced
  · exact stopped.trans (finish_frame _)

/-- Where a call is once its loop is over. -/
def leftPc (call : Call) : Pc :=
  match call.request with
  | .cancelTask _ => .cancelReload
  | _ => .finished

@[simp] theorem leaveLoop_pc : call.leaveLoop.pc = call.leftPc := by
  simp only [leaveLoop, leftPc]
  cases call.request with
  | sendMessage params =>
      simp only
      split
      · split <;> rfl
      · split <;> rfl
  | _ => rfl

theorem leftPc_of (property : Pc → Prop) (finished : property .finished)
    (reload : property .cancelReload) (call : Call) : property call.leftPc := by
  simp only [leftPc]
  split
  · exact reload
  · exact finished

/-- A call goes on to its next event, or it has left its loop. -/
theorem afterYield_pc (property : Pc → Prop) (finished : property .finished)
    (reload : property .cancelReload) (pull : property .pull) (call : Call)
    (event : AgentExecutionEvent) : property (call.afterYield event).pc := by
  simp only [afterYield]
  split
  · rw [leaveLoop_pc]
    exact leftPc_of property finished reload call
  · exact pull

theorem forward_pc (property : Pc → Prop) (finished : property .finished)
    (reload : property .cancelReload) (pull : property .pull)
    (id : EventId) (suspended : property (.suspended (some id))) (call : Call) (taskId : String)
    (event : AgentExecutionEvent) : property (call.forward taskId id event).pc := by
  simp only [forward]
  split
  · exact suspended
  · split
    · rw [leaveLoop_pc]
      exact leftPc_of property finished reload _
    · exact pull

theorem leaveLoop_eventQueue : call.leaveLoop.eventQueue = call.eventQueue.map Queue.stop := by
  simp only [leaveLoop]
  cases call.request with
  | sendMessage params =>
      simp only
      split
      · split <;> rfl
      · split <;> rfl
  | _ => rfl

theorem leaveLoop_handled : call.leaveLoop.handled = call.handled := by
  simp only [leaveLoop]
  cases call.request with
  | sendMessage params =>
      simp only
      split
      · split <;> rfl
      · split <;> rfl
  | _ => rfl

theorem processEvent_frame (ref : EventRef) (event : AgentExecutionEvent) :
    Frame call (call.processEvent ref event).1 := by
  simp only [processEvent]
  split
  · exact .refl
  · split <;> exact .advanced

theorem processEvent_handled (ref : EventRef) (event : AgentExecutionEvent) :
    (call.processEvent ref event).1.handled = call.handled := by
  simp only [processEvent]
  split
  · rfl
  · split <;> rfl

/-- The key of the lock that merging an event is serialised under. -/
def lockKeyOf (call : Call) (event : AgentExecutionEvent) : Option String :=
  event.target.bind (fun taskId => if taskId = "" then none else some (lockKey call.context taskId))

theorem processEvent_eq {ref : EventRef} {event : AgentExecutionEvent} {taskId : String}
    (target : event.target = some taskId) :
    call.processEvent ref event =
      ({ call with pc := .lock ref (call.lockKeyOf event) },
        (call.lockKeyOf event).toList.map Effect.acquire) := by
  simp only [processEvent, lockKeyOf, target, Option.bind_some]
  split <;> rfl

theorem processed_frame (call : Call) (ref : EventRef) (event : AgentExecutionEvent) :
    Frame call (call.processed ref event) := by
  cases ref with
  | published id => exact .advanced
  | own own => exact stopQueue_frame.trans drained_frame

/-- What follows a failed `processEvent`: the call is over, or it merges its own failure. -/
theorem processingFailed_cases {ref : EventRef} {error : String}
    (failed : call.processingFailed ref error = (after, effects)) :
    (after.pc = .finished ∧ Frame call after ∧ effects = [] ∧
        after.eventQueue = call.eventQueue.map Queue.stop ∧
        (call.firstResultSent = true ∨ (∃ own, ref = .own own) ∨ after.outcome.isSome = true)) ∨
      ∃ id task, ref = .published id ∧ (∃ params, call.request = .sendMessage params) ∧
        call.firstResultSent = true ∧ call.resultManager.currentTask = some task ∧
        after = { call with
          pc := .lock (.own (call.processingFailure task error))
            (call.lockKeyOf (call.processingFailure task error)) } ∧
        effects = (call.lockKeyOf (call.processingFailure task error)).toList.map Effect.acquire := by
  cases ref with
  | own event =>
      cases failed
      exact .inl ⟨rfl, stopQueue_frame.trans drained_frame, rfl, rfl, .inr (.inl ⟨event, rfl⟩)⟩
  | published id =>
      simp only [processingFailed] at failed
      split at failed
      · rename_i params sends
        split at failed
        · rename_i sent
          cases current : call.resultManager.currentTask with
          | none =>
              simp only [current, Prod.mk.injEq] at failed
              obtain ⟨rfl, rfl⟩ := failed
              exact .inl ⟨rfl, stopQueue_frame.trans drained_frame, rfl, rfl, .inl sent⟩
          | some task =>
              simp only [current] at failed
              rw [processEvent_eq (show AgentExecutionEvent.target _ = some task.id from rfl)] at failed
              cases failed
              exact .inr ⟨id, task, rfl, ⟨params, sends⟩, sent, rfl, rfl, rfl⟩
        · cases failed
          exact .inl ⟨rfl, stopQueue_frame.trans (finish_frame _), rfl, rfl,
            .inr (.inr (finish_outcome _))⟩
      · cases failed
        exact .inl ⟨rfl, stopQueue_frame.trans (finish_frame _), rfl, rfl,
          .inr (.inr (finish_outcome _))⟩

theorem processingFailed_frame {ref : EventRef} {error : String}
    (failed : call.processingFailed ref error = (after, effects)) : Frame call after := by
  rcases processingFailed_cases failed with ⟨_, frame, _⟩ | ⟨_, _, _, _, _, _, rfl, _⟩
  · exact frame
  · exact .advanced

/-- A call whose event failed is over, or it waits to merge its own failure. -/
theorem processingFailed_pc (property : Pc → Prop) (finished : property .finished)
    (lock : ∀ failure key, property (.lock (.own failure) key)) {ref : EventRef} {error : String}
    (failed : call.processingFailed ref error = (after, effects)) : property after.pc := by
  rcases processingFailed_cases failed with ⟨left, _⟩ | ⟨_, _, _, _, _, _, rfl, _⟩
  · rw [left]
    exact finished
  · exact lock _ _

/-- A taken message is merged at once; every other event waits for the lock of its task. -/
theorem takeEvent_cases {id : EventId} {event : AgentExecutionEvent}
    (took : call.takeEvent id event = (after, effects)) :
    (event.target = none ∧
        after = ({ call with resultManager := (call.resultManager.merge none event).1 }).processed
          (.published id) event ∧ effects = []) ∨
      ∃ taskId, event.target = some taskId ∧
        after = { call with pc := .lock (.published id) (call.lockKeyOf event) } ∧
        effects = (call.lockKeyOf event).toList.map Effect.acquire := by
  cases target : event.target with
  | none =>
      simp only [takeEvent, target, Prod.mk.injEq] at took
      exact .inl ⟨rfl, took.1.symm, took.2.symm⟩
  | some taskId =>
      simp only [takeEvent, target] at took
      rw [processEvent_eq target, Prod.mk.injEq] at took
      exact .inr ⟨taskId, rfl, took.1.symm, took.2.symm⟩

theorem takeEvent_frame (call : Call) (id : EventId) (event : AgentExecutionEvent) :
    Frame call (call.takeEvent id event).1 := by
  simp only [takeEvent]
  split
  · exact .advanced
  · exact processEvent_frame _ _

theorem notify_frame (handler : Handler) (call : Call) (response : StreamResponse) :
    Frame call (call.notify handler response) := by
  simp only [notify]
  split <;> exact .advanced

theorem notify_rest (handler : Handler) (call : Call) (response : StreamResponse) :
    (call.notify handler response).pc = call.pc ∧
      (call.notify handler response).handled = call.handled ∧
      (call.notify handler response).eventQueue = call.eventQueue ∧
      (call.notify handler response).outcome = call.outcome ∧
      (call.notify handler response).firstResultSent = call.firstResultSent ∧
      (call.notify handler response).resultManager = call.resultManager := by
  simp only [notify]
  split <;> exact ⟨rfl, rfl, rfl, rfl, rfl, rfl⟩

theorem afterYield_frame (event : AgentExecutionEvent) : Frame call (call.afterYield event) := by
  simp only [afterYield]
  split
  · exact leaveLoop_frame
  · exact .advanced

theorem forward_frame (call : Call) (taskId : String) (id : EventId) (event : AgentExecutionEvent) :
    Frame call (call.forward taskId id event) := by
  have looked : Frame call { call with handled := call.handled ++ [(id, event)] } :=
    .advanced
  simp only [forward]
  split
  · exact looked.trans .advanced
  · split
    · exact looked.trans leaveLoop_frame
    · exact looked.trans .advanced

/-- Handing a result out settles the promise, and trims at most the manager's copy. -/
theorem handOutResults_cases {id : EventId} {event : AgentExecutionEvent}
    (handed : call.handOutResults id event = (after, effects)) :
    (after = call ∧ effects = []) ∨
      ∃ outcome manager auth,
        after = { call.settle outcome with
          firstResultSent := true, authRequiredSnapshotSent := auth, resultManager := manager } ∧
        manager.latestUserMessage = call.resultManager.latestUserMessage ∧
        (manager = call.resultManager ∨ ∃ task historyLength,
          call.resultManager.currentTask = some task ∧
          manager = { call.resultManager with
            currentTask := some (applyHistoryLengthSemantics historyLength task) }) ∧
        (effects = [] ∨ ∃ historyLength, effects = [.trim id historyLength]) := by
  simp only [handOutResults] at handed
  split at handed
  · rename_i params sends
    split at handed
    · split at handed
      · split at handed
        · cases handed
          exact .inl ⟨rfl, rfl⟩
        · cases handed
          exact .inr ⟨_, call.resultManager, true, rfl, rfl, .inl rfl, .inl rfl⟩
      · cases handed
        exact .inl ⟨rfl, rfl⟩
    · split at handed
      · cases handed
        exact .inl ⟨rfl, rfl⟩
      · split at handed
        · cases handed
          exact .inr ⟨_, call.resultManager, call.authRequiredSnapshotSent, rfl, rfl, .inl rfl,
            .inl rfl⟩
        · cases handed
          exact .inr ⟨_, call.resultManager, call.authRequiredSnapshotSent, rfl, rfl, .inl rfl,
            .inr ⟨_, rfl⟩⟩
        · split at handed
          · cases handed
            exact .inl ⟨rfl, rfl⟩
          · cases handed
            exact .inr ⟨_, call.resultManager, call.authRequiredSnapshotSent, rfl, rfl, .inl rfl,
              .inl rfl⟩
          · rename_i task final
            cases handed
            have current : call.resultManager.currentTask = some task := by
              simp only [ResultManager.getFinalResult] at final
              split at final
              · cases final
              · cases found : call.resultManager.currentTask with
                | none => simp [found] at final
                | some stored =>
                    simp only [found, Option.map_some, Option.some.injEq,
                      ResultManager.FinalResult.task.injEq] at final
                    rw [final]
            exact .inr ⟨_, _, call.authRequiredSnapshotSent, rfl, rfl,
              .inr ⟨task, _, current, rfl⟩, .inl rfl⟩
  · cases handed
    exact .inl ⟨rfl, rfl⟩

theorem handOutResults_frame {id : EventId} {event : AgentExecutionEvent}
    (handed : call.handOutResults id event = (after, effects)) : Frame call after := by
  rcases handOutResults_cases handed with ⟨rfl, _⟩ | ⟨outcome, manager, auth, rfl, _⟩
  · exact .refl
  · exact (settle_frame outcome).trans ⟨rfl, rfl, rfl, rfl, rfl, .inl rfl, fun _ => rfl,
      fun _ => .inr (settle_outcome outcome)⟩

end Call

end A2A.Server
