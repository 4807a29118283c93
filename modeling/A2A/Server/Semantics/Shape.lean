import A2A.Server.Semantics.Frame

namespace A2A.Server

/-! The invariant of a single call's record.

`Call.WellFormed` relates the program counter to the queue, the execution and
the settled promise.  It speaks of nothing outside the record, so the listeners
of other calls' events keep it as well.
-/

namespace Pc

/-- The call has not attached a queue yet. -/
def unattached : Pc → Bool
  | .loadTask _ | .saveHistory _ _ | .loadReferences _ _ _ _ _ | .getAgentCard _ _ _ _
  | .cancelLoad | .cancelSave _ | .getTaskLoad | .listTasks | .configLoadTask | .configApply => true
  | _ => false

/-- The call is on its way to its executor. -/
def starts : Pc → Bool
  | .loadTask _ | .saveHistory _ _ | .loadReferences _ _ _ _ _ | .getAgentCard _ _ _ _
  | .savePushConfig _ _ => true
  | _ => false

/-- The call has a queue, stopped or not. -/
def listening : Pc → Bool
  | .cancelExecute | .pull | .lock _ _ | .save _ _ _ | .map _ => true
  | _ => false

/-- The request context of a call that saves its push configuration first. -/
def starting : Pc → Option RequestContext
  | .savePushConfig requestContext _ => some requestContext
  | _ => none

/-- The failure update being merged after a failed event. -/
def reportsFailure : Pc → Bool
  | .lock (.own _) _ | .save (.own _) _ _ => true
  | _ => false

-- Their equations, made here once: the lemmas below all ask for them.
attribute [local simp] unattached starts listening starting reportsFailure

end Pc

theorem ResultManager.merge_saves {manager after : ResultManager} {loaded : Option Task}
    {event : AgentExecutionEvent} (merged : manager.merge loaded event = (after, true)) :
    ∃ task, after.currentTask = some task ∧ event.target = some task.id := by
  cases event with
  | message data => simp [merge] at merged
  | task data =>
      simp only [merge, Prod.mk.injEq, and_true] at merged
      subst after
      refine ⟨_, rfl, ?_⟩
      have kept : ∀ task : Task, (prependUserMessage manager.latestUserMessage task).id = task.id := by
        intro task
        simp only [prependUserMessage]
        split
        · rfl
        · split <;> rfl
      simp only [mergeTaskEvent, kept, AgentExecutionEvent.target]
      split
      · split <;> rfl
      · rfl
  | statusUpdate data =>
      simp only [merge] at merged
      split at merged
      · split at merged
        · rename_i task same
          cases merged
          exact ⟨_, rfl, by simp [AgentExecutionEvent.target, mergeStatusUpdate, same]⟩
        · simp at merged
      · simp at merged
  | artifactUpdate data =>
      simp only [merge] at merged
      split at merged
      · simp at merged
      · split at merged
        · split at merged
          · rename_i task same
            cases merged
            exact ⟨_, rfl, by simp [AgentExecutionEvent.target, mergeArtifactUpdate, same]⟩
          · simp at merged
        · simp at merged

theorem ResultManager.merge_latestUserMessage (manager : ResultManager) (loaded : Option Task)
    (event : AgentExecutionEvent) :
    (manager.merge loaded event).1.latestUserMessage = manager.latestUserMessage := by
  cases event with
  | message | task => rfl
  | statusUpdate data =>
      simp only [merge]
      split
      · split <;> rfl
      · rfl
  | artifactUpdate data =>
      simp only [merge]
      split
      · rfl
      · split
        · split <;> rfl
        · rfl

namespace Call

def bus (call : Call) : Option BusId := call.eventQueue.map Queue.eventBus

def isSend (call : Call) : Bool :=
  match call.request with
  | .sendMessage _ | .sendMessageStream _ => true
  | _ => false

structure WellFormed (call : Call) : Prop where
  unattached : call.pc.unattached = true → call.eventQueue = none
  starts : call.pc.starts = true → call.isSend = true
  starting : call.pc.starting.isSome = true → (call.isStream = true ↔ call.eventQueue.isSome = true)
  executes : ∀ execution, call.execution = some execution →
    call.isSend = true ∧ call.bus = some execution.eventBus ∧ call.pc.starts = false
  listening : call.pc.listening = true → call.eventQueue.isSome = true
  detached : ∀ queue, call.eventQueue = some queue → queue.stopped = true → queue.attached = false
  answered : call.firstResultSent = true → call.outcome.isSome = true
  reporting : call.pc.reportsFailure = true → call.firstResultSent = true
  returned : call.pc = .finished → call.outcome.isSome = true
  merging : ∀ ref key event, call.pc = .save ref key event →
    ∃ task, call.resultManager.currentTask = some task ∧ event.target = some task.id

namespace WellFormed

variable {handler : Handler} {view : View} {pid : Pid} {fate : Fate} {call after : Call}
  {effects : List Effect}

theorem begin (request : Request) (context : ServerCallContext)
    (requestedExtensions : Option (List String)) (fresh : Fresh) :
    (handler.begin view request context requestedExtensions fresh).WellFormed := by
  have sends : ∀ {message}, Sends request message →
      (blank request context requestedExtensions fresh).isSend = true := by
    rintro message ⟨params, asked, _⟩
    rcases asked with rfl | rfl <;> rfl
  have begun := @begin_cases handler view request context requestedExtensions fresh
  generalize handler.begin view request context requestedExtensions fresh = call at begun ⊢
  cases begun with
  | refused => constructor <;> simp [reject, finish, settle, blank, Pc.unattached, Pc.starts,
      Pc.starting, Pc.listening, Pc.reportsFailure]
  | starts asked =>
      have own := sends asked
      simp only [resolveReferences]
      split <;> constructor <;> simp_all [blank, Pc.unattached, Pc.starts, Pc.starting,
        Pc.listening, Pc.reportsFailure, isSend]
  | follows asked =>
      have own := sends asked
      constructor <;> simp_all [blank, Pc.unattached, Pc.starts, Pc.starting, Pc.listening,
        Pc.reportsFailure, isSend]
  | loads counter =>
      rcases counter with rfl | rfl | rfl | rfl <;> constructor <;> simp [blank, Pc.unattached,
        Pc.starts, Pc.starting, Pc.listening, Pc.reportsFailure]
  | subscribes => constructor <;> simp [blank, attachQueue, Queue.new, Pc.unattached, Pc.starts,
      Pc.starting, Pc.listening, Pc.reportsFailure]
  | idles => constructor <;> simp [blank, Pc.unattached, Pc.starts, Pc.starting, Pc.listening,
      Pc.reportsFailure]

/-- A step of the loop keeps the invariant when it leaves the program counter consistent. -/
theorem framed (wellFormed : call.WellFormed) (frame : Frame call after)
    (attached : after.pc.unattached = false) (started : after.pc.starts = false)
    (listening : after.pc.listening = true → call.pc.listening = true ∨ call.eventQueue.isSome = true)
    (reporting : after.pc.reportsFailure = true → after.firstResultSent = true)
    (returned : after.pc = .finished → after.outcome.isSome = true)
    (merging : ∀ ref key event, after.pc = .save ref key event →
      ∃ task, after.resultManager.currentTask = some task ∧ event.target = some task.id) :
    after.WellFormed where
  unattached waiting := by simp [attached] at waiting
  starts starting := by simp [started] at starting
  starting starting := by
    have : after.pc.starts = true := by
      cases counter : after.pc <;> simp_all [Pc.starting, Pc.starts]
    simp [started] at this
  executes execution executing := by
    obtain ⟨sends, bus, _⟩ := wellFormed.executes execution (frame.execution ▸ executing)
    refine ⟨by simpa only [isSend, frame.request] using sends, ?_, started⟩
    exact frame.eventBus.trans bus
  listening loops := by
    have queued : call.eventQueue.isSome = true :=
      (listening loops).elim wellFormed.listening id
    rcases frame.eventQueue with kept | stopped
    · rwa [kept]
    · simpa [stopped] using queued
  detached queue queued stopped := by
    rcases frame.eventQueue with kept | stop
    · exact wellFormed.detached queue (kept ▸ queued) stopped
    · obtain ⟨earlier, _, rfl⟩ := Option.map_eq_some_iff.mp (stop ▸ queued)
      rfl
  answered sent := by
    rcases frame.answered sent with earlier | settled
    · have settled := wellFormed.answered earlier
      rwa [frame.outcome settled]
    · exact settled
  reporting := reporting
  returned := returned
  merging := merging

theorem finished (wellFormed : call.WellFormed) (frame : Frame call after)
    (counter : after.pc = .finished) (settled : after.outcome.isSome = true) : after.WellFormed :=
  wellFormed.framed frame (by simp [counter, Pc.unattached]) (by simp [counter, Pc.starts])
    (by simp [counter, Pc.listening]) (by simp [counter, Pc.reportsFailure]) (fun _ => settled)
    (by simp [counter])

theorem leaveLoop (wellFormed : call.WellFormed) : call.leaveLoop.WellFormed := by
  have counter : call.leftPc = .finished ∨ call.leftPc = .cancelReload := by
    rw [leftPc]
    split
    · exact .inr rfl
    · exact .inl rfl
  have settled : call.leaveLoop.pc = .finished → call.leaveLoop.outcome.isSome = true := by
    intro left
    rw [leaveLoop_pc] at left
    simp only [Call.leaveLoop]
    split
    · split
      · split <;> exact settle_outcome _
      · split
        · rename_i sent
          exact wellFormed.answered sent
        · exact settle_outcome _
    · rename_i cancels
      simp [leftPc, cancels] at left
    · exact settle_outcome _
  refine wellFormed.framed leaveLoop_frame ?_ ?_ ?_ ?_ settled ?_ <;>
    rcases counter with counter | counter <;>
    simp [counter, Pc.unattached, Pc.starts, Pc.listening, Pc.reportsFailure]

theorem finish (wellFormed : call.WellFormed) (outcome : Outcome) :
    (call.finish outcome).WellFormed :=
  wellFormed.finished (finish_frame outcome) rfl (finish_outcome outcome)

theorem stopQueue_finish (wellFormed : call.WellFormed) (outcome : Outcome) :
    (call.stopQueue.finish outcome).WellFormed :=
  wellFormed.finished (stopQueue_frame.trans (finish_frame outcome)) rfl (finish_outcome outcome)

/-- Moving between two awaits of the loop. -/
theorem moved (wellFormed : call.WellFormed) (frame : Frame call after)
    (sent : after.firstResultSent = call.firstResultSent)
    (queued : call.eventQueue.isSome = true)
    (counter : after.pc = .pull ∨ (∃ id, after.pc = .map id) ∨ (∃ last, after.pc = .suspended last) ∨
      ∃ ref key, after.pc = .lock ref key ∧ (after.pc.reportsFailure = true →
        call.firstResultSent = true)) : after.WellFormed := by
  refine wellFormed.framed frame ?_ ?_ (fun _ => .inr queued) ?_ ?_ ?_ <;>
    rcases counter with counter | ⟨id, counter⟩ | ⟨last, counter⟩ | ⟨ref, key, counter, reports⟩ <;>
    first
      | simp [counter, Pc.unattached, Pc.starts, Pc.reportsFailure]; done
      | exact fun reporting => sent.trans (reports reporting)

theorem processed (wellFormed : call.WellFormed) (queued : call.eventQueue.isSome = true)
    (ref : EventRef) (event : AgentExecutionEvent)
    (own : ∀ failure, ref = .own failure → call.outcome.isSome = true) :
    (call.processed ref event).WellFormed := by
  cases ref with
  | published id =>
      exact wellFormed.moved (processed_frame _ _ _) rfl queued (.inr (.inl ⟨id, rfl⟩))
  | own failure => exact wellFormed.finished (processed_frame _ _ _) rfl (own failure rfl)

theorem processingFailed {ref : EventRef} {error : String} (wellFormed : call.WellFormed)
    (queued : call.eventQueue.isSome = true)
    (own : ∀ failure, ref = .own failure → call.firstResultSent = true)
    (failed : call.processingFailed ref error = (after, effects)) : after.WellFormed := by
  rcases processingFailed_cases failed with ⟨counter, frame, _, _, settled⟩ |
    ⟨id, task, _, _, sent, _, rfl, _⟩
  · refine wellFormed.finished frame counter ?_
    rcases settled with sent | ⟨failure, isOwn⟩ | settled
    · rw [frame.outcome (wellFormed.answered sent)]
      exact wellFormed.answered sent
    · have answered := wellFormed.answered (own failure isOwn)
      rwa [frame.outcome answered]
    · exact settled
  · exact wellFormed.moved .advanced rfl queued
      (.inr (.inr (.inr ⟨_, _, rfl, fun _ => sent⟩)))

theorem shifted {queue : Queue} (wellFormed : call.WellFormed)
    (pulling : call.pc = .pull) (attached : call.eventQueue = some queue) (rest : List EventId) :
    (call.shifted queue rest).WellFormed where
  unattached waiting := by simp [Call.shifted, pulling, Pc.unattached] at waiting
  starts starting := by simp [Call.shifted, pulling, Pc.starts] at starting
  starting starting := by simp [Call.shifted, pulling, Pc.starting] at starting
  executes execution executing := by
    obtain ⟨sends, bus, _⟩ := wellFormed.executes execution executing
    refine ⟨sends, ?_, by simp [Call.shifted, pulling, Pc.starts]⟩
    simpa [Call.bus, attached, Call.shifted] using bus
  listening _ := rfl
  detached shiftedQueue queued stopped := by
    cases queued
    exact wellFormed.detached queue attached stopped
  answered := wellFormed.answered
  reporting reports := by simp [Call.shifted, pulling, Pc.reportsFailure] at reports
  returned left := by simp [Call.shifted, pulling] at left
  merging ref key event saving := by simp [Call.shifted, pulling] at saving

theorem takeEvent (wellFormed : call.WellFormed) (queued : call.eventQueue.isSome = true)
    (id : EventId) (event : AgentExecutionEvent) : (call.takeEvent id event).1.WellFormed := by
  have frame := takeEvent_frame call id event
  cases target : event.target with
  | none =>
      refine wellFormed.moved frame ?_ queued (.inr (.inl ⟨id, ?_⟩)) <;>
        simp [Call.takeEvent, target, Call.processed]
  | some taskId =>
      have taken : call.takeEvent id event =
          ({ call with pc := .lock (.published id) (call.lockKeyOf event) },
            (call.lockKeyOf event).toList.map Effect.acquire) := by
        simp only [Call.takeEvent, target]
        exact processEvent_eq target
      rw [taken] at frame ⊢
      exact wellFormed.moved frame rfl queued
        (.inr (.inr (.inr ⟨_, _, rfl, by simp [Pc.reportsFailure]⟩)))

theorem afterYield (wellFormed : call.WellFormed) (queued : call.eventQueue.isSome = true)
    (event : AgentExecutionEvent) : (call.afterYield event).WellFormed := by
  simp only [Call.afterYield]
  split
  · exact wellFormed.leaveLoop
  · exact wellFormed.moved .advanced rfl queued (.inl rfl)

theorem forward (wellFormed : call.WellFormed) (queued : call.eventQueue.isSome = true)
    (pulling : call.pc = .pull) (taskId : String) (id : EventId) (event : AgentExecutionEvent) :
    (call.forward taskId id event).WellFormed := by
  have same : Frame call { call with handled := call.handled ++ [(id, event)] } :=
    .advanced
  have looked : ({ call with handled := call.handled ++ [(id, event)] } : Call).WellFormed :=
    wellFormed.moved same rfl queued (.inl pulling)
  simp only [Call.forward]
  split
  · exact looked.moved .advanced rfl queued
      (.inr (.inr (.inl ⟨_, rfl⟩)))
  · split
    · exact looked.leaveLoop
    · exact looked.moved .advanced rfl queued (.inl rfl)

theorem handOutResults {id : EventId} {event : AgentExecutionEvent} (wellFormed : call.WellFormed)
    (mapping : call.pc = .map id)
    (handed : call.handOutResults id event = (after, effects)) :
    after.WellFormed ∧ after.pc = .map id ∧ after.eventQueue = call.eventQueue := by
  have frame := handOutResults_frame handed
  rcases handOutResults_cases handed with ⟨rfl, _⟩ | ⟨outcome, manager, auth, rfl, _⟩
  · exact ⟨wellFormed, mapping, rfl⟩
  · refine ⟨?_, mapping, rfl⟩
    exact wellFormed.framed frame (by simp [settle, mapping, Pc.unattached])
      (by simp [settle, mapping, Pc.starts]) (fun _ => .inl (by simp [mapping, Pc.listening]))
      (by simp [settle, mapping, Pc.reportsFailure]) (by simp [settle, mapping])
      (by simp [settle, mapping])

theorem notify (wellFormed : call.WellFormed) (handler : Handler) (response : StreamResponse) :
    (call.notify handler response).WellFormed := by
  simp only [Call.notify]
  split
  · exact ⟨wellFormed.unattached, wellFormed.starts, wellFormed.starting, wellFormed.executes,
      wellFormed.listening, wellFormed.detached, wellFormed.answered, wellFormed.reporting,
      wellFormed.returned, wellFormed.merging⟩
  · exact wellFormed

theorem runExecutor (wellFormed : call.WellFormed) (sends : call.isSend = true) {bus : BusId}
    (attached : call.bus = some bus) (requestContext : RequestContext) :
    (call.runExecutor bus requestContext).WellFormed where
  unattached waiting := by simp [Call.runExecutor, Pc.unattached] at waiting
  starts starting := by simp [Call.runExecutor, Pc.starts] at starting
  starting starting := by simp [Call.runExecutor, Pc.starting] at starting
  executes execution executing := by
    cases executing
    exact ⟨sends, attached, rfl⟩
  listening _ := by
    obtain ⟨queue, queued, _⟩ := Option.map_eq_some_iff.mp attached
    simp [Call.runExecutor, queued]
  detached := wellFormed.detached
  answered := wellFormed.answered
  reporting reports := by simp [Call.runExecutor, Pc.reportsFailure] at reports
  returned left := by simp [Call.runExecutor] at left
  merging ref key event saving := by simp [Call.runExecutor] at saving

/-- Attaching the queue on the way to the executor. -/
theorem attachQueue (wellFormed : call.WellFormed) (idle : call.execution = none) (bus : BusId)
    (counter : Pc) (waits : counter.unattached = false) (starts : counter.starts = true → call.isSend = true)
    (starting : counter.starting.isSome = true → call.isStream = true)
    (quiet : counter.reportsFailure = false) (active : counter ≠ .finished)
    (free : ∀ ref key event, counter ≠ .save ref key event) :
    ({ call.attachQueue bus with pc := counter }).WellFormed where
  unattached waiting := by simp [waits] at waiting
  starts starting := starts starting
  starting prepares := by simpa [Call.attachQueue, isStream] using starting prepares
  executes execution executing := by simp [Call.attachQueue, idle] at executing
  listening _ := rfl
  detached queue queued stopped := by
    cases queued
    simp [Queue.new] at stopped
  answered := wellFormed.answered
  reporting reports := by simp [quiet] at reports
  returned left := absurd left active
  merging ref key event saving := absurd saving (free ref key event)

end WellFormed

/-- The bus a new run uses: the registered one, or the call's own, which it registers. -/
inductive Joined (view : View) (pid : Pid) (taskId : String) : BusId → List Effect → Prop
  | existing {bus} : view.eventBus taskId = some bus → Joined view pid taskId bus []
  | created : view.eventBus taskId = none → Joined view pid taskId pid [.register taskId pid]

section

variable {handler : Handler} {view : View} {pid : Pid} {fate : Fate} {call after : Call}
  {effects : List Effect}

theorem takeEvent_starts {id : EventId} {event : AgentExecutionEvent}
    (took : call.takeEvent id event = (after, effects)) : after.pc.starts = false := by
  rcases takeEvent_cases took with ⟨_, rfl, _⟩ | ⟨_, _, rfl, _⟩
  · rfl
  · rfl

theorem createOrGetBus_joined {taskId : String} {bus : BusId}
    (joined : createOrGetBus view pid taskId = (bus, effects)) :
    Joined view pid taskId bus effects := by
  simp only [createOrGetBus] at joined
  split at joined
  · rename_i found
    cases joined
    exact .existing found
  · rename_i missing
    cases joined
    exact .created missing

/-- A call whose request context is built saves its push configuration or starts its executor. -/
inductive ContextCreated (view : View) (pid : Pid) (call : Call) (requestContext : RequestContext) :
    Call → List Effect → Prop
  | configures {config} : call.isStream = false →
      ContextCreated view pid call requestContext
        { call with pc := .savePushConfig requestContext config } []
  | configuresStream {config bus effects} : call.isStream = true →
      Joined view pid requestContext.taskId bus effects →
      ContextCreated view pid call requestContext
        { call.attachQueue bus with pc := .savePushConfig requestContext config } effects
  | runs {bus effects} : Joined view pid requestContext.taskId bus effects →
      ContextCreated view pid call requestContext
        ((call.attachQueue bus).runExecutor bus requestContext) effects

theorem contextCreated_cases {requestContext : RequestContext} (sends : call.isSend = true)
    (created : contextCreated handler view pid call requestContext = (after, effects)) :
    ContextCreated view pid call requestContext after effects := by
  simp only [contextCreated] at created
  split at created
  · rename_i params sending
    split at created
    · cases created
      exact .configures (by simp [isStream, sending])
    · cases joined : createOrGetBus view pid requestContext.taskId with
      | mk bus joins =>
          simp only [joined, Prod.mk.injEq] at created
          obtain ⟨rfl, rfl⟩ := created
          exact .runs (createOrGetBus_joined joined)
  · rename_i params sending
    cases joined : createOrGetBus view pid requestContext.taskId with
    | mk bus joins =>
        simp only [joined] at created
        split at created
        · cases created
          exact .configuresStream (by simp [isStream, sending]) (createOrGetBus_joined joined)
        · cases created
          exact .runs (createOrGetBus_joined joined)
  · rename_i notMessage notStream
    cases asked : call.request with
    | sendMessage params => exact absurd asked (notMessage params)
    | sendMessageStream params => exact absurd asked (notStream params)
    | _ => simp [isSend, asked] at sends

/-- Only a call that sends a message waits for the agent card. -/
theorem WellFormed.contextBuilt (wellFormed : call.WellFormed) {message : Message} {task : Option Task}
    {taskId : String} {referenceTasks : Option (List Task)} {extensions : Option (List String)}
    {requestContext : RequestContext} (loading : call.pc = .getAgentCard message task taskId referenceTasks)
    (created : contextCreated handler view pid { call with requestedExtensions := extensions } requestContext =
      (after, effects)) :
    ContextCreated view pid { call with requestedExtensions := extensions } requestContext after effects := by
  have sends : call.isSend = true := wellFormed.starts (by simp [loading, Pc.starts])
  exact contextCreated_cases sends created

theorem WellFormed.started (wellFormed : call.WellFormed) (sends : call.isSend = true)
    (idle : call.execution = none) (bus : BusId) (requestContext : RequestContext) :
    ((call.attachQueue bus).runExecutor bus requestContext).WellFormed := by
  have attached := wellFormed.attachQueue idle bus .pull rfl (fun _ => sends)
    (by simp [Pc.starting]) rfl (by simp) (by simp)
  exact attached.runExecutor sends rfl requestContext

theorem WellFormed.idle (wellFormed : call.WellFormed) (starts : call.pc.starts = true) :
    call.execution = none := by
  cases executing : call.execution with
  | none => rfl
  | some execution => simpa [starts] using (wellFormed.executes execution executing).2.2

theorem WellFormed.unstarted (wellFormed : call.WellFormed) {execution : Execution}
    (executing : call.execution = some execution) : call.pc.starting = none := by
  have idle := (wellFormed.executes execution executing).2.2
  cases counter : call.pc <;> simp_all [Pc.starts, Pc.starting]

/-- Going on to an await that has nothing of its own to account for. -/
theorem WellFormed.moves (wellFormed : call.WellFormed) (counter : Pc)
    (waits : counter.unattached = true → call.eventQueue = none)
    (starts : counter.starts = true → call.isSend = true ∧ call.execution = none)
    (starting : counter.starting.isSome = true →
      (call.isStream = true ↔ call.eventQueue.isSome = true))
    (listening : counter.listening = true → call.eventQueue.isSome = true)
    (quiet : counter.reportsFailure = false) (active : counter ≠ .finished)
    (free : ∀ ref key event, counter ≠ .save ref key event) :
    ({ call with pc := counter }).WellFormed where
  unattached := waits
  starts starting := (starts starting).1
  starting := starting
  executes execution executing := by
    obtain ⟨sends, bus, _⟩ := wellFormed.executes execution executing
    refine ⟨sends, bus, ?_⟩
    cases started : counter.starts with
    | false => rfl
    | true => simp [(starts started).2] at executing
  listening := listening
  detached := wellFormed.detached
  answered := wellFormed.answered
  reporting reports := by simp [quiet] at reports
  returned left := absurd left active
  merging ref key event saving := absurd saving (free ref key event)

theorem WellFormed.contextCreated {requestContext : RequestContext} (wellFormed : call.WellFormed)
    (building : call.pc.unattached = true) (starts : call.pc.starts = true)
    (created : ContextCreated view pid call requestContext after effects) : after.WellFormed := by
  have sends := wellFormed.starts starts
  have unqueued := wellFormed.unattached building
  have idle := wellFormed.idle starts
  cases created with
  | configures plain =>
      exact wellFormed.moves _ (fun _ => unqueued) (fun _ => ⟨sends, idle⟩)
        (fun _ => by simp [plain, unqueued]) (by simp [Pc.listening]) rfl (by simp) (by simp)
  | configuresStream streams =>
      exact wellFormed.attachQueue idle _ _ rfl (fun _ => sends) (fun _ => streams) rfl
        (by simp) (by simp)
  | runs => exact wellFormed.started sends idle _ _

theorem WellFormed.resumed (wellFormed : call.WellFormed)
    (resumed : Resumed handler view pid call fate after effects) : after.WellFormed := by
  cases resumed with
  | answered => exact wellFormed.finish _
  | taskAccepted loading =>
      have starts : call.pc.starts = true := by simp [loading, Pc.starts]
      have unqueued := wellFormed.unattached (by simp [loading, Pc.unattached])
      exact wellFormed.moves _ (fun _ => unqueued)
        (fun _ => ⟨wellFormed.starts starts, wellFormed.idle starts⟩) (by simp [Pc.starting])
        (by simp [Pc.listening]) rfl (by simp) (by simp)
  | historySaved saving =>
      have starts : call.pc.starts = true := by simp [saving, Pc.starts]
      have unqueued := wellFormed.unattached (by simp [saving, Pc.unattached])
      simp only [resolveReferences]
      split <;> exact wellFormed.moves _ (fun _ => unqueued)
        (fun _ => ⟨wellFormed.starts starts, wellFormed.idle starts⟩) (by simp [Pc.starting])
        (by simp [Pc.listening]) rfl (by simp) (by simp)
  | referenceLoaded loading =>
      have starts : call.pc.starts = true := by simp [loading, Pc.starts]
      have unqueued := wellFormed.unattached (by simp [loading, Pc.unattached])
      split <;> exact wellFormed.moves _ (fun _ => unqueued)
        (fun _ => ⟨wellFormed.starts starts, wellFormed.idle starts⟩) (by simp [Pc.starting])
        (by simp [Pc.listening]) rfl (by simp) (by simp)
  | @contextBuilt _ _ _ _ extensions after effects loading created =>
      have building : call.pc.unattached = true := by simp [loading, Pc.unattached]
      have starts : call.pc.starts = true := by simp [loading, Pc.starts]
      have extended : ({ call with requestedExtensions := extensions }).WellFormed :=
        ⟨wellFormed.unattached, wellFormed.starts, wellFormed.starting, wellFormed.executes,
          wellFormed.listening, wellFormed.detached, wellFormed.answered, wellFormed.reporting,
          wellFormed.returned, wellFormed.merging⟩
      exact extended.contextCreated building starts
        (wellFormed.contextBuilt loading created)
  | configSaved saving queued =>
      have starts : call.pc.starts = true := by simp [saving, Pc.starts]
      exact wellFormed.runExecutor (wellFormed.starts starts) (by simp [bus, queued]) _
  | configSavedFirst saving unqueued joined =>
      have starts : call.pc.starts = true := by simp [saving, Pc.starts]
      exact wellFormed.started (wellFormed.starts starts) (wellFormed.idle starts) _ _
  | loopEnded => exact wellFormed.leaveLoop
  | forwarded pulling attached => exact (wellFormed.shifted pulling attached _).forward rfl pulling _ _ _
  | violated pulling attached => exact (wellFormed.shifted pulling attached _).stopQueue_finish _
  | @taken queue id rest event pattern after effects pulling attached waiting known own advanced took =>
      have shifted := wellFormed.shifted pulling attached rest
      have patterned : ({ call.shifted queue rest with streamPattern := pattern }).WellFormed :=
        shifted.moved .advanced rfl rfl (.inl pulling)
      have took := congrArg Prod.fst took
      subst took
      exact patterned.takeEvent rfl _ _
  | @lockFailed ref key event error after effects waiting holds resolved loads failed =>
      refine wellFormed.processingFailed
        (wellFormed.listening (by simp [waiting, Pc.listening])) ?_ failed
      rintro failure rfl
      exact wellFormed.reporting (by simp [waiting, Pc.reportsFailure])
  | @merged ref key event manager waiting holds resolved result =>
      have queued := wellFormed.listening (by simp [waiting, Pc.listening])
      refine wellFormed.framed .advanced rfl rfl
        (fun _ => .inr queued) ?_ (by simp) ?_
      · intro reports
        refine wellFormed.reporting ?_
        cases ref <;> simp_all [Pc.reportsFailure]
      · rintro ref key event saving
        cases saving
        exact ResultManager.merge_saves result
  | @skipped ref key event manager waiting holds resolved result =>
      have queued := wellFormed.listening (by simp [waiting, Pc.listening])
      have managed : ({ call with resultManager := manager }).WellFormed :=
        wellFormed.moved .advanced rfl queued
          (.inr (.inr (.inr ⟨ref, key, waiting, wellFormed.reporting⟩)))
      refine managed.processed queued _ _ ?_
      rintro failure rfl
      exact wellFormed.answered (wellFormed.reporting (by simp [waiting, Pc.reportsFailure]))
  | @saveFailed ref key event error task after effects saving current failed =>
      refine wellFormed.processingFailed
        (wellFormed.listening (by simp [saving, Pc.listening])) ?_ failed
      rintro failure rfl
      exact wellFormed.reporting (by simp [saving, Pc.reportsFailure])
  | @saved ref key event task saving current =>
      refine wellFormed.processed (wellFormed.listening (by simp [saving, Pc.listening])) _ _ ?_
      rintro failure rfl
      exact wellFormed.answered (wellFormed.reporting (by simp [saving, Pc.reportsFailure]))
  | @yielded fate id event response stored params mapping =>
      have queued := wellFormed.listening (by simp [mapping, Pc.listening])
      have noted := wellFormed.notify handler
        (trimResponse (historyLengthOf params) response)
      refine noted.moved .advanced rfl ?_
        (.inr (.inr (.inl ⟨_, rfl⟩)))
      rwa [(notify_rest handler call _).2.2.1]
  | @mapped fate id event response stored handed effects mapping known responded plain fallible
      handedOut =>
      have queued := wellFormed.listening (by simp [mapping, Pc.listening])
      have noted := wellFormed.notify handler response
      have rest := notify_rest handler call response
      obtain ⟨handedOver, _, sameQueue⟩ := noted.handOutResults (rest.1.trans mapping) handedOut
      exact handedOver.afterYield (by rwa [sameQueue, rest.2.2.1]) _
  | closed => exact wellFormed.finish _
  | continued suspended queued =>
      exact wellFormed.moved .advanced rfl
        (by simp [queued]) (.inl rfl)
  | consumed suspended queued => exact wellFormed.afterYield (by simp [queued]) _
  | cancelAttached loading =>
      have unqueued := wellFormed.unattached (by simp [loading, Pc.unattached])
      have idle : call.execution = none := by
        cases executing : call.execution with
        | none => rfl
        | some execution => simpa [bus, unqueued] using (wellFormed.executes execution executing).2.1
      exact wellFormed.attachQueue idle _ _ rfl (by simp [Pc.starts]) (by simp [Pc.starting]) rfl
        (by simp) (by simp)
  | cancelDirect loading =>
      have unqueued := wellFormed.unattached (by simp [loading, Pc.unattached])
      exact wellFormed.moves _ (fun _ => unqueued) (by simp [Pc.starts]) (by simp [Pc.starting])
        (by simp [Pc.listening]) rfl (by simp) (by simp)
  | cancelExecuted executed =>
      have queued := wellFormed.listening (by simp [executed, Pc.listening])
      exact wellFormed.moved .advanced rfl queued (.inl rfl)
  | cancelSaved saving =>
      exact wellFormed.moves _ (by simp [Pc.unattached]) (by simp [Pc.starts]) (by simp [Pc.starting])
        (by simp [Pc.listening]) rfl (by simp) (by simp)
  | resubscribeRefused => exact wellFormed.stopQueue_finish _
  | resubscribed loading =>
      refine wellFormed.framed .advanced rfl rfl
        (by simp [Pc.listening]) (by simp [Pc.reportsFailure]) (by simp) (by simp)
  | configTaskFound loading =>
      have unqueued := wellFormed.unattached (by simp [loading, Pc.unattached])
      exact wellFormed.moves _ (fun _ => unqueued) (by simp [Pc.starts]) (by simp [Pc.starting])
        (by simp [Pc.listening]) rfl (by simp) (by simp)
  | misdirected => exact wellFormed

end

end Call

end A2A.Server
