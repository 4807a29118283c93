import A2A.Server.Semantics.Listeners
import A2A.Server.Transports.Http

namespace A2A.Server

/-! When a call can first be answered.

A call stays unanswered until something reaches its queue.  The step lemma says
this of a resumed call, the lemma after it of a call that hears an event of
another; with both, the first event on a bus comes before every answer of the
calls that run on it.
-/

namespace Call

/-- The call's executor has not been started, or nothing has reached its queue since. -/
def opening (call : Call) : Bool :=
  call.pc.starts || (call.execution.isSome && call.unheard)

structure Opens (call : Call) : Prop where
  unanswered : call.opening = true →
    call.resolved = false ∧ (call.pc.starts = true ∨ call.pc = .pull)
  unqueued : call.received = [] → ∀ queue, call.eventQueue = some queue → queue.eventQueue = []

/-- What a step does to a call that may still be opening. -/
structure OpensAs (call after : Call) : Prop where
  opens : after.Opens
  earlier : after.opening = true → call.opening = true

theorem OpensAs.closed {call after : Call} (opensAs : OpensAs call after)
    (closed : call.opening = false) : after.opening = false := by
  cases opening : after.opening with
  | false => rfl
  | true => exact (opensAs.earlier opening).symm.trans closed

theorem opening_cases {call : Call} (opening : call.opening = true) :
    call.pc.starts = true ∨ (call.execution.isSome = true ∧ call.unheard = true) := by
  simpa [Call.opening] using opening

theorem unheard_iff {call : Call} :
    call.unheard = true ↔
      call.received = [] ∧ ∀ queue, call.eventQueue = some queue → queue.stopped = false := by
  cases queued : call.eventQueue <;> simp [unheard, queued]

namespace Frame

variable {call after : Call}

/-- A step of the loop can only end the time before the first event. -/
theorem unheard (frame : Frame call after) (quiet : after.unheard = true) :
    call.unheard = true := by
  obtain ⟨received, active⟩ := unheard_iff.mp quiet
  refine unheard_iff.mpr ⟨frame.received ▸ received, fun queue queued => ?_⟩
  rcases frame.eventQueue with kept | stopped
  · exact active queue (kept.trans queued)
  · simpa [Queue.stop] using active queue.stop (by rw [stopped, queued]; rfl)

theorem unqueued (frame : Frame call after) (opens : call.Opens) (quiet : after.received = []) :
    ∀ queue, after.eventQueue = some queue → queue.eventQueue = [] := by
  intro queue queued
  have same := frame.queued
  rw [queued] at same
  obtain ⟨earlier, found, equal⟩ := Option.map_eq_some_iff.mp same.symm
  rw [← equal]
  exact opens.unqueued (frame.received ▸ quiet) earlier found

end Frame

namespace Opens

variable {handler : Handler} {view : View} {pid : Pid} {fate : Fate} {call after : Call}
  {effects : List Effect}

/-- An opening call whose executor runs waits for its first event. -/
theorem pulling (wellFormed : call.WellFormed) (opens : call.Opens)
    (executing : call.execution.isSome = true) (quiet : call.unheard = true) :
    call.pc = .pull := by
  have opening : call.opening = true := by simp [Call.opening, executing, quiet]
  rcases (opens.unanswered opening).2 with starts | pulls
  · simp [wellFormed.idle starts] at executing
  · exact pulls

/-- No step but the one that takes an event moves an executing call that heard nothing. -/
theorem framed (wellFormed : call.WellFormed) (opens : call.Opens) (frame : Frame call after)
    (counter : call.pc ≠ .pull) (started : after.pc.starts = false) : OpensAs call after := by
  have closed : after.opening = false := by
    rw [Bool.eq_false_iff]
    intro opening
    rcases opening_cases opening with starts | ⟨executing, quiet⟩
    · simp [started] at starts
    · rw [frame.execution] at executing
      exact counter (opens.pulling wellFormed executing (frame.unheard quiet))
  exact ⟨⟨by simp [closed], frame.unqueued opens⟩, by simp [closed]⟩

/-- What has heard something is past opening. -/
theorem heard (started : after.pc.starts = false) (loud : after.unheard = false)
    (unqueued : after.received = [] →
      ∀ queue, after.eventQueue = some queue → queue.eventQueue = []) : OpensAs call after := by
  have closed : after.opening = false := by simp [Call.opening, started, loud]
  exact ⟨⟨by simp [closed], unqueued⟩, by simp [closed]⟩

/-- On its way to the executor, and when the executor starts, a call is as unanswered as before. -/
theorem prepared (opens : call.Opens) (starts : call.pc.starts = true)
    (resolved : after.resolved = call.resolved) (counter : after.pc.starts = true ∨ after.pc = .pull)
    (unqueued : after.received = [] →
      ∀ queue, after.eventQueue = some queue → queue.eventQueue = []) : OpensAs call after := by
  have opening : call.opening = true := by simp [Call.opening, starts]
  exact ⟨⟨fun _ => ⟨resolved.trans (opens.unanswered opening).1, counter⟩, unqueued⟩,
    fun _ => opening⟩

/-- A call that takes an event has heard it. -/
theorem taking {queue : Queue} {id : EventId} {rest : List EventId} (opens : call.Opens)
    (attached : call.eventQueue = some queue) (waiting : queue.eventQueue = id :: rest)
    (received : after.received = call.received) (started : after.pc.starts = false) :
    OpensAs call after := by
  have loud : after.received ≠ [] := by
    intro quiet
    have empty := opens.unqueued (received ▸ quiet) queue attached
    rw [waiting] at empty
    cases empty
  refine heard started ?_ (fun quiet => absurd quiet loud)
  simp [Call.unheard, loud]

theorem begin (request : Request) (context : ServerCallContext)
    (requestedExtensions : Option (List String)) (fresh : Fresh) :
    (handler.begin view request context requestedExtensions fresh).Opens := by
  have begun := @begin_cases handler view request context requestedExtensions fresh
  generalize handler.begin view request context requestedExtensions fresh = call at begun ⊢
  cases begun with
  | refused => constructor <;> simp [opening, reject, finish, settle, blank, Pc.starts]
  | starts =>
      simp only [resolveReferences]
      split <;> constructor <;> simp [opening, resolved, blank, Pc.starts]
  | follows => constructor <;> simp [opening, resolved, blank, Pc.starts]
  | loads counter =>
      rcases counter with rfl | rfl | rfl | rfl <;> constructor <;> simp [opening, blank, Pc.starts]
  | subscribes => constructor <;> simp [opening, attachQueue, blank, Pc.starts, Queue.new]
  | idles => constructor <;> simp [opening, blank, Pc.starts]

/-- The request context is built: the call saves its push configuration or starts its executor. -/
theorem contextBuilt {requestContext : RequestContext} (opens : call.Opens)
    (starts : call.pc.starts = true)
    (created : ContextCreated view pid call requestContext after effects) : OpensAs call after := by
  cases created with
  | configures => exact opens.prepared starts rfl (.inl rfl) opens.unqueued
  | configuresStream => exact opens.prepared starts rfl (.inl rfl) (by simp [attachQueue, Queue.new])
  | runs => exact opens.prepared starts rfl (.inr rfl) (by simp [runExecutor, attachQueue, Queue.new])

theorem resumed (wellFormed : call.WellFormed) (opens : call.Opens)
    (resumed : Resumed handler view pid call fate after effects) : OpensAs call after := by
  cases resumed with
  | answered prepares =>
      refine opens.framed wellFormed (finish_frame _) ?_ rfl
      rintro pulls
      simp [pulls, Pc.preparing] at prepares
  | taskAccepted loading =>
      have starts : call.pc.starts = true := by simp [loading, Pc.starts]
      exact opens.prepared starts rfl (.inl rfl) opens.unqueued
  | historySaved saving =>
      have starts : call.pc.starts = true := by simp [saving, Pc.starts]
      refine opens.prepared starts rfl (.inl ?_) opens.unqueued
      simp only [resolveReferences]
      split <;> rfl
  | referenceLoaded loading =>
      have starts : call.pc.starts = true := by simp [loading, Pc.starts]
      refine opens.prepared starts rfl (.inl ?_) opens.unqueued
      split <;> rfl
  | @contextBuilt _ _ _ _ extensions after effects loading created =>
      have starts : call.pc.starts = true := by simp [loading, Pc.starts]
      have extended : ({ call with requestedExtensions := extensions }).Opens :=
        ⟨opens.unanswered, opens.unqueued⟩
      obtain ⟨later, earlier⟩ := extended.contextBuilt starts
        (wellFormed.contextBuilt loading created)
      exact ⟨later, earlier⟩
  | configSaved saving =>
      have starts : call.pc.starts = true := by simp [saving, Pc.starts]
      exact opens.prepared starts rfl (.inr rfl) opens.unqueued
  | configSavedFirst saving =>
      have starts : call.pc.starts = true := by simp [saving, Pc.starts]
      exact opens.prepared starts rfl (.inr rfl) (by simp [runExecutor, attachQueue, Queue.new])
  | @loopEnded queue pulling attached empty stopped =>
      have left : call.leaveLoop.pc.starts = false := by
        rw [leaveLoop_pc]
        exact leftPc_of (Pc.starts · = false) rfl rfl call
      refine heard left ?_ (leaveLoop_frame.unqueued opens)
      simp [unheard, leaveLoop_eventQueue, attached, Queue.stop]
  | @forwarded queue id rest event taskId pulling attached waiting =>
      refine opens.taking attached waiting (forward_frame _ _ _ _).received ?_
      exact forward_pc (Pc.starts · = false) rfl rfl rfl id rfl _ _ _
  | violated pulling attached waiting => exact opens.taking attached waiting rfl rfl
  | @taken queue id rest event pattern after effects pulling attached waiting known own advanced
      took =>
      have frame := takeEvent_frame { call.shifted queue rest with streamPattern := pattern } id event
      rw [took] at frame
      exact opens.taking attached waiting frame.received (takeEvent_starts took)
  | lockFailed waiting _ _ _ failed =>
      exact opens.framed wellFormed (processingFailed_frame failed) (by simp [waiting])
        (processingFailed_pc (Pc.starts · = false) rfl (fun _ _ => rfl) failed)
  | merged waiting => exact opens.framed wellFormed .advanced (by simp [waiting]) rfl
  | @skipped ref key event manager waiting =>
      have merged : Frame call { call with resultManager := manager } := .advanced
      refine opens.framed wellFormed (merged.trans (processed_frame _ _ _)) (by simp [waiting]) ?_
      cases ref <;> rfl
  | saveFailed saving _ failed =>
      exact opens.framed wellFormed (processingFailed_frame failed) (by simp [saving])
        (processingFailed_pc (Pc.starts · = false) rfl (fun _ _ => rfl) failed)
  | @saved ref key event task saving =>
      refine opens.framed wellFormed (processed_frame _ _ _) (by simp [saving]) ?_
      cases ref <;> rfl
  | yielded mapping =>
      exact opens.framed wellFormed ((notify_frame _ _ _).trans .advanced) (by simp [mapping]) rfl
  | @mapped fate id event response stored handed effects mapping known responded plain fallible
      handedOut =>
      have frame := ((notify_frame handler call response).trans (handOutResults_frame handedOut)).trans
        (afterYield_frame event)
      refine opens.framed wellFormed frame (by simp [mapping]) ?_
      exact afterYield_pc (Pc.starts · = false) rfl rfl rfl _ _
  | closed suspended =>
      exact opens.framed wellFormed (finish_frame _) (by simp [suspended]) rfl
  | continued suspended => exact opens.framed wellFormed .advanced (by simp [suspended]) rfl
  | consumed suspended =>
      refine opens.framed wellFormed (afterYield_frame _) (by simp [suspended]) ?_
      exact afterYield_pc (Pc.starts · = false) rfl rfl rfl _ _
  | cancelAttached loading =>
      have unqueued := wellFormed.unattached (by simp [loading, Pc.unattached])
      have idle : call.execution = none := by
        cases executing : call.execution with
        | none => rfl
        | some execution => simpa [bus, unqueued] using (wellFormed.executes execution executing).2.1
      exact ⟨⟨by simp [opening, attachQueue, idle, Pc.starts], by simp [attachQueue, Queue.new]⟩,
        by simp [opening, attachQueue, idle, Pc.starts]⟩
  | cancelDirect loading => exact opens.framed wellFormed .advanced (by simp [loading]) rfl
  | cancelExecuted executed => exact opens.framed wellFormed .advanced (by simp [executed]) rfl
  | cancelSaved saving => exact opens.framed wellFormed .advanced (by simp [saving]) rfl
  | resubscribeRefused loading =>
      exact opens.framed wellFormed (stopQueue_frame.trans (finish_frame _)) (by simp [loading]) rfl
  | resubscribed loading => exact opens.framed wellFormed .advanced (by simp [loading]) rfl
  | configTaskFound loading => exact opens.framed wellFormed .advanced (by simp [loading]) rfl
  | misdirected => exact ⟨opens, id⟩

/-- Its executor's promise says nothing about an answer. -/
theorem rephased {execution : Execution} (opens : call.Opens)
    (executing : call.execution = some execution) (changed : Execution) :
    OpensAs call { call with execution := some changed } := by
  have same : ({ call with execution := some changed } : Call).opening = call.opening := by
    rw [Call.opening, Call.opening, executing]
    rfl
  exact ⟨⟨fun opening => opens.unanswered (same ▸ opening), opens.unqueued⟩,
    fun opening => same ▸ opening⟩

/-- A listener that leaves the queue's buffer alone until an event has been received. -/
theorem overheard (opens : call.Opens) (overheard : Overheard call after)
    (quiet : after.unheard = true → call.unheard = true)
    (unqueued : after.received = [] →
      ∀ queue, after.eventQueue = some queue → queue.eventQueue = []) : OpensAs call after := by
  have executing : after.execution.isSome = call.execution.isSome := by
    simpa using congrArg Option.isSome overheard.execution
  have earlier : after.opening = true → call.opening = true := by
    simp only [Call.opening, overheard.pc, executing, Bool.or_eq_true, Bool.and_eq_true]
    exact Or.imp_right (And.imp_right quiet)
  refine ⟨⟨fun opening => ?_, unqueued⟩, earlier⟩
  rw [Call.resolved, overheard.outcome, overheard.yielded, overheard.pc]
  exact opens.unanswered (earlier opening)

theorem receive (opens : call.Opens) (bus : BusId) (id : EventId) (event : AgentExecutionEvent) :
    OpensAs call (call.receive bus id event) := by
  cases queued : call.eventQueue with
  | none =>
      exact opens.overheard (receive_overheard _ _ _)
        (by simp [Call.unheard, Call.receive, queued]) (by simp [Call.receive, queued])
  | some queue =>
      by_cases accepts : queue.attached = true ∧ queue.eventBus = bus ∧ queue.stopped = false
      · have loud : (call.receive bus id event).received ≠ [] := by
          simp [Call.receive, queued, accepts]
        exact opens.overheard (receive_overheard _ _ _) (by simp [Call.unheard, loud])
          (fun quiet => absurd quiet loud)
      · have kept : (call.receive bus id event).received = call.received := by
          simp [Call.receive, queued, accepts]
        have same : (call.receive bus id event).eventQueue = call.eventQueue := by
          simp [Call.receive, queued, Queue.handleEvent, accepts]
        refine opens.overheard (receive_overheard _ _ _) ?_ ?_
        · simp [Call.unheard, kept, same]
        · rw [kept, same]
          exact opens.unqueued

theorem receiveFinished (opens : call.Opens) (bus : BusId) :
    OpensAs call (call.receiveFinished bus) := by
  refine opens.overheard (receiveFinished_overheard bus) ?_ ?_
  · intro quiet
    obtain ⟨received, active⟩ := unheard_iff.mp quiet
    refine unheard_iff.mpr ⟨received, fun queue queued => ?_⟩
    have running := active (queue.handleFinished bus) (by simp [Call.receiveFinished, queued])
    simp only [Queue.handleFinished] at running
    split at running
    · simp [Queue.stop] at running
    · exact running
  · intro quiet queue queued
    obtain ⟨earlier, found, rfl⟩ := Option.map_eq_some_iff.mp queued
    have empty := opens.unqueued quiet earlier found
    simp only [Queue.handleFinished]
    split <;> exact empty

theorem removeListeners (opens : call.Opens) (bus : BusId) :
    OpensAs call (call.removeListeners bus) := by
  refine opens.overheard (removeListeners_overheard bus) ?_ ?_
  · intro quiet
    obtain ⟨received, active⟩ := unheard_iff.mp quiet
    refine unheard_iff.mpr ⟨received, fun queue queued => ?_⟩
    have running := active (queue.removeListeners bus) (by simp [Call.removeListeners, queued])
    simp only [Queue.removeListeners] at running
    split at running <;> exact running
  · intro quiet queue queued
    obtain ⟨earlier, found, rfl⟩ := Option.map_eq_some_iff.mp queued
    have empty := opens.unqueued quiet earlier found
    simp only [Queue.removeListeners]
    split <;> exact empty

theorem listen (opens : call.Opens) (taskIdToBus : String → Option BusId) (effect : Effect) :
    OpensAs call (effect.listen taskIdToBus call) := by
  cases effect with
  | publish bus id event => exact opens.receive bus id event
  | finished bus => exact opens.receiveFinished bus
  | cleanup taskId =>
      cases registered : taskIdToBus taskId with
      | some bus => simpa [Effect.listen, registered] using opens.removeListeners bus
      | none => simpa [Effect.listen, registered] using ⟨opens, id⟩
  | _ => exact ⟨opens, id⟩

end Opens

end Call

namespace State

variable {handler : Handler} {state next : State} {label : Label} {pid : Pid} {call : Call}
  {after : Call} {effects : List Effect}

def Opens (state : State) : Prop := ∀ pid call, state.calls pid = some call → call.Opens

theorem opens_initial (taskStore : InMemoryTaskStore)
    (pushNotificationStore : InMemoryPushNotificationStore) (taskIdToBus : String → Option BusId) :
    (State.initial taskStore pushNotificationStore taskIdToBus).Opens := by
  intro pid call found
  simp [initial] at found

/-- The stepping call, as its step leaves it and before any listener runs. -/
theorem stepped_opens (wellFormed : state.WellFormed) (opens : state.Opens)
    (stepped : Stepped handler state label after effects) :
    after.Opens ∧ ∀ call, state.calls label.pid = some call → call.OpensAs after := by
  have kept : ∀ {before : Call}, state.calls label.pid = some before → before.OpensAs after →
      after.Opens ∧ ∀ call, state.calls label.pid = some call → call.OpensAs after := by
    intro before found moved
    refine ⟨moved.opens, fun call present => ?_⟩
    cases present.symm.trans found
    exact moved
  cases stepped with
  | begun absent =>
      refine ⟨Call.Opens.begin _ _ _ _, fun call present => ?_⟩
      cases absent.symm.trans present
  | resumed found resumed =>
      exact kept found ((opens _ _ found).resumed (wellFormed _ _ found) (Call.resume_cases resumed))
  | published found => exact kept found ⟨opens _ _ found, id⟩
  | finishedBus found => exact kept found ⟨opens _ _ found, id⟩
  | executorReturned found executing | executorThrew found executing
  | reaped found executing =>
      exact kept found ((opens _ _ found).rephased executing _)
  | abandoned found abandoned =>
      obtain ⟨_, suspended, rfl⟩ := Call.abandon_cases abandoned
      exact kept found ((opens _ _ found).framed (wellFormed _ _ found)
        (Call.stopQueue_frame.trans (Call.finish_frame _)) (by simp [suspended]) rfl)

theorem opens_step (wellFormed : state.WellFormed) (opens : state.Opens)
    (stepped : state.step handler label = some next) : next.Opens := by
  obtain ⟨record, effects, steppedTo, rfl⟩ := step_cases stepped
  intro pid call found
  exact commit_holds (fun taskIdToBus effect holds => (Call.Opens.listen holds taskIdToBus effect).opens)
    (stepped_opens wellFormed opens steppedTo).1 opens found

/-- Once something has reached a call, or it was answered, it never opens again. -/
theorem opening_step (wellFormed : state.WellFormed) (opens : state.Opens)
    (stepped : state.step handler label = some next) (found : state.calls pid = some call)
    (closed : call.opening = false) : ∃ after, next.calls pid = some after ∧ after.opening = false := by
  obtain ⟨after, present⟩ := calls_kept stepped found
  obtain ⟨record, effects, steppedTo, rfl⟩ := step_cases stepped
  have moved := stepped_opens wellFormed opens steppedTo
  have start : ∀ before, (state.setCall label.pid record).calls pid = some before →
      before.Opens ∧ before.opening = false := by
    intro before set
    by_cases same : pid = label.pid
    · subst same
      rw [setCall_self, Option.some.injEq] at set
      exact set ▸ ⟨moved.1, (moved.2 call found).closed closed⟩
    · rw [setCall_of_ne same, found, Option.some.injEq] at set
      exact set ▸ ⟨opens pid call found, closed⟩
  have heard : ∀ {call : Call} (taskIdToBus : String → Option BusId) (effect : Effect),
      call.Opens ∧ call.opening = false → (effect.listen taskIdToBus call).Opens ∧
        (effect.listen taskIdToBus call).opening = false := by
    intro call taskIdToBus effect holds
    have listened := holds.1.listen taskIdToBus effect
    exact ⟨listened.opens, listened.closed holds.2⟩
  exact ⟨after, present, (foldl_holds heard start present).2⟩

end State

end A2A.Server
