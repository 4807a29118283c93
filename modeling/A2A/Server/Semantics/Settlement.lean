import A2A.Server.Semantics.Synced

namespace A2A.Server

open Library

/-! What settles the promise of a `sendMessage` whose executor publishes no more.

`AgentExecutionEvent.settle` says of a list of events that merging them ends the
queue or hands a result out.  A call is due when the events it has taken in are
such a list, and it stays due until its promise has been settled.
-/

namespace AgentExecutionEvent

/-- The loop hands a result out for the event, if the task it is about is known then. -/
def answers (params : SendMessageRequest) (event : AgentExecutionEvent) : Bool :=
  event.requiresAuth || !isBlocking params

/-- The loop hands a result out for the event, given the tasks that have a row. -/
def handsOut (params : SendMessageRequest) (stored : String → Bool) (event : AgentExecutionEvent) :
    Bool :=
  event.answers params &&
    match event with
    | .message _ => false
    | .task _ => true
    | event => ResultManager.needsLoad event && event.target.any stored

/-- Merging the event saves it, given the tasks that have a row. -/
def merges (stored : String → Bool) (event : AgentExecutionEvent) : Bool :=
  match event with
  | .message _ => false
  | .task _ => true
  | event => ResultManager.needsLoad event && event.target.any stored

/-- Merging the event leaves a row of the task behind. -/
def leavesRow (event : AgentExecutionEvent) (taskId : String) : Bool :=
  match event with
  | .task data => data.id = taskId
  | _ => false

/-- The events settle the promise, when they are merged one after the other. -/
def settle (params : SendMessageRequest) : (String → Bool) → List AgentExecutionEvent → Bool
  | _, [] => false
  | stored, event :: rest =>
      event.endsQueue || event.handsOut params stored ||
        settle params (fun taskId => stored taskId || event.leavesRow taskId) rest

section

variable {params : SendMessageRequest} {stored later : String → Bool} {event : AgentExecutionEvent}
  {events : List AgentExecutionEvent}

theorem merges_mono (grows : ∀ taskId, stored taskId = true → later taskId = true)
    (merges : event.merges stored = true) : event.merges later = true := by
  have any : ∀ taskId : Option String, taskId.any stored = true → taskId.any later = true := by
    intro taskId present
    cases taskId with
    | none => cases present
    | some taskId => exact grows taskId present
  cases event with
  | message | task => exact merges
  | statusUpdate | artifactUpdate =>
      simp only [AgentExecutionEvent.merges, Bool.and_eq_true] at merges ⊢
      exact ⟨merges.1, any _ merges.2⟩

theorem handsOut_iff : event.handsOut params stored = true ↔
    event.answers params = true ∧ event.merges stored = true := by
  cases event <;> simp only [handsOut, merges, Bool.and_eq_true]

theorem handsOut_mono (grows : ∀ taskId, stored taskId = true → later taskId = true)
    (hands : event.handsOut params stored = true) : event.handsOut params later = true := by
  rw [handsOut_iff] at hands ⊢
  exact ⟨hands.1, merges_mono grows hands.2⟩

theorem settle_mono (grows : ∀ taskId, stored taskId = true → later taskId = true)
    (settles : settle params stored events = true) : settle params later events = true := by
  induction events generalizing stored later with
  | nil => cases settles
  | cons event rest ih =>
      simp only [settle, Bool.or_eq_true] at settles ⊢
      rcases settles with (ends | hands) | more
      · exact .inl (.inl ends)
      · exact .inl (.inr (handsOut_mono grows hands))
      · refine .inr (ih (fun taskId present => ?_) more)
        rw [Bool.or_eq_true] at present ⊢
        exact present.imp_left (grows taskId)

theorem settle_append (more : List AgentExecutionEvent) (settles : settle params stored events = true) :
    settle params stored (events ++ more) = true := by
  induction events generalizing stored with
  | nil => cases settles
  | cons event rest ih =>
      simp only [List.cons_append, settle, Bool.or_eq_true] at settles ⊢
      exact settles.imp_right ih

/-- An event that merges and finds a row is saved. -/
theorem merges_saved {latest : Option Message} {loaded : Option Task} (merges : event.merges stored = true)
    (present : ∀ taskId, event.target = some taskId → stored taskId = true →
      ∃ task, loaded = some task ∧ task.id = taskId) :
    (ResultManager.mergeInto latest (event.loads loaded) event).isSome = true := by
  cases event with
  | message => cases merges
  | task => rfl
  | statusUpdate data =>
      simp only [AgentExecutionEvent.merges, Bool.and_eq_true] at merges
      obtain ⟨task, rfl, same⟩ := present data.taskId rfl merges.2
      simp [ResultManager.mergeInto, loads, merges.1, same]
  | artifactUpdate data =>
      simp only [AgentExecutionEvent.merges, Bool.and_eq_true] at merges
      obtain ⟨task, rfl, same⟩ := present data.taskId rfl merges.2
      have loads := merges.1
      simp only [ResultManager.needsLoad, Bool.and_eq_true] at loads
      obtain ⟨artifact, named⟩ := Option.isSome_iff_exists.mp loads.1
      simp [ResultManager.mergeInto, AgentExecutionEvent.loads, merges.1, named, same]

@[simp] theorem core_merges (event : AgentExecutionEvent) :
    event.core.merges stored = event.merges stored := by
  cases event <;> rfl

@[simp] theorem core_handsOut (event : AgentExecutionEvent) :
    event.core.handsOut params stored = event.handsOut params stored := by
  cases event <;> rfl

@[simp] theorem core_leavesRow (event : AgentExecutionEvent) (taskId : String) :
    event.core.leavesRow taskId = event.leavesRow taskId := by
  cases event <;> rfl

theorem handsOut_of_core {other : AgentExecutionEvent} (same : event.core = other.core) :
    event.handsOut params stored = other.handsOut params stored := by
  rw [← core_handsOut event, same, core_handsOut]

end

end AgentExecutionEvent

/-- The call is suspended at a yield. -/
def Pc.yields : Pc → Bool
  | .suspended _ => true
  | _ => false

namespace Call

/-- The loop is about to end, or to hand a result out. -/
def Handing (events : EventHeap) (params : SendMessageRequest) (call : Call) : Prop :=
  ∃ id event, call.pc = .map id ∧ events id = some event ∧
    (event.endsQueue = true ∨
      event.handsOut params (fun _ => call.resultManager.currentTask.isSome) = true)

/-- What the call has taken in already will settle its promise. -/
def Due (events : EventHeap) (stored : String → Bool) (params : SendMessageRequest) (call : Call) : Prop :=
  call.Handing events params ∨ ∃ items, (call.inbox events).waiting = some items ∧
    AgentExecutionEvent.settle params stored (items.map Prod.snd) = true

/-- The queue is open, and the call's own executor will not publish to it any more. -/
def Starved (call : Call) : Prop :=
  ∃ queue, call.eventQueue = some queue ∧ queue.stopped = false ∧
    (queue.attached = true → call.executorDone = true)

variable {handler : Handler} {view : View} {events later : EventHeap} {pid : Pid} {fate : Fate}
  {ids : List EventId} {call after : Call} {effects : List Effect} {params : SendMessageRequest}
  {stored grown : String → Bool}

theorem Frame.starved (frame : Frame call after) (starved : after.Starved) : call.Starved := by
  obtain ⟨queue, queued, open', done⟩ := starved
  have same : after.executorDone = call.executorDone := by rw [executorDone, executorDone, frame.execution]
  rcases frame.eventQueue with kept | stopped
  · exact ⟨queue, kept ▸ queued, open', fun attached => same ▸ done attached⟩
  · rw [stopped] at queued
    obtain ⟨before, _, rfl⟩ := Option.map_eq_some_iff.mp queued
    cases open'

/-- A call that has just attached its queue and started its executor is not starved. -/
theorem not_starved_attached {bus : BusId} (queued : after.eventQueue = some (.new bus))
    (running : after.executorDone = false) : ¬ after.Starved := by
  intro starved
  obtain ⟨queue, found, _, done⟩ := starved
  cases queued.symm.trans found
  rw [done rfl] at running
  cases running

theorem shifted_starved {queue : Queue} {rest : List EventId} (attached : call.eventQueue = some queue)
    (starved : (call.shifted queue rest).Starved) : call.Starved := by
  obtain ⟨_, found, open', done⟩ := starved
  cases found
  exact ⟨queue, attached, open', done⟩

theorem Resumed.starved (wellFormed : call.WellFormed) (sends : call.request = .sendMessage params)
    (route : call.pc.sends = true) (resumed : Resumed handler view pid call fate after effects)
    (starved : after.Starved) : call.Starved := by
  cases resumed with
  | answered => exact (finish_frame _).starved starved
  | historySaved =>
      simp only [resolveReferences] at starved
      split at starved <;> exact Frame.advanced.starved starved
  | referenceLoaded => exact Frame.advanced.starved starved
  | @contextBuilt _ _ _ _ extensions after effects loading created =>
      cases wellFormed.contextBuilt loading created with
      | configures => exact Frame.advanced.starved starved
      | configuresStream streams =>
          rw [isStream, sends] at streams
          cases streams
      | runs => exact absurd starved (not_starved_attached rfl rfl)
  | configSaved =>
      obtain ⟨queue, found, open', done⟩ := starved
      refine ⟨queue, found, open', fun attached => ?_⟩
      cases done attached
  | configSavedFirst => exact absurd starved (not_starved_attached rfl rfl)
  | loopEnded => exact leaveLoop_frame.starved starved
  | forwarded _ _ _ _ subscribes => cases sends.symm.trans subscribes
  | violated _ attached =>
      exact shifted_starved attached ((stopQueue_frame.trans (finish_frame _)).starved starved)
  | @taken queue id rest event pattern after effects _ attached _ _ _ _ took =>
      have frame := takeEvent_frame { call.shifted queue rest with streamPattern := pattern } id event
      rw [took] at frame
      exact shifted_starved attached (Frame.advanced.starved (frame.starved starved))
  | lockFailed _ _ _ _ failed | saveFailed _ _ failed =>
      exact (processingFailed_frame failed).starved starved
  | @skipped ref key event manager =>
      have frame := processed_frame { call with resultManager := manager } ref event
      exact Frame.advanced.starved (frame.starved starved)
  | saved => exact (processed_frame _ _ _).starved starved
  | yielded => exact ((notify_frame handler call _).trans .advanced).starved starved
  | mapped _ _ _ _ _ handedOut =>
      exact (((notify_frame handler call _).trans (handOutResults_frame handedOut)).trans
        (afterYield_frame _)).starved starved
  | closed => exact (finish_frame _).starved starved
  | consumed => exact (afterYield_frame _).starved starved
  | cancelAttached counter =>
      rw [counter] at route
      cases route
  | resubscribeRefused => exact (stopQueue_frame.trans (finish_frame _)).starved starved
  | misdirected => exact starved
  | _ => exact Frame.advanced.starved starved

/-- A result that is due at the end of the loop's body is handed out there. -/
theorem handOutResults_hands {id : EventId} {event : AgentExecutionEvent}
    (sends : call.request = .sendMessage params)
    (answered : call.firstResultSent = true → call.outcome.isSome = true)
    (snapshot : call.authRequiredSnapshotSent = true → call.outcome.isSome = true)
    (hands : event.handsOut params (fun _ => call.resultManager.currentTask.isSome) = true)
    (handed : call.handOutResults id event = (after, effects)) : after.outcome.isSome = true := by
  have settled : ∀ outcome, (call.settle outcome).outcome.isSome = true := fun _ => settle_outcome _
  simp only [handOutResults, sends] at handed
  cases blocking : isBlocking params with
  | true =>
      have asks : event.requiresAuth = true := by
        simp only [AgentExecutionEvent.handsOut, AgentExecutionEvent.answers, blocking, Bool.not_true,
          Bool.or_false, Bool.and_eq_true] at hands
        exact hands.1
      simp only [blocking, if_true, asks, Bool.true_and] at handed
      cases sent : call.authRequiredSnapshotSent with
      | true =>
          simp only [sent, Bool.not_true, Bool.false_eq_true, if_false] at handed
          cases handed
          exact snapshot sent
      | false =>
          simp only [sent, Bool.not_false, if_true] at handed
          cases current : call.resultManager.currentTask with
          | none =>
              cases event with
              | statusUpdate data =>
                  simp [AgentExecutionEvent.handsOut, AgentExecutionEvent.target, current] at hands
              | _ => cases asks
          | some task =>
              simp only [current] at handed
              cases handed
              exact settled _
  | false =>
      simp only [blocking, Bool.false_eq_true, if_false] at handed
      cases sent : call.firstResultSent with
      | true =>
          simp only [sent, if_true] at handed
          cases handed
          exact answered sent
      | false =>
          simp only [sent, Bool.false_eq_true, if_false] at handed
          have known : (∀ data, event ≠ .task data) → call.resultManager.currentTask.isSome = true := by
            intro other
            cases event with
            | message data => simp [AgentExecutionEvent.handsOut] at hands
            | task data => exact absurd rfl (other data)
            | statusUpdate | artifactUpdate =>
                simp only [AgentExecutionEvent.handsOut, Bool.and_eq_true] at hands
                simpa [AgentExecutionEvent.target] using hands.2.2
          split at handed
          · cases handed
            exact settled _
          · cases handed
            exact settled _
          · rename_i plain
            obtain ⟨task, current⟩ := Option.isSome_iff_exists.mp (known plain)
            split at handed
            · rename_i final
              simp only [ResultManager.getFinalResult, current] at final
              split at final <;> cases final
            · cases handed
              exact settled _
            · cases handed
              exact settled _

theorem Overheard.executorDone (overheard : call.Overheard after) :
    after.executorDone = call.executorDone := by
  cases executing : after.execution with
  | none =>
      have unstarted : call.execution = none := by
        have same := overheard.execution
        rw [executing] at same
        exact Option.map_eq_none_iff.mp same.symm
      rw [Call.executorDone, Call.executorDone, executing, unstarted]
  | some execution =>
      obtain ⟨earlier, found, _, _, phase⟩ := overheard.executed executing
      simp only [Call.executorDone, executing, found, phase]

/-- As long as nothing fails, a call that sends gives up only when its stream breaks the pattern. -/
theorem GivesUp.streams (gives : call.GivesUp view .ok) (route : call.pc.sends = true) :
    call.isStream = true := by
  cases gives with
  | violated _ _ _ _ streams => exact streams
  | refused loading =>
      rw [loading] at route
      cases route

theorem Handing.grows (grows : events.Grows later) (handing : call.Handing events params) :
    call.Handing later params := by
  obtain ⟨id, event, mapping, known, settles⟩ := handing
  obtain ⟨kept, found, same⟩ := grows id event known
  refine ⟨id, kept, mapping, found, ?_⟩
  rw [AgentExecutionEvent.endsQueue_of_core same, AgentExecutionEvent.handsOut_of_core same]
  exact settles

theorem Due.grows (knows : call.Knows events) (grows : events.Grows later)
    (due : call.Due events stored params) : call.Due later stored params := by
  rcases due with handing | ⟨items, waits, settles⟩
  · exact .inl (handing.grows grows)
  · refine .inr ⟨items, ?_, settles⟩
    rw [knows.inbox grows]
    exact waits

theorem Due.mono (kept : ∀ taskId, stored taskId = true → grown taskId = true)
    (due : call.Due events stored params) : call.Due events grown params := by
  rcases due with handing | ⟨items, waits, settles⟩
  · exact .inl handing
  · exact .inr ⟨items, waits, AgentExecutionEvent.settle_mono kept settles⟩

/-- A published event takes nothing away from what a call waits for. -/
theorem Due.receive {bus : BusId} {id : EventId} (knows : call.Knows events)
    (unknown : events id = none) (event : AgentExecutionEvent) (due : call.Due events stored params) :
    (call.receive bus id event).Due (Function.update events id (some event)) stored params := by
  rcases due with handing | ⟨items, waits, settles⟩
  · exact .inl (handing.grows (grows_update unknown event))
  · rw [Due, receive_inbox knows unknown event]
    split
    · refine .inr ⟨items ++ [itemOf (id, event)], ?_, ?_⟩
      · rw [Inbox.receive, waits]
        rfl
      · rw [List.map_append]
        exact AgentExecutionEvent.settle_append _ settles
    · exact .inr ⟨items, waits, settles⟩

/-- A listener that leaves the queue's events alone leaves the call as due as it was. -/
theorem Due.muted (overheard : call.Overheard after)
    (waiting : (after.inbox events).waiting = (call.inbox events).waiting)
    (due : call.Due events stored params) : after.Due events stored params := by
  rcases due with ⟨id, event, mapping, known, settles⟩ | ⟨items, waits, settles⟩
  · exact .inl ⟨id, event, overheard.pc.trans mapping, known, by rwa [overheard.resultManager]⟩
  · exact .inr ⟨items, waiting.trans waits, settles⟩

/-- A call whose event failed has answered, at the latest now. -/
theorem processingFailed_answers {ref : EventRef} {error : String} (wellFormed : call.WellFormed)
    (own : ∀ failure, ref = .own failure → call.firstResultSent = true)
    (failed : call.processingFailed ref error = (after, effects)) : after.outcome.isSome = true := by
  have kept : call.firstResultSent = true → after.outcome.isSome = true := by
    intro sent
    rw [(processingFailed_frame failed).outcome (wellFormed.answered sent)]
    exact wellFormed.answered sent
  rcases processingFailed_cases failed with ⟨_, _, _, _, sent | ⟨failure, reports⟩ | settled⟩ |
    ⟨_, _, _, _, sent, _⟩
  · exact kept sent
  · exact kept (own failure reports)
  · exact settled
  · exact kept sent

theorem Resumed.failed_answers {error : String} (wellFormed : call.WellFormed)
    (unmapped : ∀ id, call.pc ≠ .map id)
    (resumed : Resumed handler view pid call (.fail error) after effects) :
    after.outcome.isSome = true := by
  cases resumed with
  | answered => exact finish_outcome _
  | lockFailed waiting _ _ _ fails =>
      refine processingFailed_answers wellFormed (fun failure own => ?_) fails
      exact wellFormed.reporting (by rw [waiting, own]; rfl)
  | saveFailed saving _ fails =>
      refine processingFailed_answers wellFormed (fun failure own => ?_) fails
      exact wellFormed.reporting (by rw [saving, own]; rfl)
  | yielded mapping | mapped mapping => exact absurd mapping (unmapped _)
  | resubscribeRefused => exact finish_outcome _

/-- A call that gives up has answered. -/
theorem Resumed.answers (wellFormed : call.WellFormed) (gives : call.GivesUp view fate)
    (plain : call.isStream = false) (loading : call.pc ≠ .resubscribeLoad)
    (resumed : Resumed handler view pid call fate after effects) : after.outcome.isSome = true := by
  cases gives with
  | failed unmapped => exact resumed.failed_answers wellFormed unmapped
  | violated _ _ _ _ streams =>
      rw [plain] at streams
      cases streams
  | refused refuses => exact absurd refuses loading

/-- A handled event is mapped next.  It has been saved, or merging it saves nothing. -/
theorem Resumed.handles {id : EventId} {event known : AgentExecutionEvent}
    (plain : call.isStream = false) (own : call.isResubscribe = false)
    (waits : call.remaining view.event = some (id :: ids)) (found : view.event id = some known)
    (same : known.core = event.core) (handles : call.Handles view id event)
    (resumed : Resumed handler view pid call .ok after effects) :
    after.pc = .map id ∧
      ((∃ key task, call.pc = .save (.published id) key event ∧
          call.resultManager.currentTask = some task ∧ after.resultManager = call.resultManager) ∨
        ResultManager.mergeInto call.resultManager.latestUserMessage
          (event.loads (event.target.bind view.load)) event = none) := by
  cases handles with
  | @saved key saving =>
      cases resumed with
      | saved counter current =>
          cases saving.symm.trans counter
          exact ⟨rfl, .inl ⟨key, _, saving, current, rfl⟩⟩
      | _ => simp_all [Pc.preparing]
  | @skipped key waiting known nothing =>
      cases resumed with
      | merged counter _ resolved result =>
          cases waiting.symm.trans counter
          cases known.symm.trans resolved
          obtain ⟨task, current, _⟩ := ResultManager.merge_saves result
          cases nothing.symm.trans ((ResultManager.merge_saved result).symm.trans current)
      | skipped counter _ resolved result =>
          cases waiting.symm.trans counter
          cases known.symm.trans resolved
          exact ⟨rfl, .inr nothing⟩
      | _ => simp_all [Pc.preparing]
  | message pulling target =>
      cases resumed with
      | loopEnded _ attached empty =>
          rw [remaining_queued attached, pulling, empty] at waits
          cases waits
      | forwarded _ _ _ _ subscribes => simp [isResubscribe, subscribes] at own
      | violated _ _ _ _ streams =>
          rw [plain] at streams
          cases streams
      | taken _ attached waiting present _ _ took =>
          rw [remaining_queued attached, pulling, waiting] at waits
          cases waits
          cases found.symm.trans present
          have untargeted : known.target = none := by
            rw [← AgentExecutionEvent.core_target, same, AgentExecutionEvent.core_target, target]
          rcases takeEvent_cases took with ⟨_, rfl, _⟩ | ⟨_, targeted, _⟩
          · refine ⟨rfl, .inr ?_⟩
            cases event with
            | message => rfl
            | _ => cases target
          · cases untargeted.symm.trans targeted
      | _ => simp_all [Pc.preparing]
  | forwarded _ subscribes =>
      rw [own] at subscribes
      cases subscribes

/-- Handling an event that settles leaves the call about to hand the result out, or one of the
events behind it settles. -/
theorem Due.handled {id : EventId} {event known : AgentExecutionEvent}
    (wellFormed : call.WellFormed) (plain : call.isStream = false) (own : call.isResubscribe = false)
    (keyed : ∀ taskId, stored taskId = true → ∃ task, view.load taskId = some task ∧ task.id = taskId)
    (kept : ∀ taskId, stored taskId = true → grown taskId = true)
    (written : ∀ ref key event task, call.pc = .save ref key event →
      call.resultManager.currentTask = some task → grown task.id = true)
    (waits : call.remaining view.event = some (id :: ids)) (found : view.event id = some known)
    (same : known.core = event.core)
    (remaining : after.remaining view.event = if event.endsQueue then none else some ids)
    (handles : call.Handles view id event)
    (settles : AgentExecutionEvent.settle params stored
      (((id :: ids).filterMap (EventHeap.tag view.event)).map Prod.snd) = true)
    (resumed : Resumed handler view pid call .ok after effects) :
    after.Due view.event grown params := by
  obtain ⟨mapping, merges⟩ := resumed.handles plain own waits found same handles
  have tagged : EventHeap.tag view.event id = some (id, event.core) := by
    rw [EventHeap.tag, found, Option.map_some, same]
  rw [List.filterMap_cons_some tagged, List.map_cons] at settles
  simp only [AgentExecutionEvent.settle, AgentExecutionEvent.core_endsQueue,
    AgentExecutionEvent.core_handsOut, AgentExecutionEvent.core_leavesRow, Bool.or_eq_true] at settles
  have handing : event.endsQueue = true ∨
      event.handsOut params (fun _ => after.resultManager.currentTask.isSome) = true →
      after.Due view.event grown params := by
    intro hands
    refine .inl ⟨id, known, mapping, found, ?_⟩
    rwa [AgentExecutionEvent.endsQueue_of_core same, AgentExecutionEvent.handsOut_of_core same]
  rcases settles with (ends | hands) | more
  · exact handing (.inl ends)
  · rcases merges with ⟨key, task, _, current, manager⟩ | nothing
    · refine handing (.inr (AgentExecutionEvent.handsOut_mono (fun _ _ => ?_) hands))
      rw [manager, current]
      rfl
    · have loads : ∀ taskId, event.target = some taskId → stored taskId = true →
          ∃ task, event.target.bind view.load = some task ∧ task.id = taskId := by
        intro taskId target present
        rw [target]
        exact keyed taskId present
      have merged := @AgentExecutionEvent.merges_saved _ _ call.resultManager.latestUserMessage _
        (AgentExecutionEvent.handsOut_iff.mp hands).2 loads
      rw [nothing] at merged
      cases merged
  · cases ends : event.endsQueue with
    | true => exact handing (.inl ends)
    | false =>
        rw [ends] at remaining
        refine .inr ⟨ids.filterMap (EventHeap.tag view.event), ?_, ?_⟩
        · rw [inbox, remaining]
          rfl
        · refine AgentExecutionEvent.settle_mono (fun taskId present => ?_) more
          rcases Bool.or_eq_true _ _ ▸ present with before | leaves
          · exact kept taskId before
          · rcases merges with ⟨key, task, saving, current, _⟩ | nothing
            · obtain ⟨stored, now, target⟩ := wellFormed.merging _ _ _ saving
              cases current.symm.trans now
              cases event with
              | task data =>
                  have named : data.id = taskId := by simpa [AgentExecutionEvent.leavesRow] using leaves
                  rw [← named, Option.some.inj target]
                  exact written _ _ _ _ saving current
              | _ => cases leaves
            · cases event with
              | task data => cases nothing
              | _ => cases leaves

theorem notify_snapshot (handler : Handler) (call : Call) (response : StreamResponse) :
    (call.notify handler response).authRequiredSnapshotSent = call.authRequiredSnapshotSent := by
  simp only [notify]
  split <;> rfl

/-- The loop ends, or hands a result out, after the event it is about to map. -/
theorem Resumed.mapped_answers {id : EventId} {event : AgentExecutionEvent} (wellFormed : call.WellFormed)
    (sends : call.request = .sendMessage params)
    (snapshot : call.authRequiredSnapshotSent = true → call.outcome.isSome = true)
    (mapping : call.pc = .map id) (known : view.event id = some event)
    (settles : event.endsQueue = true ∨
      event.handsOut params (fun _ => call.resultManager.currentTask.isSome) = true)
    (resumed : Resumed handler view pid call fate after effects) : after.outcome.isSome = true := by
  have returned := (wellFormed.resumed resumed).returned
  cases resumed with
  | @mapped _ _ _ response _ handed _ counter present _ _ _ handedOut =>
      cases mapping.symm.trans counter
      cases known.symm.trans present
      have noted := notify_frame handler call response
      have frame := noted.trans (handOutResults_frame handedOut)
      rcases settles with ends | hands
      · apply returned
        rw [afterYield, if_pos ends, leaveLoop_pc, leftPc, frame.request, sends]
      · obtain ⟨_, _, _, outcome, _, manager⟩ := notify_rest handler call response
        have snapshotNoted : (call.notify handler response).authRequiredSnapshotSent = true →
            (call.notify handler response).outcome.isSome = true := by
          intro sent
          rw [outcome]
          exact snapshot (notify_snapshot handler call response ▸ sent)
        rw [← manager] at hands
        have answered := handOutResults_hands (noted.request.trans sends)
          (wellFormed.notify handler response).answered snapshotNoted hands handedOut
        rwa [(afterYield_frame event).outcome answered]
  | yielded _ _ _ streams => cases sends.symm.trans streams
  | _ => simp_all [Pc.preparing]

/-- As long as its promise is pending, a starved call that is due stays due. -/
theorem Due.resumed (wellFormed : call.WellFormed) (knows : call.Knows view.event)
    (sends : call.request = .sendMessage params) (route : call.pc.sends = true)
    (snapshot : call.authRequiredSnapshotSent = true → call.outcome.isSome = true)
    (keyed : ∀ taskId, stored taskId = true → ∃ task, view.load taskId = some task ∧ task.id = taskId)
    (kept : ∀ taskId, stored taskId = true → grown taskId = true)
    (written : ∀ ref key event task, fate = .ok → call.pc = .save ref key event →
      call.resultManager.currentTask = some task → grown task.id = true)
    (resumed : Resumed handler view pid call fate after effects) (pending : after.outcome = none)
    (due : call.Due view.event stored params) : after.Due view.event grown params := by
  have plain : call.isStream = false := by simp [isStream, sends]
  have own : call.isResubscribe = false := by simp [isResubscribe, sends]
  rcases due with ⟨id, event, mapping, known, settles⟩ | ⟨items, waits, settles⟩
  · have answered : after.outcome.isSome = true :=
      resumed.mapped_answers wellFormed sends snapshot mapping known settles
    rw [pending] at answered
    cases answered
  · cases resumed.reads wellFormed knows with
    | quiet _ _ _ same =>
        refine .inr ⟨items, ?_, AgentExecutionEvent.settle_mono kept settles⟩
        simpa only [inbox, same] using waits
    | attached _ unqueued =>
        simp only [inbox, remaining_unqueued unqueued] at waits
        cases waits
    | handled ahead found same _ _ remaining _ handles =>
        simp only [inbox, ahead, Option.map_some, Option.some.injEq] at waits
        subst waits
        exact Due.handled wellFormed plain own keyed kept
          (fun ref key event task saving current => written ref key event task rfl saving current)
          ahead found same remaining handles settles resumed
    | finished _ ahead =>
        simp only [inbox, ahead, Option.map_some, Option.some.injEq] at waits
        subst waits
        cases settles
    | lost gives =>
        have loads : call.pc ≠ .resubscribeLoad := by
          intro loading
          rw [loading] at route
          cases route
        have answered := resumed.answers wellFormed gives plain loads
        rw [pending] at answered
        cases answered

theorem receive_starved {bus : BusId} {id : EventId} {event : AgentExecutionEvent}
    (starved : (call.receive bus id event).Starved) : call.Starved := by
  obtain ⟨queue, found, open', done⟩ := starved
  obtain ⟨earlier, attached, rfl⟩ := Option.map_eq_some_iff.mp found
  have same : (earlier.handleEvent bus id).stopped = earlier.stopped ∧
      (earlier.handleEvent bus id).attached = earlier.attached := by
    simp only [Queue.handleEvent]
    split <;> exact ⟨rfl, rfl⟩
  refine ⟨earlier, attached, same.1 ▸ open', fun listens => ?_⟩
  have settled := done (same.2.trans listens)
  rwa [(receive_overheard bus id event).executorDone] at settled

/-- A queue that is still open after its bus has finished was not listening to it. -/
theorem receiveFinished_starved {bus : BusId} (starved : (call.receiveFinished bus).Starved) :
    call.Starved ∧ call.listensOn bus = false := by
  obtain ⟨queue, found, open', done⟩ := starved
  obtain ⟨earlier, attached, rfl⟩ := Option.map_eq_some_iff.mp found
  simp only [Queue.handleFinished] at open' done
  split at open'
  · cases open'
  · rename_i apart
    rw [if_neg apart] at done
    refine ⟨⟨earlier, attached, open', done⟩, ?_⟩
    simp only [listensOn, attached, Option.any_some, Bool.and_eq_false_iff, decide_eq_false_iff_not]
    by_cases listens : earlier.attached = true
    · exact .inl (.inr fun same => apart ⟨listens, same⟩)
    · exact .inl (.inl (Bool.eq_false_iff.mpr listens))

theorem receiveFinished_listensOn {bus other : BusId}
    (listens : (call.receiveFinished bus).listensOn other = true) :
    call.listensOn other = true ∧ other ≠ bus := by
  cases queued : call.eventQueue with
  | none => simp [listensOn, receiveFinished, queued] at listens
  | some queue =>
      simp only [listensOn, receiveFinished, queued, Option.map_some, Option.any_some,
        Queue.handleFinished] at listens ⊢
      split at listens
      · simp [Queue.stop] at listens
      · rename_i apart
        refine ⟨listens, ?_⟩
        rintro rfl
        simp only [Bool.and_eq_true, decide_eq_true_eq] at listens
        exact apart listens.1

/-- Only a queue that was listening is starved by losing its listeners. -/
theorem removeListeners_starved {bus : BusId} (starved : (call.removeListeners bus).Starved) :
    call.Starved ∨ call.listensOn bus = true := by
  obtain ⟨queue, found, open', done⟩ := starved
  obtain ⟨earlier, attached, rfl⟩ := Option.map_eq_some_iff.mp found
  simp only [Queue.removeListeners] at open' done
  rw [(removeListeners_overheard bus).executorDone] at done
  split at open'
  · rename_i same
    have calm : earlier.stopped = false := open'
    cases listens : earlier.attached with
    | true => exact .inr (by simp [listensOn, attached, listens, same, calm])
    | false => exact .inl ⟨earlier, attached, calm, by simp [listens]⟩
  · rename_i apart
    rw [if_neg apart] at done
    exact .inl ⟨earlier, attached, open', done⟩

/-- A call whose executor is not done is starved only by the loss of its listeners. -/
theorem rephased_starved {changed : Execution} (running : changed.phase.done = false)
    (starved : ({ call with execution := some changed } : Call).Starved) : call.Starved := by
  obtain ⟨queue, queued, open', done⟩ := starved
  refine ⟨queue, queued, open', fun on => ?_⟩
  have settled : changed.phase.done = true := done on
  rw [running] at settled
  cases settled

theorem Begun.unqueued (begun : Begun view call after) (unqueued : call.eventQueue = none)
    (sends : after.request = .sendMessage params) : after.eventQueue = none := by
  cases begun with
  | subscribes subscribed => cases subscribed.symm.trans sends
  | _ => exact unqueued

/-- What the end of a bus, and the removal of the listeners registered for a task, starve. -/
theorem closed_starved {taskIdToBus : String → Option BusId} {bus : BusId} {taskId : String}
    (starved : ((Effect.cleanup taskId).listen taskIdToBus (call.receiveFinished bus)).Starved) :
    (call.Starved ∧ call.listensOn bus = false) ∨
      ∃ registered, taskIdToBus taskId = some registered ∧ registered ≠ bus ∧
        call.listensOn registered = true := by
  simp only [Effect.listen] at starved
  cases known : taskIdToBus taskId with
  | none =>
      rw [known] at starved
      exact .inl (receiveFinished_starved starved)
  | some registered =>
      rw [known] at starved
      rcases removeListeners_starved starved with before | listens
      · exact .inl (receiveFinished_starved before)
      · obtain ⟨listened, apart⟩ := receiveFinished_listensOn listens
        exact .inr ⟨registered, rfl, apart, listened⟩

theorem Due.receiveFinished (due : call.Due events stored params) (bus : BusId) :
    (call.receiveFinished bus).Due events stored params := by
  have heard := @receiveFinished_overheard call bus
  exact due.muted heard (heard.muted rfl (receiveFinished_queued bus call) receiveFinished_mutes).2

theorem Due.cleanup (due : call.Due events stored params) (taskIdToBus : String → Option BusId)
    (taskId : String) : ((Effect.cleanup taskId).listen taskIdToBus call).Due events stored params := by
  simp only [Effect.listen]
  cases taskIdToBus taskId with
  | none => exact due
  | some bus =>
      have heard := @removeListeners_overheard call bus
      exact due.muted heard (heard.muted rfl (removeListeners_queued bus call) removeListeners_mutes).2

theorem listensOn_open {bus : BusId} (listens : call.listensOn bus = true) :
    ∃ queue, call.eventQueue = some queue ∧ queue.stopped = false := by
  cases queued : call.eventQueue with
  | none => simp [listensOn, queued] at listens
  | some queue =>
      simp only [listensOn, queued, Option.any_some, Bool.and_eq_true, Bool.not_eq_true'] at listens
      exact ⟨queue, rfl, listens.2⟩

/-- A call that only returns its result never yields one. -/
theorem Resumed.unyielding (wellFormed : call.WellFormed) (sends : call.request = .sendMessage params)
    (route : call.pc.sends = true) (awake : call.pc.yields = false)
    (resumed : Resumed handler view pid call fate after effects) : after.pc.yields = false := by
  cases resumed with
  | historySaved =>
      simp only [resolveReferences]
      split <;> rfl
  | referenceLoaded => split <;> rfl
  | contextBuilt loading created => cases wellFormed.contextBuilt loading created <;> rfl
  | loopEnded =>
      rw [leaveLoop_pc]
      exact leftPc_of (Pc.yields · = false) rfl rfl _
  | forwarded _ _ _ _ subscribes => cases sends.symm.trans subscribes
  | taken _ _ _ _ _ _ took =>
      rcases takeEvent_cases took with ⟨_, rfl, _⟩ | ⟨_, _, rfl, _⟩ <;> rfl
  | lockFailed _ _ _ _ failed | saveFailed _ _ failed =>
      exact processingFailed_pc (Pc.yields · = false) rfl (fun _ _ => rfl) failed
  | @skipped ref | @saved ref => cases ref <;> rfl
  | yielded _ _ _ streams => cases sends.symm.trans streams
  | mapped | consumed => exact afterYield_pc (Pc.yields · = false) rfl rfl rfl _ _
  | resubscribed loading =>
      rw [loading] at route
      cases route
  | misdirected => exact awake
  | _ => rfl

/-- The snapshot at `AUTH_REQUIRED` has settled the promise. -/
def Snapshots (call : Call) : Prop :=
  call.authRequiredSnapshotSent = true → call.outcome.isSome = true

theorem Snapshots.frame (snapshots : call.Snapshots) (frame : Frame call after)
    (same : after.authRequiredSnapshotSent = call.authRequiredSnapshotSent) : after.Snapshots := by
  intro sent
  have settled := snapshots (same ▸ sent)
  rwa [frame.outcome settled]

theorem begin_snapshots (request : Request) (context : ServerCallContext)
    (requestedExtensions : Option (List String)) (fresh : Fresh) :
    (handler.begin view request context requestedExtensions fresh).Snapshots := by
  have begun := @begin_cases handler view request context requestedExtensions fresh
  generalize handler.begin view request context requestedExtensions fresh = call at begun ⊢
  intro sent
  cases begun <;> cases sent

theorem begin_unyielding (request : Request) (context : ServerCallContext)
    (requestedExtensions : Option (List String)) (fresh : Fresh) :
    (handler.begin view request context requestedExtensions fresh).pc.yields = false := by
  have begun := @begin_cases handler view request context requestedExtensions fresh
  generalize handler.begin view request context requestedExtensions fresh = call at begun ⊢
  cases begun with
  | starts =>
      simp only [resolveReferences]
      split <;> rfl
  | loads counter => rcases counter with rfl | rfl | rfl | rfl <;> rfl
  | _ => rfl

theorem leaveLoop_snapshot :
    call.leaveLoop.authRequiredSnapshotSent = call.authRequiredSnapshotSent := by
  simp only [leaveLoop]
  cases call.request with
  | sendMessage params =>
      simp only
      split
      · split <;> rfl
      · split <;> rfl
  | _ => rfl

theorem Snapshots.afterYield (snapshots : call.Snapshots) (event : AgentExecutionEvent) :
    (call.afterYield event).Snapshots := by
  refine snapshots.frame (afterYield_frame event) ?_
  simp only [Call.afterYield]
  split
  · exact leaveLoop_snapshot
  · rfl

theorem Snapshots.forward (snapshots : call.Snapshots) (taskId : String) (id : EventId)
    (event : AgentExecutionEvent) : (call.forward taskId id event).Snapshots := by
  refine snapshots.frame (forward_frame call taskId id event) ?_
  simp only [Call.forward]
  split
  · rfl
  · split
    · exact leaveLoop_snapshot
    · rfl

theorem Snapshots.processed (snapshots : call.Snapshots) (ref : EventRef) (event : AgentExecutionEvent) :
    (call.processed ref event).Snapshots := by
  cases ref <;> exact snapshots

theorem Snapshots.notify (snapshots : call.Snapshots) (handler : Handler) (response : StreamResponse) :
    (call.notify handler response).Snapshots :=
  snapshots.frame (notify_frame handler call response) (notify_snapshot handler call response)

theorem Resumed.snapshots (wellFormed : call.WellFormed) (snapshots : call.Snapshots)
    (resumed : Resumed handler view pid call fate after effects) : after.Snapshots := by
  cases resumed with
  | answered => exact fun _ => finish_outcome _
  | @contextBuilt _ _ _ _ extensions after effects loading created =>
      cases wellFormed.contextBuilt loading created <;> exact snapshots
  | loopEnded => exact snapshots.frame leaveLoop_frame leaveLoop_snapshot
  | forwarded =>
      refine Snapshots.forward ?_ _ _ _
      exact snapshots
  | violated | resubscribeRefused => exact fun _ => finish_outcome _
  | taken _ _ _ _ _ _ took =>
      rcases takeEvent_cases took with ⟨_, rfl, _⟩ | ⟨_, _, rfl, _⟩ <;> exact snapshots
  | lockFailed waiting holds resolved loads fails =>
      have failed : Resumed handler view pid call _ _ _ := .lockFailed waiting holds resolved loads fails
      exact fun _ => failed.failed_answers wellFormed (by simp [waiting])
  | saveFailed saving current fails =>
      have failed : Resumed handler view pid call _ _ _ := .saveFailed saving current fails
      exact fun _ => failed.failed_answers wellFormed (by simp [saving])
  | skipped =>
      refine Snapshots.processed ?_ _ _
      exact snapshots
  | saved => exact Snapshots.processed snapshots _ _
  | yielded => exact snapshots.notify handler _
  | @mapped _ _ _ response _ _ _ _ _ _ _ _ handedOut =>
      refine Snapshots.afterYield ?_ _
      rcases handOutResults_cases handedOut with ⟨rfl, _⟩ | ⟨outcome, _, _, rfl, _⟩
      · exact snapshots.notify handler response
      · exact fun _ => settle_outcome outcome
  | closed => exact fun _ => finish_outcome _
  | consumed => exact snapshots.afterYield _
  | _ => exact snapshots

/-- Where a call that sends a message is, and what it has handed out. -/
structure Routed (call : Call) : Prop where
  sends : call.isSend = true → call.pc.sends = true
  awake : ∀ params, call.request = .sendMessage params → call.pc.yields = false
  snapshots : call.Snapshots

theorem Routed.heard (routed : call.Routed) (taskIdToBus : String → Option BusId) (effect : Effect) :
    (effect.listen taskIdToBus call).Routed := by
  cases effect with
  | cleanup taskId =>
      simp only [Effect.listen]
      cases taskIdToBus taskId <;> exact ⟨routed.sends, routed.awake, routed.snapshots⟩
  | _ => exact ⟨routed.sends, routed.awake, routed.snapshots⟩

theorem Resumed.routed (wellFormed : call.WellFormed) (routed : call.Routed)
    (resumed : Resumed handler view pid call fate after effects) : after.Routed where
  sends := resumed.sending wellFormed routed.sends
  awake _ asked := by
    have sends := (resumed.origin wellFormed).1.symm.trans asked
    have route := routed.sends (by simp [isSend, sends])
    exact resumed.unyielding wellFormed sends route (routed.awake _ sends)
  snapshots := resumed.snapshots wellFormed routed.snapshots

theorem begin_routed (request : Request) (context : ServerCallContext)
    (requestedExtensions : Option (List String)) (fresh : Fresh) :
    (handler.begin view request context requestedExtensions fresh).Routed where
  sends := begin_sending request context requestedExtensions fresh
  awake _ _ := begin_unyielding request context requestedExtensions fresh
  snapshots := begin_snapshots request context requestedExtensions fresh

end Call

namespace State

variable {handler : Handler} {state next : State} {label : Label} {pid : Pid} {effect : Effect}

/-- Does the task have a row? -/
def stored (state : State) (scope : Scope) (taskId : String) : Bool := (state.row scope taskId).isSome

theorem stored_step {scope : Scope} {taskId : String} (wellFormed : state.WellFormed)
    (stepped : state.step handler label = some next) (present : state.stored scope taskId = true) :
    next.stored scope taskId = true := by
  cases rowStep wellFormed stepped with
  | saved _ _ _ store =>
      rw [stored, row_saved store]
      split
      · rfl
      · exact present
  | accepted _ _ _ _ _ _ _ store | merged _ _ _ _ _ _ _ _ store | quiet _ store =>
      rw [stored, row_kept store]
      exact present

/-- An effect that closes a bus changes no event and no row. -/
theorem apply_closes (closes : effect.closes = true) :
    (state.apply pid effect).events = state.events ∧
      (state.apply pid effect).stored = state.stored := by
  cases effect with
  | finished bus => exact ⟨rfl, rfl⟩
  | cleanup taskId =>
      simp only [apply]
      cases state.taskIdToBus taskId <;> exact ⟨rfl, rfl⟩
  | _ => cases closes

end State

end A2A.Server
