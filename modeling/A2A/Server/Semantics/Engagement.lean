import A2A.Server.Semantics.Settlement

namespace A2A.Server

open Library

/-! A call whose executor may still publish.

From the moment it has attached its queue until its execution has settled, an engaged call hears
what its bus dispatches, as long as it does not give up and nobody ends the bus under it.
-/

namespace Call

/-- The executor of the call may still publish: it has not settled, or it is about to start on the
bus that the call has attached its queue to. -/
def engaged (call : Call) : Bool :=
  !call.executorDone || (call.pc.starting.isSome && call.eventQueue.isSome)

variable {handler : Handler} {view : View} {events : EventHeap} {pid : Pid} {fate : Fate}
  {call after : Call} {effects : List Effect}

theorem WellFormed.engaged_isSend (wellFormed : call.WellFormed) (engaged : call.engaged = true) :
    call.isSend = true := by
  rw [Call.engaged, Bool.or_eq_true] at engaged
  rcases engaged with running | starting
  · cases executing : call.execution with
    | none => simp [executorDone, executing] at running
    | some execution => exact (wellFormed.executes execution executing).1
  · refine wellFormed.starts ?_
    cases counter : call.pc <;> simp_all [Pc.starting, Pc.starts]

theorem Overheard.engaged (overheard : call.Overheard after) : after.engaged = call.engaged := by
  rw [Call.engaged, Call.engaged, overheard.executorDone, overheard.pc, overheard.queued]

/-- A call that has something to go on with is at a counter whose loop goes on. -/
theorem goes_on (waits : (call.remaining events).isSome = true) :
    ∃ queue, call.eventQueue = some queue ∧ (call.pc.waiting events queue.eventQueue).isSome = true := by
  cases queued : call.eventQueue with
  | none => simp [remaining_unqueued queued] at waits
  | some queue => exact ⟨queue, rfl, remaining_queued queued ▸ waits⟩

/-- A queue that listens goes on listening while its loop goes on. -/
theorem Resumed.stays (wellFormed : call.WellFormed) (plain : call.isResubscribe = false)
    (loyal : ¬ call.GivesUp view fate) (listens : call.listening = true)
    (waits : (call.remaining view.event).isSome = true)
    (resumed : Resumed handler view pid call fate after effects) : after.listening = true := by
  obtain ⟨attached, queued, going⟩ := goes_on waits
  have onward : ∀ {middle : Call} {id : EventId} {event : AgentExecutionEvent},
      call.pc = .map id ∨ call.pc = .suspended (some id) → view.event id = some event →
      middle.eventQueue = call.eventQueue → (middle.afterYield event).listening = true := by
    intro middle id event counter known same
    have goesOn : event.endsQueue = false := by
      cases ends : event.endsQueue with
      | false => rfl
      | true => rcases counter with counter | counter <;> simp [counter, Pc.waiting, known, ends] at going
    rw [afterYield, if_neg (by simp [goesOn])]
    simpa only [Call.listening, same] using listens
  cases resumed with
  | historySaved =>
      simp only [resolveReferences]
      split <;> exact listens
  | @contextBuilt _ _ _ _ extensions after effects loading created =>
      cases wellFormed.contextBuilt loading created with
      | configures => exact listens
      | configuresStream | runs => rfl
  | configSavedFirst => rfl
  | loopEnded _ attached _ stopped => simp [Call.listening, attached, stopped] at listens
  | forwarded _ _ _ _ subscribes => simp [isResubscribe, subscribes] at plain
  | violated pulling attached waiting known stream refused =>
      exact absurd (.violated pulling attached waiting known stream refused) loyal
  | taken _ attached _ _ _ _ took =>
      rcases takeEvent_cases took with ⟨_, rfl, _⟩ | ⟨_, _, rfl, _⟩ <;>
        simpa [Call.listening, shifted, processed, attached] using listens
  | lockFailed waiting | saveFailed waiting => exact absurd (.failed (by simp [waiting])) loyal
  | @skipped ref key event manager waiting =>
      cases ref with
      | published => exact listens
      | own failure =>
          rw [waiting] at going
          cases going
  | @saved ref key event task saving =>
      cases ref with
      | published => exact listens
      | own failure =>
          rw [saving] at going
          cases going
  | yielded =>
      simp only [notify]
      split <;> exact listens
  | @mapped _ _ _ response _ _ _ mapping known _ _ _ handedOut =>
      refine onward (.inl mapping) known ?_
      rcases handOutResults_cases handedOut with ⟨rfl, _⟩ | ⟨_, _, _, rfl, _⟩
      · simp only [notify]; split <;> rfl
      · simp only [notify, settle]; split <;> rfl
  | consumed suspended _ known => exact onward (.inr suspended) known rfl
  | cancelAttached => rfl
  | resubscribeRefused loading refused => exact absurd (.refused loading refused) loyal
  | _ => exact listens

/-- A call that attaches its queue listens, and has nothing to handle yet. -/
theorem Resumed.attaches (wellFormed : call.WellFormed) (unqueued : call.eventQueue = none)
    (queued : after.eventQueue.isSome = true)
    (resumed : Resumed handler view pid call fate after effects) :
    after.listening = true ∧ (after.remaining view.event).isSome = true := by
  have framed : ∀ {record : Call}, Frame call record → record.eventQueue.isSome = true →
      record.listening = true ∧ (record.remaining view.event).isSome = true := by
    intro record frame attached
    rcases frame.eventQueue with same | stopped
    · rw [same, unqueued] at attached
      cases attached
    · rw [stopped, unqueued] at attached
      cases attached
  have listens : call.pc.listening = true → False := by
    intro listening
    have attached := wellFormed.listening listening
    rw [unqueued] at attached
    cases attached
  cases resumed with
  | answered => exact framed (finish_frame _) queued
  | @contextBuilt _ _ _ _ extensions after effects loading created =>
      cases wellFormed.contextBuilt loading created with
      | configures =>
          rw [show _ = none from unqueued] at queued
          cases queued
      | configuresStream | runs => exact ⟨rfl, rfl⟩
  | configSaved _ attached =>
      rw [unqueued] at attached
      cases attached
  | configSavedFirst | cancelAttached => exact ⟨rfl, rfl⟩
  | loopEnded counter | forwarded counter | violated counter | taken counter | lockFailed counter
  | merged counter | skipped counter | saveFailed counter | saved counter | yielded counter
  | mapped counter | cancelExecuted counter => exact (listens (by rw [counter]; rfl)).elim
  | closed => exact framed (finish_frame _) queued
  | continued _ attached | consumed _ attached =>
      rw [unqueued] at attached
      cases attached
  | resubscribeRefused => exact framed (stopQueue_frame.trans (finish_frame _)) queued
  | misdirected => exact framed .refl queued
  | _ => exact framed .advanced queued

/-- Nothing that a step hands on is lost to an engaged call, as long as it goes on. -/
theorem Resumed.hears (wellFormed : call.WellFormed) (knows : call.Knows view.event)
    (plain : call.isResubscribe = false) (loyal : ¬ call.GivesUp view fate)
    (ordered : (call.inbox view.event).Ordered Item.stops)
    (hears : Inbox.Hears Item.stops (call.inbox view.event))
    (resumed : Resumed handler view pid call fate after effects) :
    Inbox.Hears Item.stops (after.inbox view.event) := by
  have reads := resumed.reads wellFormed knows
  have received : (after.inbox view.event).received = (call.inbox view.event).received :=
    congrArg (List.map itemOf) reads.received_kept
  rcases hears with ⟨listens, waits⟩ | stops
  · have going : (call.remaining view.event).isSome = true := by
      simpa only [inbox, Option.isSome_map] using waits
    have staying := resumed.stays wellFormed plain loyal listens going
    cases reads with
    | quiet _ _ _ same => exact .inl ⟨staying, by simp only [inbox, Option.isSome_map, same, going]⟩
    | attached _ _ _ _ same => exact .inl ⟨staying, by simp only [inbox, same]; rfl⟩
    | @handled _ id rest event known ahead found same _ _ remaining =>
        cases ends : event.endsQueue with
        | false => exact .inl ⟨staying, by simp only [inbox, remaining, ends]; rfl⟩
        | true =>
            refine .inr ?_
            have tagged : EventHeap.tag view.event id = some (id, event.core) := by
              rw [EventHeap.tag, found, Option.map_some, same]
            have waiting : (call.inbox view.event).waiting =
                some ((id, event.core) :: rest.filterMap (EventHeap.tag view.event)) := by
              rw [inbox, ahead, Option.map_some, List.filterMap_cons_some tagged]
            rw [received, (ordered.reading _ waiting).1, List.any_append, List.any_cons, Item.stops,
              AgentExecutionEvent.core_endsQueue, ends, Bool.true_or, Bool.or_true]
    | finished _ _ silent =>
        rw [show call.listening = true from listens] at silent
        cases silent
    | lost gives => exact absurd gives loyal
  · exact .inr (received ▸ stops)

/-- An engaged call was engaged before, or has just attached its queue. -/
theorem Resumed.engaged (wellFormed : call.WellFormed) (engaged : after.engaged = true)
    (resumed : Resumed handler view pid call fate after effects) :
    call.engaged = true ∨ (call.eventQueue = none ∧ after.eventQueue.isSome = true) := by
  have same : after.execution = call.execution → after.pc.starting = none → call.engaged = true := by
    intro execution starting
    rw [Call.engaged, starting, Option.isSome_none, Bool.false_and, Bool.or_false] at engaged
    rw [Call.engaged, executorDone, ← execution]
    rw [executorDone] at engaged
    rw [engaged, Bool.true_or]
  have queued : ∀ {bus : BusId}, after.bus = some bus → after.eventQueue.isSome = true := by
    intro bus attached
    obtain ⟨queue, found, _⟩ := Option.map_eq_some_iff.mp attached
    rw [found]
    rfl
  have unqueued : call.bus = none → call.eventQueue = none := Option.map_eq_none_iff.mp
  cases resumed.busUse wellFormed with
  | unchanged execution bus starting =>
      rcases starting with starting | free
      · exact .inl (same execution starting)
      · refine .inl ?_
        have detached : after.eventQueue = none := Option.map_eq_none_iff.mp (bus.trans free)
        rw [Call.engaged, detached, Option.isSome_none, Bool.and_false, Bool.or_false] at engaged
        rw [Call.engaged, executorDone, ← execution]
        rw [executorDone] at engaged
        rw [engaged, Bool.true_or]
  | attached _ _ execution _ starting => exact .inl (same execution starting)
  | prepared free _ _ _ bus => exact .inr ⟨unqueued free, queued bus⟩
  | started free _ _ _ _ bus => exact .inr ⟨unqueued free, queued bus⟩
  | startedPrepared starting bus =>
      obtain ⟨queue, found, _⟩ := Option.map_eq_some_iff.mp bus
      exact .inl (by rw [Call.engaged, starting, found]; simp)

/-- A bus that the queue does not listen on may end unheard. -/
theorem receiveFinished_apart {bus : BusId} (deaf : call.listensOn bus = false) :
    (call.receiveFinished bus).inbox events = call.inbox events ∧
      ∀ other, (call.receiveFinished bus).listensOn other = call.listensOn other := by
  cases queued : call.eventQueue with
  | none =>
      have same : call.receiveFinished bus = call := by rw [receiveFinished, queued, Option.map_none, ← queued]
      rw [same]
      exact ⟨rfl, fun _ => rfl⟩
  | some queue =>
      simp only [listensOn, queued, Option.any_some, Bool.and_eq_false_iff, decide_eq_false_iff_not,
        Bool.not_eq_false'] at deaf
      by_cases hears : queue.attached = true ∧ queue.eventBus = bus
      · have stopped : queue.stopped = true := by simpa [hears.1, hears.2] using deaf
        refine ⟨?_, fun other => ?_⟩
        · simp [inbox, remaining, receiveFinished, Queue.handleFinished, queued, hears, Queue.stop,
            Call.listening, stopped]
        · simp [listensOn, receiveFinished, Queue.handleFinished, queued, hears, Queue.stop, stopped]
      · have same : queue.handleFinished bus = queue := by rw [Queue.handleFinished, if_neg hears]
        refine ⟨?_, fun other => ?_⟩
        · simp only [inbox, remaining, receiveFinished, queued, Option.map_some, same, Call.listening]
        · simp only [listensOn, receiveFinished, queued, Option.map_some, same]

theorem removeListeners_apart {bus : BusId} (deaf : call.listensOn bus = false) :
    (call.removeListeners bus).inbox events = call.inbox events := by
  cases queued : call.eventQueue with
  | none => simp [inbox, remaining, removeListeners, queued, Call.listening]
  | some queue =>
      simp only [listensOn, queued, Option.any_some, Bool.and_eq_false_iff, decide_eq_false_iff_not,
        Bool.not_eq_false'] at deaf
      by_cases same : queue.eventBus = bus
      · have muted : queue.attached = false ∨ queue.stopped = true := by simpa [same] using deaf
        rcases muted with muted | muted <;>
          simp [inbox, remaining, removeListeners, Queue.removeListeners, queued, same, Call.listening, muted]
      · simp [inbox, remaining, removeListeners, Queue.removeListeners, queued, same, Call.listening]

/-- A call that gives up on its way to its executor never starts it. -/
theorem Resumed.unengaged (wellFormed : call.WellFormed) (gives : call.GivesUp view fate)
    (done : call.executorDone = true) (engaged : call.engaged = true)
    (resumed : Resumed handler view pid call fate after effects) : after.engaged = false := by
  have starting : call.pc.starting.isSome = true := by
    simp only [Call.engaged, done, Bool.not_true, Bool.false_or, Bool.and_eq_true] at engaged
    exact engaged.1
  have idle := wellFormed.idle (by cases counter : call.pc <;> simp_all [Pc.starting, Pc.starts])
  cases gives with
  | violated pulling =>
      rw [pulling] at starting
      cases starting
  | refused loading =>
      rw [loading] at starting
      cases starting
  | failed =>
      cases resumed with
      | @answered _ outcome =>
          rw [Call.engaged, executorDone, show (call.finish outcome).execution = none from idle]
          rfl
      | lockFailed counter | saveFailed counter | yielded counter | mapped counter =>
          rw [counter] at starting
          cases starting
      | resubscribeRefused counter =>
          rw [counter] at starting
          cases starting

end Call

end A2A.Server
