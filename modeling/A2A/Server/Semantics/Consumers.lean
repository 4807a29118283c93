import A2A.Library.Inbox
import A2A.Server.Semantics.Rows

namespace A2A.Server

open Library

/-! A call as the reader of the events its queue accepts.

`Call.inbox` forgets everything about a call but what it has received, what its
loop has handled and what is still ahead of it.  A resumed step handles at most
one event (`Call.Reading`), unless the call gives up; a listener adds one.
-/

theorem applyHistoryLengthSemantics_eq (historyLength : Option Int) (task : Task) :
    ∃ history, applyHistoryLengthSemantics historyLength task = { task with history } := by
  simp only [applyHistoryLengthSemantics]
  split
  · exact ⟨task.history, rfl⟩
  · split <;> exact ⟨_, rfl⟩

namespace AgentExecutionEvent

/-- The event without the history, which a trim in place may shorten. -/
def core (event : AgentExecutionEvent) : AgentExecutionEvent := event.trim (some 0)

@[simp] theorem core_trim (historyLength : Option Int) (event : AgentExecutionEvent) :
    (event.trim historyLength).core = event.core := by
  cases event with
  | task data =>
      obtain ⟨history, trimmed⟩ := applyHistoryLengthSemantics_eq historyLength data
      simp only [trim, trimmed]
      rfl
  | _ => rfl

@[simp] theorem core_target (event : AgentExecutionEvent) : event.core.target = event.target := by
  cases event <;> rfl

@[simp] theorem core_endsQueue (event : AgentExecutionEvent) :
    event.core.endsQueue = event.endsQueue := by
  cases event <;> rfl

theorem endsQueue_of_core {event other : AgentExecutionEvent} (same : event.core = other.core) :
    event.endsQueue = other.endsQueue := by
  rw [← core_endsQueue event, same, core_endsQueue]

end AgentExecutionEvent

abbrev EventHeap := EventId → Option AgentExecutionEvent

/-- A received or handled event: its identity, and its content up to trims. -/
abbrev Item := EventId × AgentExecutionEvent

namespace EventHeap

/-- No event object is lost or, up to trims, changed. -/
def Grows (events later : EventHeap) : Prop :=
  ∀ id event, events id = some event → ∃ kept, later id = some kept ∧ kept.core = event.core

theorem Grows.refl (events : EventHeap) : events.Grows events := fun _ event found =>
  ⟨event, found, rfl⟩

theorem Grows.trans {events middle later : EventHeap} (first : events.Grows middle)
    (second : middle.Grows later) : events.Grows later := by
  intro id event found
  obtain ⟨kept, present, same⟩ := first id event found
  obtain ⟨last, final, equal⟩ := second id kept present
  exact ⟨last, final, equal.trans same⟩

def tag (events : EventHeap) (id : EventId) : Option Item :=
  (events id).map (fun event => (id, event.core))

theorem Grows.tag {events later : EventHeap} (grows : events.Grows later) {id : EventId}
    (known : (events id).isSome = true) : later.tag id = events.tag id := by
  obtain ⟨event, found⟩ := Option.isSome_iff_exists.mp known
  obtain ⟨kept, present, same⟩ := grows id event found
  simp [EventHeap.tag, found, present, same]

theorem Grows.endsQueue {events later : EventHeap} (grows : events.Grows later) {id : EventId}
    (known : (events id).isSome = true) :
    (later id).any AgentExecutionEvent.endsQueue = (events id).any AgentExecutionEvent.endsQueue := by
  obtain ⟨event, found⟩ := Option.isSome_iff_exists.mp known
  obtain ⟨kept, present, same⟩ := grows id event found
  simp [found, present, AgentExecutionEvent.endsQueue_of_core same]

theorem Grows.known {events later : EventHeap} (grows : events.Grows later) {id : EventId}
    (known : (events id).isSome = true) : (later id).isSome = true := by
  obtain ⟨event, found⟩ := Option.isSome_iff_exists.mp known
  obtain ⟨kept, present, _⟩ := grows id event found
  simp [present]

end EventHeap

def Item.stops (item : Item) : Bool := item.2.endsQueue

def itemOf (entry : EventId × AgentExecutionEvent) : Item := (entry.1, entry.2.core)

namespace Pc

/-- The published event a call is working on. -/
def event : Pc → Option EventId
  | .lock (.published id) _ | .save (.published id) _ _ | .map id => some id
  | .suspended last => last
  | _ => none

/-- Nothing merged is being saved, and no failure of the loop is being reported. -/
def plain : Pc → Bool
  | .save _ _ _ | .lock (.own _) _ => false
  | _ => true

/-- The merge of a published event is being saved. -/
def stores : Pc → Bool
  | .save (.published _) _ _ => true
  | _ => false

/-- The event being worked on and the queue behind it, as long as the loop goes on. -/
def waiting (events : EventHeap) (pc : Pc) (queue : List EventId) : Option (List EventId) :=
  match pc with
  | .savePushConfig _ _ | .cancelExecute | .resubscribeLoad | .pull | .suspended none => some queue
  | .lock (.published id) _ | .save (.published id) _ _ => some (id :: queue)
  | .map id | .suspended (some id) =>
      if (events id).any AgentExecutionEvent.endsQueue then none else some queue
  | _ => none

end Pc

namespace Call

def listening (call : Call) : Bool :=
  call.eventQueue.any (fun queue => queue.attached && !queue.stopped)

def remaining (events : EventHeap) (call : Call) : Option (List EventId) :=
  (call.eventQueue.map Queue.eventQueue).bind (call.pc.waiting events)

def inbox (events : EventHeap) (call : Call) : Inbox Item where
  received := call.received.map itemOf
  handled := call.handled.map itemOf
  waiting := (call.remaining events).map (List.filterMap events.tag)
  listening := call.listening

/-- Every event a call refers to is known. -/
structure Knows (events : EventHeap) (call : Call) : Prop where
  queued : ∀ queue, call.eventQueue = some queue → ∀ id ∈ queue.eventQueue, (events id).isSome = true
  current : ∀ id, call.pc.event = some id → (events id).isSome = true
  saving : ∀ id key event, call.pc = .save (.published id) key event →
    ∃ known, events id = some known ∧ known.core = event.core
  own : ∀ key event, (call.pc = .lock (.own event) key ∨
    ∃ failure, call.pc = .save (.own failure) key event) → ∃ data, event = .statusUpdate data
  unqueued : call.eventQueue = none → call.received = [] ∧ call.handled = []

theorem Knows.grows {events later : EventHeap} {call : Call} (knows : call.Knows events)
    (grows : events.Grows later) : call.Knows later where
  queued queue found id member := grows.known (knows.queued queue found id member)
  current id working := grows.known (knows.current id working)
  saving id key event saves := by
    obtain ⟨known, found, same⟩ := knows.saving id key event saves
    obtain ⟨kept, present, equal⟩ := grows id known found
    exact ⟨kept, present, equal.trans same⟩
  own := knows.own
  unqueued := knows.unqueued

theorem Knows.remaining {events later : EventHeap} {call : Call} (knows : call.Knows events)
    (grows : events.Grows later) : call.remaining later = call.remaining events := by
  have ends : ∀ id, call.pc.event = some id →
      (later id).any AgentExecutionEvent.endsQueue = (events id).any AgentExecutionEvent.endsQueue :=
    fun id working => grows.endsQueue (knows.current id working)
  simp only [Call.remaining]
  congr 1
  funext queue
  cases counter : call.pc with
  | map id => simp [Pc.waiting, ends id (by rw [counter]; rfl)]
  | suspended last =>
      cases last with
      | none => rfl
      | some id => simp [Pc.waiting, ends id (by rw [counter]; rfl)]
  | lock ref key => cases ref <;> rfl
  | save ref key event => cases ref <;> rfl
  | _ => rfl

theorem Knows.known {events : EventHeap} {call : Call} {ids : List EventId}
    (knows : call.Knows events) (waits : call.remaining events = some ids) :
    ∀ id ∈ ids, (events id).isSome = true := by
  obtain ⟨queued, found, waiting⟩ := Option.bind_eq_some_iff.mp waits
  obtain ⟨queue, attached, rfl⟩ := Option.map_eq_some_iff.mp found
  have inQueue := knows.queued queue attached
  have working := knows.current
  simp only [Pc.waiting] at waiting
  split at waiting
  case h_6 | h_7 =>
    cases waiting
    rename_i counter
    rw [List.forall_mem_cons]
    exact ⟨working _ (by rw [counter]; rfl), inQueue⟩
  case h_8 | h_9 =>
    split at waiting
    · cases waiting
    · cases waiting
      exact inQueue
  case h_10 => cases waiting
  all_goals
    cases waiting
    exact inQueue

theorem Knows.inbox {events later : EventHeap} {call : Call} (knows : call.Knows events)
    (grows : events.Grows later) : call.inbox later = call.inbox events := by
  simp only [Call.inbox, knows.remaining grows]
  congr 1
  cases waits : call.remaining events with
  | none => rfl
  | some ids =>
      simp only [Option.map_some, Option.some.injEq]
      exact List.filterMap_congr fun id member => grows.tag (knows.known waits id member)

/-- Why a call stops before it has handled what it received. -/
inductive GivesUp (view : View) (call : Call) : Fate → Prop
  | failed {error} : (∀ id, call.pc ≠ .map id) → GivesUp view call (.fail error)
  | violated {queue id rest event text} :
      call.pc = .pull → call.eventQueue = some queue → queue.eventQueue = id :: rest →
      view.event id = some event → call.isStream = true →
      advanceStreamPattern event call.streamPattern = .error text → GivesUp view call .ok
  | refused {fate} : call.pc = .resubscribeLoad →
      (fate = .ok → (view.load (requestTaskId call.request)).all
        (fun task => task.state.any terminalStateList.contains) = true) → GivesUp view call fate

/-- What handling an event amounts to. -/
inductive Handles (view : View) (call : Call) (id : EventId) (event : AgentExecutionEvent) : Prop
  | saved {key} : call.pc = .save (.published id) key event → Handles view call id event
  | skipped {key} : call.pc = .lock (.published id) key → view.event id = some event →
      ResultManager.mergeInto call.resultManager.latestUserMessage
        (event.loads (event.target.bind view.load)) event = none → Handles view call id event
  | message : call.pc = .pull → event.target = none → Handles view call id event
  | forwarded : call.pc = .pull → call.isResubscribe = true → Handles view call id event

/-- A resumed step, as the inbox sees it. -/
inductive Reading (view : View) (call : Call) : Fate → Call → Prop
  | quiet {fate after} : call.pc.stores = false → after.received = call.received →
      after.handled = call.handled → after.remaining view.event = call.remaining view.event →
      (after.listening = true → call.listening = true) → Reading view call fate after
  | attached {fate after} : call.pc.stores = false → call.eventQueue = none →
      after.received = call.received → after.handled = call.handled →
      after.remaining view.event = some [] → after.listening = true → Reading view call fate after
  | handled {after id rest event known} : call.remaining view.event = some (id :: rest) →
      view.event id = some known → known.core = event.core → after.received = call.received →
      after.handled = call.handled ++ [(id, event)] →
      after.remaining view.event = (if event.endsQueue then none else some rest) →
      (after.listening = true → call.listening = true) → call.Handles view id event →
      Reading view call .ok after
  | finished {fate after} : call.pc.stores = false → call.remaining view.event = some [] →
      call.listening = false → after.received = call.received → after.handled = call.handled →
      after.remaining view.event = none → after.listening = false → Reading view call fate after
  | lost {fate after} : call.GivesUp view fate → (fate = .ok → call.pc.stores = false) →
      after.received = call.received → after.handled = call.handled →
      after.remaining view.event = none → Reading view call fate after

section

variable {handler : Handler} {view : View} {events : EventHeap} {pid : Pid} {fate : Fate}
  {call after : Call} {effects : List Effect}

theorem Reading.received_kept (reading : Reading view call fate after) : after.received = call.received := by
  cases reading with
  | quiet _ same | attached _ _ same | handled _ _ _ same | finished _ _ _ same | lost _ _ same => exact same

theorem remaining_queued {queue : Queue} (queued : call.eventQueue = some queue) :
    call.remaining events = call.pc.waiting events queue.eventQueue := by
  rw [remaining, queued]
  rfl

theorem remaining_unqueued (unqueued : call.eventQueue = none) : call.remaining events = none := by
  rw [remaining, unqueued]
  rfl

theorem waiting_preparing {pc : Pc} (prepares : pc.preparing = true) (apart : pc.proceeds = false)
    (queue : List EventId) : pc.waiting events queue = none := by
  cases pc <;> simp_all [Pc.preparing, Pc.proceeds, Pc.waiting]

theorem leftPc_waiting (queue : List EventId) : call.leftPc.waiting events queue = none :=
  leftPc_of (Pc.waiting events · queue = none) rfl rfl call

theorem Frame.listening (frame : Frame call after) (listens : after.listening = true) :
    call.listening = true := by
  rcases frame.eventQueue with kept | stopped
  · rwa [Call.listening, ← kept]
  · cases queued : call.eventQueue with
    | none => simp [Call.listening, stopped, queued] at listens
    | some queue => simp [Call.listening, stopped, queued, Queue.stop] at listens

theorem Frame.reading (frame : Frame call after) (handled : after.handled = call.handled)
    (unsaved : call.pc.stores = false)
    (waiting : ∀ queue, after.pc.waiting view.event queue = call.pc.waiting view.event queue) :
    Reading view call fate after := by
  refine .quiet unsaved frame.received handled ?_ frame.listening
  rw [remaining, remaining, frame.queued]
  exact congrArg _ (funext waiting)

/-- After the yield of an event the call waits for the next one, or is done. -/
theorem afterYield_waiting {id : EventId} {event : AgentExecutionEvent}
    (known : events id = some event) (queue : List EventId) :
    (call.afterYield event).pc.waiting events queue = (Pc.map id).waiting events queue := by
  simp only [afterYield]
  cases ends : event.endsQueue with
  | true =>
      rw [if_pos rfl, leaveLoop_pc, leftPc_waiting]
      simp [Pc.waiting, known, ends]
  | false => simp [Pc.waiting, known, ends]

theorem afterYield_handled (event : AgentExecutionEvent) :
    (call.afterYield event).handled = call.handled := by
  simp only [afterYield]
  split
  · exact leaveLoop_handled
  · rfl

theorem attachQueue_reading (unsaved : call.pc.stores = false) (unqueued : call.eventQueue = none)
    {bus : BusId} (queued : after.eventQueue = some (.new bus)) (received : after.received = call.received)
    (handled : after.handled = call.handled) (waiting : after.pc.waiting view.event [] = some []) :
    Reading view call fate after := by
  refine .attached unsaved unqueued received handled ?_ ?_
  · rw [remaining_queued queued]
    exact waiting
  · rw [Call.listening, queued]
    rfl

theorem left_remaining (left : call.pc = .finished) : call.remaining events = none := by
  rw [remaining, left]
  exact Option.bind_eq_none_iff.mpr fun _ _ => rfl

theorem processingFailed_lost {ref : EventRef} {error : String}
    (failed : call.processingFailed ref error = (after, effects)) :
    after.received = call.received ∧ after.handled = call.handled ∧ after.remaining events = none := by
  rcases processingFailed_cases failed with ⟨left, frame, _⟩ | ⟨id, task, _, _, _, _, rfl, _⟩
  · refine ⟨frame.received, ?_, left_remaining left⟩
    have first := congrArg Prod.fst failed
    simp only [processingFailed] at first
    subst first
    split
    · rfl
    · split
      · split
        · split
          · rfl
          · exact processEvent_handled _ _
        · rfl
      · rfl
  · exact ⟨rfl, rfl, Option.bind_eq_none_iff.mpr fun _ _ => rfl⟩

theorem takeEvent_reading {queue : Queue} {id : EventId} {rest : List EventId}
    {event : AgentExecutionEvent} {pattern : StreamPattern} (pulling : call.pc = .pull)
    (attached : call.eventQueue = some queue) (waiting : queue.eventQueue = id :: rest)
    (known : view.event id = some event)
    (took : ({ call.shifted queue rest with streamPattern := pattern }).takeEvent id event =
      (after, effects)) : Reading view call .ok after := by
  have before : call.remaining view.event = some (id :: rest) := by
    rw [remaining_queued attached, pulling, waiting]
    rfl
  have listens : ({ call.shifted queue rest with streamPattern := pattern }).listening =
      call.listening := by
    simp [Call.listening, shifted, attached]
  rcases takeEvent_cases took with ⟨target, rfl, rfl⟩ | ⟨taskId, target, rfl, rfl⟩
  · refine .handled before known rfl rfl rfl ?_ (fun stays => listens.symm.trans stays) (.message pulling target)
    simp [remaining, processed, shifted, Pc.waiting, known]
  · refine .quiet (by rw [pulling]; rfl) rfl rfl ?_ (fun stays => listens.symm.trans stays)
    rw [before]
    rfl

theorem forward_reading {queue : Queue} {id : EventId} {rest : List EventId}
    {event : AgentExecutionEvent} {taskId : String} (pulling : call.pc = .pull)
    (attached : call.eventQueue = some queue) (waiting : queue.eventQueue = id :: rest)
    (known : view.event id = some event) (subscribed : call.request = .resubscribe taskId) :
    Reading view call .ok ((call.shifted queue rest).forward taskId id event) := by
  have frame := forward_frame (call.shifted queue rest) taskId id event
  have before : call.remaining view.event = some (id :: rest) := by
    rw [remaining_queued attached, pulling, waiting]
    rfl
  have listens : (call.shifted queue rest).listening = call.listening := by
    simp [Call.listening, shifted, attached]
  have queued : ((call.shifted queue rest).forward taskId id event).eventQueue.map Queue.eventQueue =
      some rest := by
    rw [frame.queued]
    rfl
  refine .handled before known rfl frame.received ?_ ?_ (fun stays => listens ▸ frame.listening stays)
    (.forwarded pulling (by simp [isResubscribe, subscribed]))
  · simp only [forward]
    split
    · rfl
    · split
      · rw [leaveLoop_handled]
        rfl
      · rfl
  · rw [remaining, queued, Option.bind_some]
    simp only [forward]
    by_cases own : event.target = some taskId
    · rw [if_pos own]
      simp [Pc.waiting, known]
    · rw [if_neg own]
      cases ends : event.endsQueue with
      | true =>
          rw [if_pos rfl, if_pos rfl, leaveLoop_pc]
          exact leftPc_waiting rest
      | false => rfl

theorem Resumed.reads (wellFormed : call.WellFormed) (knows : call.Knows view.event)
    (resumed : Resumed handler view pid call fate after effects) : Reading view call fate after := by
  have unqueued : call.pc.unattached = true → call.eventQueue = none := wellFormed.unattached
  cases resumed with
  | @answered fate outcome effects prepares _ apart =>
      cases fate with
      | fail error =>
          exact .lost (.failed fun id mapping => by simp [mapping, Pc.preparing] at prepares) nofun
            rfl rfl (left_remaining rfl)
      | ok =>
          have unsaved : call.pc.stores = false := by
            cases counter : call.pc <;> simp_all [Pc.preparing, Pc.stores]
          refine (finish_frame outcome).reading rfl unsaved fun queue => ?_
          rw [waiting_preparing prepares (apart rfl)]
          rfl
  | taskAccepted loading => exact Frame.advanced.reading rfl (by rw [loading]; rfl) fun queue => by rw [loading]; rfl
  | historySaved saving =>
      simp only [resolveReferences]
      split <;> exact Frame.advanced.reading rfl (by rw [saving]; rfl) fun queue => by rw [saving]; rfl
  | referenceLoaded loading =>
      split <;> exact Frame.advanced.reading rfl (by rw [loading]; rfl) fun queue => by rw [loading]; rfl
  | @contextBuilt message task taskId referenceTasks extensions after effects loading created =>
      have starts : ({ call with requestedExtensions := extensions }).isSend = true :=
        wellFormed.starts (by simp [loading, Pc.starts])
      have free := unqueued (by simp [loading, Pc.unattached])
      cases contextCreated_cases starts created with
      | configures =>
          refine .quiet (by rw [loading]; rfl) rfl rfl ?_ id
          rw [remaining_unqueued free]
          exact remaining_unqueued free
      | configuresStream =>
          exact attachQueue_reading (by rw [loading]; rfl) free rfl rfl rfl rfl
      | runs => exact attachQueue_reading (by rw [loading]; rfl) free rfl rfl rfl rfl
  | configSaved saving queued =>
      refine .quiet (by rw [saving]; rfl) rfl rfl ?_ id
      rw [remaining_queued queued, saving]
      exact remaining_queued queued
  | configSavedFirst saving free =>
      exact attachQueue_reading (by rw [saving]; rfl) free rfl rfl rfl rfl
  | @loopEnded queue pulling attached empty stopped =>
      have muted : call.listening = false := by simp [Call.listening, attached, stopped]
      have silent : call.leaveLoop.listening = false := by
        cases listens : call.leaveLoop.listening with
        | false => rfl
        | true => exact (leaveLoop_frame.listening listens).symm.trans muted
      refine .finished (by rw [pulling]; rfl) ?_ muted leaveLoop_frame.received leaveLoop_handled ?_ silent
      · rw [remaining_queued attached, pulling, empty]
        rfl
      · rw [remaining, leaveLoop_pc]
        exact Option.bind_eq_none_iff.mpr fun queue _ => leftPc_waiting queue
  | forwarded pulling attached waiting known subscribed =>
      exact forward_reading pulling attached waiting known subscribed
  | violated pulling attached waiting known stream refused =>
      exact .lost (.violated pulling attached waiting known stream refused)
        (fun _ => by rw [pulling]; rfl) rfl rfl (left_remaining rfl)
  | taken pulling attached waiting known _ _ took =>
      exact takeEvent_reading pulling attached waiting known took
  | lockFailed waiting _ _ _ failed =>
      obtain ⟨received, handled, remaining⟩ := processingFailed_lost failed
      exact .lost (.failed (by simp [waiting])) nofun received handled remaining
  | @merged ref key event manager waiting =>
      refine Frame.advanced.reading rfl (by rw [waiting]; rfl) fun queue => ?_
      rw [waiting]
      cases ref <;> rfl
  | @skipped ref key event manager waiting _ resolved result =>
      cases ref with
      | own failure =>
          have managed : Frame call { call with resultManager := manager } := .advanced
          refine (managed.trans (processed_frame _ _ _)).reading rfl (by rw [waiting]; rfl) fun queue => ?_
          rw [waiting]
          rfl
      | published id =>
          have queued := wellFormed.listening (by simp [waiting, Pc.listening])
          obtain ⟨queue, attached⟩ := Option.isSome_iff_exists.mp queued
          have known : view.event id = some event := resolved
          have before : call.remaining view.event = some (id :: queue.eventQueue) := by
            rw [remaining_queued attached, waiting]
            rfl
          refine .handled before known rfl rfl rfl ?_ (fun listens => listens)
            (.skipped waiting known (ResultManager.merge_skipped result))
          simp [remaining, attached, processed, Pc.waiting, known]
  | saveFailed saving _ failed =>
      obtain ⟨received, handled, remaining⟩ := processingFailed_lost failed
      exact .lost (.failed (by simp [saving])) nofun received handled remaining
  | @saved ref key event task saving current =>
      cases ref with
      | own failure =>
          refine (processed_frame _ _ _).reading rfl (by rw [saving]; rfl) fun queue => ?_
          rw [saving]
          rfl
      | published id =>
          have queued := wellFormed.listening (by simp [saving, Pc.listening])
          obtain ⟨queue, attached⟩ := Option.isSome_iff_exists.mp queued
          obtain ⟨known, found, same⟩ := knows.saving id key event saving
          have before : call.remaining view.event = some (id :: queue.eventQueue) := by
            rw [remaining_queued attached, saving]
            rfl
          refine .handled before found same rfl rfl ?_ (fun listens => listens) (.saved saving)
          simp [remaining, attached, processed, Pc.waiting, found,
            AgentExecutionEvent.endsQueue_of_core same]
  | @yielded fate id event response stored params mapping known =>
      have noted := notify_frame handler call (trimResponse (historyLengthOf params) response)
      refine (noted.trans .advanced).reading (notify_rest _ _ _).2.1 (by rw [mapping]; rfl) fun queue => ?_
      rw [mapping]
      rfl
  | @mapped fate id event response stored handed effects mapping known _ _ _ handedOut =>
      have frame := ((notify_frame handler call response).trans
        (handOutResults_frame handedOut)).trans (afterYield_frame event)
      refine frame.reading ?_ (by rw [mapping]; rfl) fun queue => ?_
      · rw [afterYield_handled]
        rcases handOutResults_cases handedOut with ⟨rfl, _⟩ | ⟨_, _, _, rfl, _⟩ <;>
          exact (notify_rest handler call response).2.1
      · rw [afterYield_waiting known, mapping]
  | closed suspended free =>
      refine .quiet (by rw [suspended]; rfl) rfl rfl ?_ id
      rw [remaining_unqueued free]
      exact remaining_unqueued free
  | continued suspended => exact Frame.advanced.reading rfl (by rw [suspended]; rfl) fun queue => by rw [suspended]; rfl
  | consumed suspended queued known =>
      refine (afterYield_frame _).reading (afterYield_handled _) (by rw [suspended]; rfl) fun queue => ?_
      rw [afterYield_waiting known, suspended]
      rfl
  | cancelAttached loading =>
      exact attachQueue_reading (by rw [loading]; rfl) (unqueued (by simp [loading, Pc.unattached]))
        rfl rfl rfl rfl
  | cancelDirect loading => exact Frame.advanced.reading rfl (by rw [loading]; rfl) fun queue => by rw [loading]; rfl
  | cancelExecuted executed =>
      exact Frame.advanced.reading rfl (by rw [executed]; rfl) fun queue => by rw [executed]; rfl
  | cancelSaved saving => exact Frame.advanced.reading rfl (by rw [saving]; rfl) fun queue => by rw [saving]; rfl
  | resubscribeRefused loading refused =>
      exact .lost (.refused loading refused) (fun _ => by rw [loading]; rfl) rfl rfl
        (left_remaining rfl)
  | resubscribed loading => exact Frame.advanced.reading rfl (by rw [loading]; rfl) fun queue => by rw [loading]; rfl
  | configTaskFound loading => exact Frame.advanced.reading rfl (by rw [loading]; rfl) fun queue => by rw [loading]; rfl
  | misdirected applying => exact .quiet (by rw [applying]; rfl) rfl rfl rfl id

theorem Knows.framed (knows : call.Knows events) (frame : Frame call after)
    (current : ∀ id, after.pc.event = some id → (events id).isSome = true)
    (plain : after.pc.plain = true)
    (handled : call.eventQueue.isSome = true ∨ after.handled = call.handled) : after.Knows events where
  queued queue found id member := by
    have queued := frame.queued
    rw [found] at queued
    obtain ⟨earlier, attached, same⟩ := Option.map_eq_some_iff.mp queued.symm
    exact knows.queued earlier attached id (same ▸ member)
  current := current
  saving id key event saves := by simp [saves, Pc.plain] at plain
  own key event reports := by
    rcases reports with waits | ⟨failure, saves⟩
    · simp [waits, Pc.plain] at plain
    · simp [saves, Pc.plain] at plain
  unqueued free := by
    have unqueued : call.eventQueue = none := by
      have queued := frame.queued
      rw [free] at queued
      exact Option.map_eq_none_iff.mp queued.symm
    rcases handled with attached | same
    · simp [unqueued] at attached
    · rw [frame.received, same]
      exact knows.unqueued unqueued

theorem Knows.moves (knows : call.Knows events) (frame : Frame call after)
    (idle : after.pc.event = none) (plain : after.pc.plain = true)
    (handled : call.eventQueue.isSome = true ∨ after.handled = call.handled) : after.Knows events :=
  knows.framed frame (fun id working => by rw [idle] at working; cases working) plain handled

theorem Knows.shifted {queue : Queue} {id : EventId} {rest : List EventId}
    (knows : call.Knows events) (attached : call.eventQueue = some queue)
    (waiting : queue.eventQueue = id :: rest) : (call.shifted queue rest).Knows events where
  queued other found seen member := by
    cases found
    exact knows.queued queue attached seen (by rw [waiting]; exact List.mem_cons_of_mem _ member)
  current := knows.current
  saving := knows.saving
  own := knows.own
  unqueued := nofun

/-- A call that has just attached its queue. -/
theorem Knows.attached {bus : BusId} (queued : after.eventQueue = some (.new bus))
    (idle : after.pc.event = none) (plain : after.pc.plain = true) : after.Knows events where
  queued queue found id member := by
    cases queued.symm.trans found
    cases member
  current id working := by rw [idle] at working; cases working
  saving id key event saves := by simp [saves, Pc.plain] at plain
  own key event reports := by
    rcases reports with waits | ⟨failure, saves⟩
    · simp [waits, Pc.plain] at plain
    · simp [saves, Pc.plain] at plain
  unqueued free := by rw [queued] at free; cases free

theorem processingFailed_knows {ref : EventRef} {error : String} (knows : call.Knows events)
    (queued : call.eventQueue.isSome = true)
    (failed : call.processingFailed ref error = (after, effects)) : after.Knows events := by
  rcases processingFailed_cases failed with ⟨left, frame, _⟩ | ⟨id, task, _, _, _, _, rfl, _⟩
  · exact knows.moves frame (by rw [left]; rfl) (by rw [left]; rfl) (.inl queued)
  · refine ⟨knows.queued, ?_, ?_, ?_, fun free => absurd queued (by simp [show call.eventQueue = none from free])⟩
    · intro other working
      cases working
    · intro other key event saves
      cases saves
    · rintro key event (waits | ⟨failure, saves⟩)
      · cases waits
        exact ⟨_, rfl⟩
      · cases saves

theorem processed_knows {ref : EventRef} (knows : call.Knows events)
    (queued : call.eventQueue.isSome = true) (event : AgentExecutionEvent)
    (known : ∀ id, ref = .published id → (events id).isSome = true) :
    (call.processed ref event).Knows events := by
  cases ref with
  | own failure => exact knows.moves (processed_frame _ _ _) rfl rfl (.inl queued)
  | published id =>
      exact knows.framed (processed_frame _ _ _) (by rintro _ ⟨⟩; exact known id rfl) rfl (.inl queued)

theorem Resumed.knows (wellFormed : call.WellFormed) (knows : call.Knows view.event)
    (resumed : Resumed handler view pid call fate after effects) : after.Knows view.event := by
  have listens : call.pc.listening = true → call.eventQueue.isSome = true := wellFormed.listening
  cases resumed with
  | answered => exact knows.moves (finish_frame _) rfl rfl (.inr rfl)
  | historySaved =>
      simp only [resolveReferences]
      split <;> exact knows.moves .advanced rfl rfl (.inr rfl)
  | referenceLoaded =>
      split <;> exact knows.moves .advanced rfl rfl (.inr rfl)
  | @contextBuilt message task taskId referenceTasks extensions after effects loading created =>
      cases wellFormed.contextBuilt loading created with
      | configures => exact knows.moves .advanced rfl rfl (.inr rfl)
      | configuresStream => exact .attached rfl rfl rfl
      | runs => exact .attached rfl rfl rfl
  | configSaved saving queued =>
      refine ⟨knows.queued, ?_, ?_, ?_, fun free => knows.unqueued free⟩
      · intro id working
        cases working
      · intro id key event saves
        cases saves
      · rintro key event (waits | ⟨failure, saves⟩)
        · cases waits
        · cases saves
  | configSavedFirst => exact .attached rfl rfl rfl
  | loopEnded pulling =>
      exact knows.moves leaveLoop_frame
        (by rw [leaveLoop_pc]; exact leftPc_of (Pc.event · = none) rfl rfl call)
        (by rw [leaveLoop_pc]; exact leftPc_of (Pc.plain · = true) rfl rfl call)
        (.inr leaveLoop_handled)
  | @forwarded queue id rest event taskId pulling attached waiting known =>
      refine (knows.shifted attached waiting).framed (forward_frame _ _ _ _) ?_
        (forward_pc (Pc.plain · = true) rfl rfl rfl _ rfl _ _ _) (.inl rfl)
      refine forward_pc (fun pc => ∀ other, pc.event = some other → (view.event other).isSome = true)
        (by simp [Pc.event]) (by simp [Pc.event]) (by simp [Pc.event]) id ?_ _ _ _
      rintro _ ⟨⟩
      simp [known]
  | violated pulling attached waiting =>
      exact (knows.shifted attached waiting).moves (stopQueue_frame.trans (finish_frame _)) rfl rfl
        (.inr rfl)
  | @taken queue id rest event pattern after effects pulling attached waiting known own advanced took =>
      have shifted := knows.shifted attached waiting
      have frame := takeEvent_frame { call.shifted queue rest with streamPattern := pattern } id event
      rw [took] at frame
      have working : after.pc.event = some id ∧ after.pc.plain = true := by
        rcases takeEvent_cases took with ⟨target, rfl, rfl⟩ | ⟨taskId, target, rfl, rfl⟩
        · exact ⟨rfl, rfl⟩
        · exact ⟨rfl, rfl⟩
      refine shifted.framed (Frame.advanced.trans frame) ?_ working.2 (.inl rfl)
      intro other same
      cases working.1.symm.trans same
      simp [known]
  | lockFailed waiting _ _ _ failed =>
      exact processingFailed_knows knows (listens (by simp [waiting, Pc.listening])) failed
  | @merged ref key event manager waiting holds resolved result =>
      refine ⟨knows.queued, fun id working => knows.current id ?_, ?_, ?_,
        fun free => knows.unqueued free⟩
      · rw [waiting]
        cases ref <;> exact working
      · intro id other saved saves
        cases saves
        exact ⟨event, resolved, rfl⟩
      · rintro other reported (waits | ⟨failure, saves⟩)
        · cases waits
        · cases saves
          cases resolved
          exact knows.own key event (.inl waiting)
  | @skipped ref key event manager waiting =>
      have managed : ({ call with resultManager := manager }).Knows view.event :=
        ⟨knows.queued, knows.current, knows.saving, knows.own, knows.unqueued⟩
      refine processed_knows managed (listens (by simp [waiting, Pc.listening])) event ?_
      rintro id rfl
      exact knows.current id (by rw [waiting]; rfl)
  | saveFailed saving _ failed =>
      exact processingFailed_knows knows (listens (by simp [saving, Pc.listening])) failed
  | @saved ref key event task saving =>
      refine processed_knows knows (listens (by simp [saving, Pc.listening])) event ?_
      rintro id rfl
      exact knows.current id (by rw [saving]; rfl)
  | @yielded fate id event response stored params mapping known =>
      have noted := notify_frame handler call (trimResponse (historyLengthOf params) response)
      refine knows.framed (noted.trans .advanced) ?_ rfl (.inr (notify_rest _ _ _).2.1)
      rintro _ ⟨⟩
      simp [known]
  | @mapped fate id event response stored handed effects mapping known _ _ _ handedOut =>
      exact knows.moves (((notify_frame handler call response).trans
        (handOutResults_frame handedOut)).trans (afterYield_frame event))
        (afterYield_pc (Pc.event · = none) rfl rfl rfl _ _)
        (afterYield_pc (Pc.plain · = true) rfl rfl rfl _ _) (.inl (listens (by simp [mapping, Pc.listening])))
  | closed => exact knows.moves (finish_frame _) rfl rfl (.inr rfl)
  | consumed =>
      exact knows.moves (afterYield_frame _) (afterYield_pc (Pc.event · = none) rfl rfl rfl _ _)
        (afterYield_pc (Pc.plain · = true) rfl rfl rfl _ _) (.inr (afterYield_handled _))
  | cancelAttached => exact .attached rfl rfl rfl
  | resubscribeRefused =>
      exact knows.moves (stopQueue_frame.trans (finish_frame _)) rfl rfl (.inr rfl)
  | taskAccepted | continued | cancelDirect | cancelExecuted | cancelSaved | resubscribed
  | configTaskFound =>
      exact knows.moves .advanced rfl rfl (.inr rfl)
  | misdirected => exact knows

end

end Call

end A2A.Server
