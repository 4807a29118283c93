import A2A.Server.Semantics.Consumers

namespace A2A.Server

open Library

/-! The inboxes of all calls under the steps of the system. -/

namespace Call

variable {handler : Handler} {view : View} {events : EventHeap} {pid : Pid} {fate : Fate}
  {call after : Call} {effects : List Effect}

def listensOn (bus : BusId) (call : Call) : Bool :=
  call.eventQueue.any (fun queue => queue.attached && queue.eventBus = bus && !queue.stopped)

theorem listensOn_listening {bus : BusId} (listens : call.listensOn bus = true) :
    call.listening = true := by
  cases queued : call.eventQueue with
  | none => simp [listensOn, queued] at listens
  | some queue =>
      simp only [listensOn, queued, Option.any_some, Bool.and_eq_true] at listens
      simpa [Call.listening, queued, listens.1.1] using listens.2

theorem listensOn_iff {bus : BusId} :
    call.listensOn bus = true ↔ call.listening = true ∧ call.bus = some bus := by
  cases queued : call.eventQueue with
  | none => simp [listensOn, Call.listening, queued]
  | some queue =>
      simp only [listensOn, Call.listening, Call.bus, queued, Option.any_some, Option.map_some,
        Bool.and_eq_true, decide_eq_true_eq, Option.some.injEq]
      tauto

theorem receive_received {bus : BusId} {id : EventId} {event : AgentExecutionEvent} :
    (call.receive bus id event).received =
      if call.listensOn bus then call.received ++ [(id, event)] else call.received := by
  cases queued : call.eventQueue with
  | none => simp [receive, listensOn, queued]
  | some queue =>
      by_cases accepts : queue.attached = true ∧ queue.eventBus = bus ∧ queue.stopped = false
      · have listens : call.listensOn bus = true := by simp [listensOn, queued, accepts]
        simp [receive, queued, accepts, listens]
      · have deaf : call.listensOn bus = false := by simpa [listensOn, queued, and_assoc] using accepts
        simp [receive, queued, accepts, deaf]

theorem receive_listensOn {bus : BusId} {id : EventId} {event : AgentExecutionEvent} (other : BusId) :
    (call.receive bus id event).listensOn other = call.listensOn other := by
  simp only [receive, listensOn]
  cases call.eventQueue with
  | none => rfl
  | some queue =>
      simp only [Option.map_some, Option.any_some, Queue.handleEvent]
      split <;> rfl

/-- A resumed step is one of the inbox, or the call gives up and handles nothing more. -/
theorem Reading.steps (knows : call.Knows view.event) (reading : Reading view call fate after) :
    (call.GivesUp view fate ∧ after.received = call.received ∧ after.handled = call.handled ∧
        after.remaining view.event = none) ∨
      Inbox.Step Item.stops (call.inbox view.event) (after.inbox view.event) := by
  cases reading with
  | quiet _ received handled remaining mutes =>
      refine .inr ?_
      simp only [inbox, received, handled, remaining]
      exact .quiet mutes
  | attached _ unqueued received handled remaining listens =>
      refine .inr ?_
      obtain ⟨noneReceived, noneHandled⟩ := knows.unqueued unqueued
      have blank : call.inbox view.event = ⟨[], [], none, false⟩ := by
        simp [inbox, noneReceived, noneHandled, remaining_unqueued unqueued, Call.listening, unqueued]
      rw [blank]
      simp only [inbox, received, handled, noneReceived, noneHandled, remaining, listens]
      exact .attach rfl rfl rfl
  | @handled _ id rest event known waits found same received handled remaining mutes =>
      refine .inr ?_
      have tagged : (call.inbox view.event).waiting =
          some (itemOf (id, event) :: rest.filterMap (EventHeap.tag view.event)) := by
        simp [inbox, waits, EventHeap.tag, found, same, itemOf]
      have step := @Inbox.Step.handle _ Item.stops _ _ _ after.listening tagged mutes
      convert step using 1
      simp only [inbox, received, handled, remaining, List.map_append, List.map_cons, List.map_nil]
      congr 1
      simp only [Item.stops, itemOf, AgentExecutionEvent.core_endsQueue]
      split <;> rfl
  | finished _ waits silent received handled remaining muted =>
      refine .inr ?_
      have tagged : (call.inbox view.event).waiting = some [] := by simp [inbox, waits]
      have step := @Inbox.Step.finish _ Item.stops _ tagged silent
      convert step using 1
      simp only [inbox, received, handled, remaining, muted]
      rfl
  | lost givesUp _ received handled remaining => exact .inl ⟨givesUp, received, handled, remaining⟩

theorem Reading.step (knows : call.Knows view.event) (reading : Reading view call fate after) :
    call.GivesUp view fate ∨
      Inbox.Step Item.stops (call.inbox view.event) (after.inbox view.event) :=
  (reading.steps knows).imp_left And.left

/-- A call that handles nothing more has still handled what it received first. -/
theorem ordered_of_lost (ordered : (call.inbox events).Ordered Item.stops)
    (received : after.received = call.received) (handled : after.handled = call.handled)
    (remaining : after.remaining events = none) : (after.inbox events).Ordered Item.stops := by
  refine ⟨?_, ?_⟩
  · intro items waits
    simp [inbox, remaining] at waits
  · simpa only [inbox, received, handled] using ordered.initial

theorem Reading.ordered (knows : call.Knows view.event) (reading : Reading view call fate after)
    (ordered : (call.inbox view.event).Ordered Item.stops) :
    (after.inbox view.event).Ordered Item.stops := by
  rcases reading.steps knows with ⟨_, received, handled, remaining⟩ | step
  · exact ordered_of_lost ordered received handled remaining
  · exact ordered.step step

theorem waiting_append (pc : Pc) (queue more : List EventId) :
    pc.waiting events (queue ++ more) = (pc.waiting events queue).map (· ++ more) := by
  simp only [Pc.waiting]
  split
  case h_8 | h_9 => split <;> rfl
  all_goals rfl

theorem grows_update {id : EventId} (unknown : events id = none) (event : AgentExecutionEvent) :
    events.Grows (Function.update events id (some event)) := by
  intro other kept found
  have differ : other ≠ id := by
    rintro rfl
    rw [unknown] at found
    cases found
  exact ⟨kept, by rw [Function.update_of_ne differ]; exact found, rfl⟩

/-- What the listeners of a published event add to an inbox. -/
theorem receive_inbox {bus : BusId} {id : EventId} (knows : call.Knows events)
    (unknown : events id = none) (event : AgentExecutionEvent) :
    (call.receive bus id event).inbox (Function.update events id (some event)) =
      if call.listensOn bus then (call.inbox events).receive (itemOf (id, event))
      else call.inbox events := by
  have grows := grows_update unknown event
  rw [← knows.inbox grows]
  cases queued : call.eventQueue with
  | none => simp [inbox, remaining, receive, queued, listensOn, Call.listening]
  | some queue =>
      by_cases accepts : queue.attached = true ∧ queue.eventBus = bus ∧ queue.stopped = false
      · have listens : call.listensOn bus = true := by simp [listensOn, queued, accepts]
        rw [if_pos listens]
        simp only [inbox, Inbox.receive, receive, queued, if_pos accepts, remaining, Option.map_some,
          Option.bind_some, Queue.handleEvent, waiting_append, Option.map_map, Call.listening,
          Option.any_some, List.map_append, List.map_cons, List.map_nil, Inbox.mk.injEq, true_and,
          and_true]
        congr 1
        funext ids
        simp [List.filterMap_append, EventHeap.tag, itemOf]
      · have deaf : call.listensOn bus = false := by simpa [listensOn, queued, and_assoc] using accepts
        rw [deaf]
        simp [inbox, receive, queued, if_neg accepts, remaining, Queue.handleEvent, Call.listening]

theorem receive_knows {bus : BusId} {id : EventId} (knows : call.Knows events)
    (unknown : events id = none) (event : AgentExecutionEvent) :
    (call.receive bus id event).Knows (Function.update events id (some event)) := by
  have kept := knows.grows (grows_update unknown event)
  refine ⟨?_, kept.current, kept.saving, kept.own, ?_⟩
  · intro queue found other member
    obtain ⟨earlier, queued, rfl⟩ := Option.map_eq_some_iff.mp found
    simp only [Queue.handleEvent] at member
    split at member
    · rcases List.mem_append.mp member with old | new
      · exact kept.queued earlier queued other old
      · cases List.mem_singleton.mp new
        simp
    · exact kept.queued earlier queued other member
  · intro free
    have unqueued : call.eventQueue = none := Option.map_eq_none_iff.mp free
    obtain ⟨received, handled⟩ := knows.unqueued unqueued
    exact ⟨by simp [receive, unqueued, received], handled⟩

/-- A call whose queue keeps its events and does not listen to more than before. -/
theorem Overheard.muted (overheard : Overheard call after) (received : after.received = call.received)
    (queued : after.eventQueue.map Queue.eventQueue = call.eventQueue.map Queue.eventQueue)
    (mutes : after.listening = true → call.listening = true) :
    Inbox.Step Item.stops (call.inbox events) (after.inbox events) ∧
      (after.inbox events).waiting = (call.inbox events).waiting := by
  have same : after.remaining events = call.remaining events := by
    rw [remaining, remaining, queued, overheard.pc]
  refine ⟨?_, by simp only [inbox, same]⟩
  simp only [inbox, received, overheard.handled, same]
  exact .quiet mutes

theorem Overheard.knows (overheard : Overheard call after) (knows : call.Knows events)
    (received : after.received = call.received)
    (queued : after.eventQueue.map Queue.eventQueue = call.eventQueue.map Queue.eventQueue) :
    after.Knows events where
  queued queue found id member := by
    rw [found] at queued
    obtain ⟨earlier, attached, same⟩ := Option.map_eq_some_iff.mp queued.symm
    exact knows.queued earlier attached id (same ▸ member)
  current id working := knows.current id (overheard.pc ▸ working)
  saving id key event saves := knows.saving id key event (overheard.pc.symm.trans saves)
  own key event reports := by
    rw [overheard.pc] at reports
    exact knows.own key event reports
  unqueued free := by
    rw [free] at queued
    rw [received, overheard.handled]
    exact knows.unqueued (Option.map_eq_none_iff.mp queued.symm)

theorem receiveFinished_queued (bus : BusId) (call : Call) :
    (call.receiveFinished bus).eventQueue.map Queue.eventQueue =
      call.eventQueue.map Queue.eventQueue := by
  simp only [receiveFinished, Option.map_map]
  congr 1
  funext queue
  simp only [Function.comp, Queue.handleFinished]
  split <;> rfl

theorem removeListeners_queued (bus : BusId) (call : Call) :
    (call.removeListeners bus).eventQueue.map Queue.eventQueue =
      call.eventQueue.map Queue.eventQueue := by
  simp only [removeListeners, Option.map_map]
  congr 1
  funext queue
  simp only [Function.comp, Queue.removeListeners]
  split <;> rfl

theorem receiveFinished_mutes {bus : BusId} (listens : (call.receiveFinished bus).listening = true) :
    call.listening = true := by
  cases queued : call.eventQueue with
  | none => simp [Call.listening, receiveFinished, queued] at listens
  | some queue =>
      simp only [Call.listening, receiveFinished, queued, Option.map_some, Option.any_some,
        Queue.handleFinished] at listens
      split at listens
      · simp [Queue.stop] at listens
      · simpa [Call.listening, queued] using listens

theorem removeListeners_mutes {bus : BusId} (listens : (call.removeListeners bus).listening = true) :
    call.listening = true := by
  cases queued : call.eventQueue with
  | none => simp [Call.listening, removeListeners, queued] at listens
  | some queue =>
      simp only [Call.listening, removeListeners, queued, Option.map_some, Option.any_some,
        Queue.removeListeners] at listens
      split at listens
      · simp at listens
      · simpa [Call.listening, queued] using listens

end Call

/-- The effects that end a bus. -/
def Effect.closes : Effect → Bool
  | .finished _ | .cleanup _ => true
  | _ => false

namespace State

variable {handler : Handler} {state next : State} {label : Label} {pid other : Pid}
  {call after : Call} {effect : Effect} {effects : List Effect} {fate : Fate}

def Knows (state : State) : Prop :=
  ∀ pid call, state.calls pid = some call → call.Knows state.events

/-- What a call still has to handle, and what it has handled. -/
def inbox (state : State) (pid : Pid) : Option (Inbox Item) :=
  (state.calls pid).map (Call.inbox state.events)

theorem apply_grows
    (unknown : ∀ bus id event, effect = .publish bus id event → state.events id = none) :
    EventHeap.Grows state.events (state.apply pid effect).events := by
  cases effect with
  | publish bus id event => exact Call.grows_update (unknown bus id event rfl) event
  | cleanup taskId =>
      simp only [apply]
      cases state.taskIdToBus taskId <;> exact .refl _
  | trim id historyLength =>
      intro other event found
      by_cases same : other = id
      · subst same
        exact ⟨event.trim historyLength, by simp [apply, found], AgentExecutionEvent.core_trim _ _⟩
      · exact ⟨event, by simpa [apply, Function.update_of_ne same] using found, rfl⟩
  | _ => exact .refl _

theorem foldl_grows (silent : ∀ effect ∈ effects, effect.silent = true) :
    EventHeap.Grows state.events (effects.foldl (apply pid) state).events := by
  induction effects generalizing state with
  | nil => exact .refl _
  | cons effect rest ih =>
      simp only [List.forall_mem_cons] at silent
      refine (apply_grows ?_).trans (ih silent.2)
      rintro bus id event rfl
      simp [Effect.silent] at silent

theorem apply_knows (knows : state.Knows)
    (unknown : ∀ bus id event, effect = .publish bus id event → state.events id = none) :
    (state.apply pid effect).Knows := by
  intro other record found
  rw [apply_calls] at found
  obtain ⟨call, present, rfl⟩ := Option.map_eq_some_iff.mp found
  have known := knows other call present
  have grown := known.grows (@apply_grows state pid effect unknown)
  cases effect with
  | publish bus id event => exact Call.receive_knows known (unknown bus id event rfl) event
  | finished bus =>
      exact (Call.receiveFinished_overheard bus).knows grown rfl (Call.receiveFinished_queued bus call)
  | cleanup taskId =>
      cases registered : state.taskIdToBus taskId with
      | none => simpa [Effect.listen, registered] using grown
      | some bus =>
          simpa [Effect.listen, registered] using (Call.removeListeners_overheard bus).knows grown rfl
            (Call.removeListeners_queued bus call)
  | _ => exact grown

theorem setCall_knows (knows : state.Knows) (own : call.Knows state.events) :
    (state.setCall pid call).Knows := by
  intro other record found
  by_cases same : other = pid
  · subst same
    cases setCall_self.symm.trans found
    exact own
  · rw [setCall_of_ne same] at found
    exact knows other record found

theorem foldl_knows (knows : state.Knows) (silent : ∀ effect ∈ effects, effect.silent = true) :
    (effects.foldl (apply pid) state).Knows := by
  induction effects generalizing state with
  | nil => exact knows
  | cons effect rest ih =>
      simp only [List.forall_mem_cons] at silent
      refine ih (apply_knows knows ?_) silent.2
      rintro bus id event rfl
      simp [Effect.silent] at silent

/-- A call at its start has received nothing. -/
theorem begin_blank {view : View} (events : EventHeap) (request : Request) (context : ServerCallContext)
    (requestedExtensions : Option (List String)) (fresh : Fresh) :
    let call := handler.begin view request context requestedExtensions fresh
    call.Knows events ∧ call.received = [] ∧ call.handled = [] ∧
      ((call.remaining events = none ∧ call.listening = false) ∨ call.remaining events = some []) := by
  have begun := @Call.begin_cases handler view request context requestedExtensions fresh
  generalize handler.begin view request context requestedExtensions fresh = call at begun ⊢
  have unqueued : ∀ {call : Call}, call.eventQueue = none → call.pc.event = none →
      call.pc.plain = true → call.received = [] → call.handled = [] →
      call.Knows events ∧ call.received = [] ∧ call.handled = [] ∧
      ((call.remaining events = none ∧ call.listening = false) ∨ call.remaining events = some []) := by
    intro call free idle plain received handled
    refine ⟨⟨by simp [free], by simp [idle], ?_, ?_, fun _ => ⟨received, handled⟩⟩, received, handled,
      .inl ⟨Call.remaining_unqueued free, by simp [Call.listening, free]⟩⟩
    · intro id key event saves
      simp [saves, Pc.plain] at plain
    · rintro key event (waits | ⟨failure, saves⟩)
      · simp [waits, Pc.plain] at plain
      · simp [saves, Pc.plain] at plain
  cases begun with
  | refused | follows | idles => exact unqueued rfl rfl rfl rfl rfl
  | starts =>
      simp only [Call.resolveReferences]
      split <;> exact unqueued rfl rfl rfl rfl rfl
  | loads counter => rcases counter with rfl | rfl | rfl | rfl <;> exact unqueued rfl rfl rfl rfl rfl
  | subscribes => exact ⟨.attached rfl rfl rfl, rfl, rfl, .inr rfl⟩

/-- A resumed call changes no other record, and no event but by a trim. -/
theorem commit_resumed (wellFormed : call.WellFormed)
    (resumed : call.resume handler (state.view pid (handler.scope call.context)) pid fate =
      some (after, effects)) :
    (state.commit pid (after, effects)).calls = Function.update state.calls pid (some after) ∧
      EventHeap.Grows state.events (state.commit pid (after, effects)).events ∧
      (state.commit pid (after, effects)).publications = state.publications := by
  have silent := ((Call.resume_cases resumed).busUse wellFormed).silent
  refine ⟨?_, @foldl_grows (state.setCall pid after) pid effects silent,
    foldl_publications_silent silent⟩
  funext other
  rw [commit_calls_silent silent, Function.update_apply]

theorem knows_step (wellFormed : state.WellFormed) (knows : state.Knows)
    (stepped : state.step handler label = some next) : next.Knows := by
  obtain ⟨after, effects, steppedTo, rfl⟩ := step_cases stepped
  have executes : ∀ {pid : Pid} {call : Call} {execution : Execution}, state.calls pid = some call →
      (state.setCall pid { call with execution := some execution }).Knows := by
    intro pid call execution found
    have own := knows pid call found
    exact setCall_knows knows ⟨own.queued, own.current, own.saving, own.own, own.unqueued⟩
  cases steppedTo with
  | begun => exact setCall_knows knows (begin_blank _ _ _ _ _).1
  | @resumed pid call fate after effects found resumed =>
      have own := wellFormed pid call found
      have cases' := Call.resume_cases resumed
      exact foldl_knows (setCall_knows knows (cases'.knows own (knows pid call found)))
        (cases'.busUse own).silent
  | @published pid call bus id event found _ unknown =>
      rw [commit_cons, setCall_eq_self found]
      exact apply_knows knows (by rintro _ _ _ ⟨⟩; exact unknown)
  | @finishedBus pid call bus found =>
      rw [commit_cons, setCall_eq_self found]
      exact apply_knows knows (by simp)
  | executorReturned found | executorThrew found => exact executes found
  | @reaped pid call execution fresh changed effects found executing unknownTask unknownStatus differ
      reaped =>
      have kept := @executes pid call changed found
      refine commit_settles (Execution.reap_settles reaped) unknownStatus differ kept ?_ ?_ ?_
      · rintro task -
        exact apply_knows kept (by rintro _ _ _ ⟨⟩; exact unknownTask)
      · rintro current data _ unknown known
        exact apply_knows known (by rintro _ _ _ ⟨⟩; exact unknown)
      · rintro _ -
        exact apply_knows (apply_knows kept (by simp)) (by simp)
  | @abandoned pid call after found abandoned =>
      obtain ⟨_, _, rfl⟩ := Call.abandon_cases abandoned
      refine setCall_knows knows ((knows pid call found).moves
        (Call.stopQueue_frame.trans (Call.finish_frame _)) rfl rfl (.inr rfl))

/-- The step keeps its call from handling what it has received. -/
def GivesUp (handler : Handler) (state : State) (label : Label) : Prop :=
  match label.action with
  | .resume fate => ∃ call, state.calls label.pid = some call ∧
      call.GivesUp (state.view label.pid (handler.scope call.context)) fate
  | .abandon => True
  | _ => False

theorem inbox_of (found : state.calls pid = some call) :
    state.inbox pid = some (call.inbox state.events) := by
  rw [inbox, found]
  rfl

theorem inbox_publish {bus : BusId} {id : EventId} {event : AgentExecutionEvent}
    (knows : state.Knows) (unknown : state.events id = none) (found : state.calls other = some call) :
    (state.apply pid (.publish bus id event)).inbox other =
      some (if call.listensOn bus then (call.inbox state.events).receive (itemOf (id, event))
        else call.inbox state.events) := by
  have record : (state.apply pid (.publish bus id event)).calls other =
      some (call.receive bus id event) := by
    rw [apply_calls, found]
    rfl
  rw [inbox_of record]
  exact congrArg some (Call.receive_inbox (knows other call found) unknown event)

/-- Closing a bus at most makes a reader stop listening. -/
theorem inbox_muted (closes : effect.closes = true) (found : state.calls other = some call) :
    ∃ after, (state.apply pid effect).calls other = some after ∧ call.Overheard after ∧
      (state.apply pid effect).events = state.events ∧
      Inbox.Step Item.stops (call.inbox state.events) (after.inbox state.events) ∧
      (after.inbox state.events).waiting = (call.inbox state.events).waiting := by
  have record : (state.apply pid effect).calls other =
      some (effect.listen state.taskIdToBus call) := by
    rw [apply_calls, found]
    rfl
  refine ⟨_, record, Call.listen_overheard _ _, ?_⟩
  cases effect with
  | finished bus =>
      exact ⟨rfl, (Call.receiveFinished_overheard bus).muted rfl (Call.receiveFinished_queued bus call)
        Call.receiveFinished_mutes⟩
  | cleanup taskId =>
      cases registered : state.taskIdToBus taskId with
      | none =>
          simp only [apply, Effect.listen, registered]
          exact ⟨trivial, .quiet fun listens => listens, rfl⟩
      | some bus =>
          simp only [apply, Effect.listen, registered]
          exact ⟨rfl, (Call.removeListeners_overheard bus).muted rfl
            (Call.removeListeners_queued bus call) Call.removeListeners_mutes⟩
  | _ => cases closes

section

variable {before : Inbox Item}

theorem publish_inbox {bus : BusId} {id : EventId} {event : AgentExecutionEvent}
    (knows : state.Knows) (unknown : state.events id = none)
    (found : state.inbox other = some before) :
    ∃ after, (state.apply pid (.publish bus id event)).inbox other = some after ∧
      Inbox.Step Item.stops before after := by
  obtain ⟨call, present, rfl⟩ := Option.map_eq_some_iff.mp found
  refine ⟨_, inbox_publish knows unknown present, ?_⟩
  split
  · rename_i listens
    exact .receive _ (Call.listensOn_listening listens)
  · exact .quiet fun listens => listens

theorem mute_inbox (closes : effect.closes = true) (found : state.inbox other = some before) :
    ∃ after, (state.apply pid effect).inbox other = some after ∧
      Inbox.Step Item.stops before after := by
  obtain ⟨call, present, rfl⟩ := Option.map_eq_some_iff.mp found
  obtain ⟨after, record, _, events, step, _⟩ := inbox_muted closes present
  exact ⟨_, by rw [inbox_of record, events], step⟩

/-- One step of the system is a few steps of each inbox, unless its reader gives up. -/
theorem inbox_step (wellFormed : state.WellFormed) (knows : state.Knows)
    (stepped : state.step handler label = some next) (found : state.inbox other = some before)
    (loyal : other = label.pid → ¬ state.GivesUp handler label) :
    ∃ after, next.inbox other = some after ∧
      Relation.ReflTransGen (Inbox.Step Item.stops) before after := by
  obtain ⟨after, effects, steppedTo, rfl⟩ := step_cases stepped
  have executes : ∀ {pid : Pid} {call : Call} {execution : Execution}, state.calls pid = some call →
      (state.setCall pid { call with execution := some execution }).Knows ∧
      (state.setCall pid { call with execution := some execution }).inbox other = some before := by
    intro pid call execution present
    have own := knows pid call present
    refine ⟨setCall_knows knows ⟨own.queued, own.current, own.saving, own.own, own.unqueued⟩, ?_⟩
    by_cases same : other = pid
    · subst same
      rw [inbox_of present] at found
      rw [inbox_of setCall_self]
      exact found
    · rw [inbox, setCall_of_ne same]
      exact found
  cases steppedTo with
  | @begun pid request context requestedExtensions fresh absent =>
      have differ : other ≠ pid := by
        rintro rfl
        simp [inbox, absent] at found
      refine ⟨before, ?_, .refl⟩
      rw [commit_nil, inbox, setCall_of_ne differ]
      exact found
  | @resumed pid call fate after effects present resumed =>
      obtain ⟨calls, grows, _⟩ := commit_resumed (wellFormed pid call present) resumed
      have records : ∀ {record : Call},
          (state.commit pid (after, effects)).calls other = some record → record.Knows state.events →
          (state.commit pid (after, effects)).inbox other = some (record.inbox state.events) := by
        intro record stored own
        rw [inbox_of stored, own.inbox grows]
      by_cases same : other = pid
      · subst same
        cases (inbox_of present).symm.trans found
        have cases' := Call.resume_cases resumed
        have own := knows other call present
        refine ⟨_, records (by rw [calls, Function.update_self])
          (cases'.knows (wellFormed other call present) own), ?_⟩
        rcases (cases'.reads (wellFormed other call present) own).step own with gives | step
        · exact absurd ⟨call, present, gives⟩ (loyal rfl)
        · exact .single step
      · obtain ⟨call, stored, rfl⟩ := Option.map_eq_some_iff.mp found
        exact ⟨_, records (by rw [calls, Function.update_of_ne same, stored])
          (knows other call stored), .refl⟩
  | @published pid call bus id event present _ unknown =>
      rw [commit_cons, setCall_eq_self present]
      obtain ⟨after, arrived, step⟩ := publish_inbox knows unknown found
      exact ⟨after, arrived, .single step⟩
  | @finishedBus pid call bus present =>
      rw [commit_cons, setCall_eq_self present]
      obtain ⟨after, arrived, step⟩ := @mute_inbox state pid other (.finished bus) before rfl found
      exact ⟨after, arrived, .single step⟩
  | executorReturned present | executorThrew present =>
      exact ⟨before, (executes present).2, .refl⟩
  | @reaped pid call execution fresh changed effects present executing unknownTask unknownStatus differ
      reaped =>
      obtain ⟨kept, same⟩ := @executes pid call changed present
      have published : ∀ {current : State} {bus : BusId} {id : EventId} {event : AgentExecutionEvent},
          current.events id = none →
          (current.Knows ∧ ∃ after, current.inbox other = some after ∧
            Relation.ReflTransGen (Inbox.Step Item.stops) before after) →
          (current.apply pid (.publish bus id event)).Knows ∧
            ∃ after, (current.apply pid (.publish bus id event)).inbox other = some after ∧
              Relation.ReflTransGen (Inbox.Step Item.stops) before after := by
        rintro current bus id event unknown ⟨known, middle, arrived, steps⟩
        obtain ⟨after, later, step⟩ := publish_inbox known unknown arrived
        exact ⟨apply_knows known (by rintro _ _ _ ⟨⟩; exact unknown), after, later, steps.tail step⟩
      refine (@commit_settles (fun current => current.Knows ∧ ∃ after,
        current.inbox other = some after ∧ Relation.ReflTransGen (Inbox.Step Item.stops) before after)
        _ _ _ _ _ _ _ _ (Execution.reap_settles reaped) unknownStatus differ
        ⟨kept, before, same, .refl⟩ ?_ ?_ ?_).2
      · exact fun task => published unknownTask
      · exact fun current data _ => published
      · rintro _ -
        obtain ⟨middle, arrived, one⟩ :=
          @mute_inbox _ pid other (.finished execution.eventBus) before rfl same
        obtain ⟨after, later, two⟩ :=
          @mute_inbox _ pid other (.cleanup execution.requestContext.taskId) middle rfl arrived
        exact ⟨apply_knows (apply_knows kept (by simp)) (by simp), after, later,
          (Relation.ReflTransGen.single one).tail two⟩
  | @abandoned pid call after present abandoned =>
      have differ : other ≠ pid := fun same => loyal same trivial
      refine ⟨before, ?_, .refl⟩
      rw [commit_nil, inbox, setCall_of_ne differ]
      exact found

/-- Whatever happens, a reader has handled what it received first, and has skipped nothing as
long as it goes on. -/
def Ordered (state : State) : Prop :=
  ∀ pid inbox, state.inbox pid = some inbox → inbox.Ordered Item.stops

theorem ordered_step (wellFormed : state.WellFormed) (knows : state.Knows)
    (ordered : state.Ordered) (stepped : state.step handler label = some next) : next.Ordered := by
  intro other reached arrived
  have loyal : ∀ {before : Inbox Item}, state.inbox other = some before →
      (other = label.pid → ¬ state.GivesUp handler label) → reached.Ordered Item.stops := by
    intro before found loyal
    obtain ⟨after, same, steps⟩ := inbox_step wellFormed knows stepped found loyal
    cases arrived.symm.trans same
    exact (ordered other before found).steps steps
  by_cases own : other = label.pid
  · subst own
    obtain ⟨after, effects, steppedTo, rfl⟩ := step_cases stepped
    cases steppedTo with
    | @begun pid request context requestedExtensions fresh absent =>
        obtain ⟨call, found, rfl⟩ := Option.map_eq_some_iff.mp arrived
        cases setCall_self.symm.trans found
        obtain ⟨_, received, handled, remaining⟩ := @begin_blank handler
          (state.view pid (handler.scope context)) state.events request context requestedExtensions fresh
        refine ⟨?_, by simp [Call.inbox, received, handled, takeThrough]⟩
        intro items waits
        rcases remaining with ⟨nothing, _⟩ | nothing
        · simp [Call.inbox, nothing] at waits
        · simp only [Call.inbox, commit_nil, setCall_events, nothing, Option.map_some,
            List.filterMap_nil, Option.some.injEq] at waits
          subst waits
          simp [Call.inbox, received, handled]
    | @resumed pid call fate after effects present resumed =>
        obtain ⟨calls, grows, _⟩ := commit_resumed (wellFormed pid call present) resumed
        have cases' := Call.resume_cases resumed
        have own := knows pid call present
        have record : (state.commit pid (after, effects)).inbox pid = some (after.inbox state.events) := by
          rw [inbox_of (by rw [calls, Function.update_self])]
          exact congrArg some ((cases'.knows (wellFormed pid call present) own).inbox grows)
        cases arrived.symm.trans record
        exact (cases'.reads (wellFormed pid call present) own).ordered own
          (ordered pid _ (inbox_of present))
    | @abandoned pid call after present abandoned =>
        obtain ⟨_, _, rfl⟩ := Call.abandon_cases abandoned
        rw [commit_nil, inbox_of setCall_self, Option.some.injEq] at arrived
        subst arrived
        exact Call.ordered_of_lost (ordered pid _ (inbox_of present)) rfl rfl (Call.left_remaining rfl)
    | published found | finishedBus found | executorReturned found | executorThrew found
    | reaped found => exact loyal (inbox_of found) fun _ gives => gives.elim
  · cases found : state.inbox other with
    | some before => exact loyal found fun same => absurd same own
    | none =>
        obtain ⟨call, present, _⟩ := Option.map_eq_some_iff.mp arrived
        rcases calls_step stepped present with same | ⟨before, earlier⟩
        · exact absurd same own
        · rw [inbox_of earlier] at found
          cases found

end

end State

end A2A.Server
