import A2A.Server.Semantics.Absorption

namespace A2A.Server

open Library

/-! What a client rebuilds from the stream of a resubscription.

The stream starts with the stored task and goes on with the events of the bus; a client that merges
them by the rules of the store holds a replica of the artifacts.
-/

/-- The event that a response of a stream stands for. -/
def AgentExecutionEvent.ofStreamResponse : StreamResponse → AgentExecutionEvent
  | .message value => .message value
  | .task value => .task value
  | .statusUpdate value => .statusUpdate value
  | .artifactUpdate value => .artifactUpdate value

@[simp] theorem AgentExecutionEvent.ofStreamResponse_toStreamResponse (event : AgentExecutionEvent) :
    AgentExecutionEvent.ofStreamResponse event.toStreamResponse = event := by
  cases event <;> rfl

/-- Where a resubscription may be once it has loaded the task. -/
def Pc.relays : Pc → Bool
  | .suspended _ | .pull | .finished => true
  | _ => false

/-- The artifacts that a client has rebuilt from what a stream has yielded. -/
def replica (taskId : String) (yielded : List StreamResponse) : Option (List Artifact) :=
  (yielded.map AgentExecutionEvent.ofStreamResponse).foldl (AgentExecutionEvent.absorb taskId) none

theorem replica_append (taskId : String) (yielded : List StreamResponse) (event : AgentExecutionEvent) :
    replica taskId (yielded ++ [event.toStreamResponse]) = event.absorb taskId (replica taskId yielded) := by
  simp [replica]

namespace Call

/-- A resubscription to the task yields nothing before it has loaded the task, and then the task. -/
structure Subscribes (taskId : String) (call : Call) : Prop where
  request : call.request = .resubscribe taskId
  counter : call.pc = .resubscribeLoad ∧ call.yielded = [] ∨ call.pc.relays = true ∧ call.yielded ≠ [] ∨
    call.pc = .finished

/-- What a resumed step of a resubscription does to what it has yielded and to what it has still to
look at. -/
inductive Relayed (view : View) (taskId : String) (call : Call) : Fate → Call → Prop
  | silent {fate after} : after.yielded = call.yielded →
      after.coming view.event taskId = call.coming view.event taskId → Relayed view taskId call fate after
  | refused {fate after} : call.pc = .resubscribeLoad → after.yielded = call.yielded →
      Relayed view taskId call fate after
  | loaded {after task} : call.pc = .resubscribeLoad → view.load taskId = some task →
      after.yielded = call.yielded ++ [.task task] →
      after.coming view.event taskId = call.coming view.event taskId → Relayed view taskId call .ok after
  | forwarded {fate after} {event : AgentExecutionEvent} : call.yielded ≠ [] →
      call.coming view.event taskId =
        [event.core].filter (AgentExecutionEvent.bearsArtifacts taskId) ++ after.coming view.event taskId →
      after.yielded = (if event.target = some taskId then call.yielded ++ [event.toStreamResponse]
        else call.yielded) → Relayed view taskId call fate after

variable {handler : Handler} {view : View} {events : EventHeap} {pid : Pid} {fate : Fate}
  {call after : Call} {effects : List Effect} {taskId : String} {bus : BusId} {id : EventId}
  {event : AgentExecutionEvent}

theorem leaveLoop_yielded : call.leaveLoop.yielded = call.yielded := by
  simp only [leaveLoop]
  split
  · split
    · split <;> rfl
    · split <;> rfl
  · rfl
  · rfl

theorem afterYield_yielded (event : AgentExecutionEvent) : (call.afterYield event).yielded = call.yielded := by
  simp only [afterYield]
  split
  · exact leaveLoop_yielded
  · rfl

/-- The event at the head of the queue is the first of those that are coming. -/
theorem coming_handled {rest : List EventId} (ahead : call.remaining events = some (id :: rest))
    (known : events id = some event)
    (remaining : after.remaining events = if event.endsQueue then none else some rest) :
    call.coming events taskId =
      [event.core].filter (AgentExecutionEvent.bearsArtifacts taskId) ++ after.coming events taskId := by
  have waits : (call.inbox events).waiting = some ((id, event.core) :: rest.filterMap (EventHeap.tag events)) := by
    rw [inbox, ahead, Option.map_some, List.filterMap_cons_some (by rw [EventHeap.tag, known]; rfl)]
  have next : (after.inbox events).waiting =
      if Item.stops (id, event.core) then none else some (rest.filterMap (EventHeap.tag events)) := by
    simp only [inbox, remaining, Item.stops, AgentExecutionEvent.core_endsQueue]
    split <;> rfl
  have split := @Inbox.upcoming_handle _ Item.stops _ _ _ (after.inbox events).listening
    (after.inbox events).handled waits
  rw [coming, split, List.map_cons, ← List.singleton_append, List.filter_append, coming,
    Inbox.upcoming, Inbox.upcoming, next]

theorem coming_of_remaining (same : after.remaining events = call.remaining events) :
    after.coming events taskId = call.coming events taskId :=
  coming_of_waiting (by simp only [inbox, same])

theorem leftPc_resubscribed (asked : call.request = .resubscribe taskId) : call.leftPc = .finished := by
  rw [leftPc, asked]

theorem afterYield_relays (asked : call.request = .resubscribe taskId) (event : AgentExecutionEvent) :
    (call.afterYield event).pc.relays = true := by
  simp only [afterYield]
  split
  · rw [leaveLoop_pc, leftPc_resubscribed asked]
    rfl
  · rfl

theorem forward_relays (asked : call.request = .resubscribe taskId) (id : EventId)
    (event : AgentExecutionEvent) : (call.forward taskId id event).pc.relays = true := by
  simp only [forward]
  split
  · rfl
  · split
    · rw [leaveLoop_pc]
      exact congrArg Pc.relays (@leftPc_resubscribed { call with handled := _ } taskId asked)
    · rfl

theorem coming_of_left (left : call.pc = .finished) : call.coming events taskId = [] :=
  coming_of_nothing (by rw [left_remaining left]; rfl)

theorem Subscribes.relayed (subscribes : call.Subscribes taskId)
    (resumed : Resumed handler view pid call fate after effects) :
    Relayed view taskId call fate after ∧ after.Subscribes taskId := by
  have request := subscribes.request
  have apart : ∀ {counter : Pc}, call.pc = counter → counter ≠ .resubscribeLoad →
      counter.relays = false → False := by
    intro counter same other unrelayed
    rcases subscribes.counter with ⟨loading, _⟩ | ⟨relays, _⟩ | finished
    · exact other (same.symm.trans loading)
    · rw [same, unrelayed] at relays
      cases relays
    · rw [same] at finished
      rw [finished] at unrelayed
      cases unrelayed
  have told : ∀ {counter : Pc}, call.pc = counter → counter ≠ .resubscribeLoad → counter ≠ .finished →
      call.yielded ≠ [] := by
    intro counter same other unfinished
    rcases subscribes.counter with ⟨loading, _⟩ | ⟨_, told⟩ | finished
    · exact (other (same.symm.trans loading)).elim
    · exact told
    · exact (unfinished (same.symm.trans finished)).elim
  cases resumed with
  | answered prepares =>
      refine (apart rfl ?_ ?_).elim
      · intro loading
        rw [loading] at prepares
        cases prepares
      · cases counter : call.pc with
        | suspended | pull | finished =>
            rw [counter] at prepares
            cases prepares
        | _ => rfl
  | taskAccepted counter | historySaved counter | referenceLoaded counter | contextBuilt counter
  | configSaved counter | configSavedFirst counter | lockFailed counter | merged counter | skipped counter
  | saveFailed counter | saved counter | yielded counter | mapped counter | cancelAttached counter
  | cancelDirect counter | cancelExecuted counter | cancelSaved counter | configTaskFound counter
  | misdirected counter =>
      refine (apart counter ?_ rfl).elim
      intro same
      cases same
  | loopEnded counter attached empty =>
      have left : call.leaveLoop.pc = .finished := by
        rw [leaveLoop_pc, leftPc_resubscribed request]
      have nothing : call.remaining view.event = some [] := by
        rw [remaining_queued attached, counter, empty]
        rfl
      refine ⟨.silent leaveLoop_yielded ?_, leaveLoop_frame.request.trans request, .inr (.inr left)⟩
      rw [coming_of_left left, coming_of_nothing (by rw [nothing]; rfl)]
  | @forwarded queue id rest event own counter attached waiting known asked =>
      cases request.symm.trans asked
      have frame := forward_frame (call.shifted queue rest) taskId id event
      have ahead : call.remaining view.event = some (id :: rest) := by
        rw [remaining_queued attached, counter, waiting]
        rfl
      have queued : ((call.shifted queue rest).forward taskId id event).eventQueue.map Queue.eventQueue =
          some rest := by
        rw [frame.queued]
        rfl
      have goesOn : ((call.shifted queue rest).forward taskId id event).remaining view.event =
          if event.endsQueue then none else some rest := by
        rw [remaining, queued, Option.bind_some]
        simp only [forward]
        by_cases target : event.target = some taskId
        · rw [if_pos target]
          simp [Pc.waiting, known]
        · rw [if_neg target]
          cases ends : event.endsQueue with
          | true =>
              rw [if_pos rfl, if_pos rfl, leaveLoop_pc]
              exact leftPc_waiting rest
          | false => rfl
      have yields : ((call.shifted queue rest).forward taskId id event).yielded =
          if event.target = some taskId then call.yielded ++ [event.toStreamResponse]
          else call.yielded := by
        simp only [forward]
        split
        · rfl
        · split
          · exact leaveLoop_yielded
          · rfl
      have heard := told counter (by simp) (by simp)
      refine ⟨.forwarded heard (coming_handled ahead known goesOn) yields, frame.request.trans request,
        .inr (.inl ⟨@forward_relays (call.shifted queue rest) taskId request id event, ?_⟩)⟩
      rw [yields]
      split
      · simp
      · exact heard
  | violated _ _ _ _ streams => simp [isStream, request] at streams
  | taken _ _ _ _ own => simp [isResubscribe, request] at own
  | closed counter unqueued =>
      refine ⟨.silent rfl ?_, request, .inr (.inr rfl)⟩
      rw [coming_of_left rfl, coming_of_nothing (by rw [remaining_unqueued unqueued]; rfl)]
  | continued counter attached =>
      refine ⟨.silent rfl (coming_of_remaining ?_), request,
        .inr (.inl ⟨rfl, told counter (by simp) (by simp)⟩)⟩
      rw [remaining, remaining, counter]
      rfl
  | @consumed queue id event counter attached known =>
      have frame : Frame call (call.afterYield event) := afterYield_frame event
      refine ⟨.silent (afterYield_yielded event) (coming_of_remaining ?_), frame.request.trans request,
        .inr (.inl ⟨afterYield_relays request event, ?_⟩)⟩
      · rw [remaining, remaining, frame.queued, attached, counter]
        exact afterYield_waiting known _
      · rw [afterYield_yielded]
        exact told counter (by simp) (by simp)
  | resubscribeRefused counter => exact ⟨.refused counter rfl, request, .inr (.inr rfl)⟩
  | @resubscribed task counter loads =>
      refine ⟨.loaded counter (by rw [request] at loads; exact loads) rfl (coming_of_remaining ?_), request,
        .inr (.inl ⟨rfl, by simp⟩)⟩
      rw [remaining, remaining, counter]
      rfl

end Call

/-- What an observer of a task has been shown, and the artifact events it is still going to be shown. -/
structure Sight where
  request : Request
  context : ServerCallContext
  pc : Pc
  yielded : List StreamResponse
  ahead : List AgentExecutionEvent

def Call.sight (events : EventHeap) (taskId : String) (call : Call) : Sight where
  request := call.request
  context := call.context
  pc := call.pc
  yielded := call.yielded
  ahead := call.coming events taskId

namespace State

variable {handler : Handler} {state : State} {pid observer : Pid} {call after : Call}
  {effects : List Effect} {fate : Fate} {taskId : String} {bus : BusId} {id : EventId}
  {event : AgentExecutionEvent}

def sight (taskId : String) (state : State) (observer : Pid) : Option Sight :=
  (state.calls observer).map (Call.sight state.events taskId)

/-- The call of the process is going to handle what the bus dispatches now. -/
def Hears (bus : BusId) (state : State) (observer : Pid) : Prop :=
  ∃ call, state.calls observer = some call ∧ call.listensOn bus = true ∧
    (call.inbox state.events).Open Item.stops

theorem sight_of (found : state.calls observer = some call) :
    state.sight taskId observer = some (call.sight state.events taskId) := by
  rw [sight, found, Option.map_some]

/-- A published event comes last to whoever hears it. -/
theorem publish_sight_of_hears (knows : state.Knows) (unknown : state.events id = none)
    (hears : state.Hears bus observer) :
    (state.apply pid (.publish bus id event)).sight taskId observer =
      (state.sight taskId observer).map fun sight => { sight with
        ahead := sight.ahead ++ [event.core].filter (AgentExecutionEvent.bearsArtifacts taskId) } := by
  obtain ⟨call, found, listens, open'⟩ := hears
  have record : (state.apply pid (.publish bus id event)).calls observer =
      some (call.receive bus id event) := by
    rw [apply_calls, found]
    rfl
  have inbox := @Call.receive_inbox state.events call bus id (knows observer call found) unknown event
  rw [if_pos listens] at inbox
  have ahead : (call.receive bus id event).coming (Function.update state.events id (some event)) taskId =
      call.coming state.events taskId ++
        [event.core].filter (AgentExecutionEvent.bearsArtifacts taskId) := by
    rw [Call.coming, inbox, Inbox.upcoming_receive open', List.map_append, List.filter_append]
    rfl
  rw [sight_of record, sight_of found, Option.map_some]
  exact congrArg some (congrArg (Sight.mk _ _ _ _) ahead)

theorem publish_sight_of_deaf (knows : state.Knows) (unknown : state.events id = none)
    (deaf : ¬ state.Hears bus observer) :
    (state.apply pid (.publish bus id event)).sight taskId observer = state.sight taskId observer := by
  cases found : state.calls observer with
  | none =>
      have record : (state.apply pid (.publish bus id event)).calls observer = none := by
        rw [apply_calls, found]
        rfl
      rw [sight, record, sight, found]
      rfl
  | some call =>
      have record : (state.apply pid (.publish bus id event)).calls observer =
          some (call.receive bus id event) := by
        rw [apply_calls, found]
        rfl
      have inbox := @Call.receive_inbox state.events call bus id (knows observer call found) unknown event
      have ahead : (call.receive bus id event).coming (Function.update state.events id (some event)) taskId =
          call.coming state.events taskId := by
        rw [Call.coming, inbox]
        split
        · rename_i listens
          have closed : ¬ (call.inbox state.events).Open Item.stops := fun open' =>
            deaf ⟨call, found, listens, open'⟩
          rw [Inbox.upcoming_receive_closed (Call.listensOn_listening listens) closed]
          rfl
        · rfl
      rw [sight_of record, sight_of found]
      exact congrArg some (congrArg (Sight.mk _ _ _ _) ahead)

theorem publish_sight_of_spares (knows : state.Knows) (unknown : state.events id = none)
    (spares : event.bearsArtifacts taskId = false) :
    (state.apply pid (.publish bus id event)).sight taskId observer = state.sight taskId observer := by
  have silent : [event.core].filter (AgentExecutionEvent.bearsArtifacts taskId) = [] := by
    simp [spares]
  by_cases hears : state.Hears bus observer
  · rw [publish_sight_of_hears knows unknown hears, silent]
    simp only [List.append_nil]
    exact Option.map_id'
  · exact publish_sight_of_deaf knows unknown hears

theorem closes_sight {effect : Effect} (closes : effect.closes = true) :
    (state.apply pid effect).sight taskId observer = state.sight taskId observer := by
  cases found : state.calls observer with
  | none =>
      have record : (state.apply pid effect).calls observer = none := by
        rw [apply_calls, found]
        rfl
      rw [sight, record, sight, found]
      rfl
  | some call =>
      obtain ⟨after, record, overheard, events, _, waiting⟩ :=
        @inbox_muted state pid observer call effect closes found
      rw [sight_of record, sight_of found, events, Call.sight, overheard.request, overheard.context,
        overheard.pc, overheard.yielded, Call.coming_of_waiting waiting]
      rfl

theorem rephased_sight {execution : Option Execution} (found : state.calls pid = some call) :
    (state.setCall pid { call with execution }).sight taskId observer = state.sight taskId observer ∧
      ((state.setCall pid { call with execution }).Hears bus observer ↔ state.Hears bus observer) := by
  by_cases same : observer = pid
  · subst same
    refine ⟨?_, ?_, ?_⟩
    · rw [sight_of setCall_self, sight_of found]
      rfl
    · intro hears
      obtain ⟨record, present, facts⟩ := hears
      cases setCall_self.symm.trans present
      exact ⟨call, found, facts⟩
    · intro hears
      obtain ⟨record, present, facts⟩ := hears
      cases found.symm.trans present
      exact ⟨_, setCall_self, facts⟩
  · have record : (state.setCall pid { call with execution }).calls observer = state.calls observer :=
      setCall_of_ne same
    refine ⟨?_, ?_⟩
    · rw [sight, record]
      rfl
    · rw [Hears, record]
      rfl

/-- A resumed step of one call is nothing to the others. -/
theorem resumed_sight (wellFormed : state.WellFormed) (knows : state.Knows)
    (found : state.calls pid = some call)
    (resumed : call.resume handler (state.view pid (handler.scope call.context)) pid fate =
      some (after, effects)) :
    (state.commit pid (after, effects)).sight taskId observer =
      if observer = pid then some (after.sight state.events taskId) else state.sight taskId observer := by
  have own := wellFormed pid call found
  obtain ⟨calls, grows, _⟩ := commit_resumed own resumed
  have inbox : ∀ {record : Call}, record.Knows state.events →
      record.sight (state.commit pid (after, effects)).events taskId = record.sight state.events taskId := by
    intro record known
    rw [Call.sight, Call.coming, known.inbox grows]
    rfl
  by_cases same : observer = pid
  · rw [if_pos same, same, sight, calls, Function.update_self, Option.map_some,
      inbox ((Call.resume_cases resumed).knows own (knows pid call found))]
  · rw [if_neg same, sight, calls, Function.update_of_ne same, sight]
    cases present : state.calls observer with
    | none => rfl
    | some record => rw [Option.map_some, Option.map_some, inbox (knows observer record present)]

end State

end A2A.Server
