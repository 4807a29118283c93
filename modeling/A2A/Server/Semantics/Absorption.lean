import A2A.Library.Feed
import A2A.Server.Semantics.Replay
import A2A.Server.Semantics.Settlement

namespace A2A.Server

open Library

/-! The artifacts of a row, and the events that change them.

Only task events and artifact updates do.  `State.feed` shows a row as the artifacts that every
consumer of its scope folds the events of the task into, each from its own queue.
-/

namespace AgentExecutionEvent

/-- Merging the event may change the artifacts of the task. -/
def bearsArtifacts (taskId : String) : AgentExecutionEvent → Bool
  | .task data => data.id = taskId
  | .artifactUpdate data => data.taskId = taskId
  | _ => false

/-- The artifacts of a row once the event has been merged into it. -/
def absorb (taskId : String) (artifacts : Option (List Artifact)) :
    AgentExecutionEvent → Option (List Artifact)
  | .task data =>
      if data.id = taskId then
        match artifacts with
        | some stored => some (if data.id = "" then data.artifacts else mergeArtifacts stored data.artifacts)
        | none => some data.artifacts
      else artifacts
  | .artifactUpdate data =>
      if data.taskId = taskId ∧ data.taskId ≠ "" then
        match data.artifact with
        | some artifact => artifacts.map (updateArtifacts data.append artifact)
        | none => artifacts
      else artifacts
  | _ => artifacts

variable {taskId : String} {event : AgentExecutionEvent} {artifacts : Option (List Artifact)}

@[simp] theorem core_bearsArtifacts (event : AgentExecutionEvent) :
    event.core.bearsArtifacts taskId = event.bearsArtifacts taskId := by
  cases event <;> rfl

@[simp] theorem absorb_core (artifacts : Option (List Artifact)) (event : AgentExecutionEvent) :
    absorb taskId artifacts event.core = absorb taskId artifacts event := by
  cases event <;> rfl

theorem target_of_bearsArtifacts (bears : event.bearsArtifacts taskId = true) :
    event.target = some taskId := by
  cases event with
  | task data | artifactUpdate data =>
      simp only [bearsArtifacts, decide_eq_true_eq] at bears
      exact congrArg some bears
  | message | statusUpdate => cases bears

theorem absorb_of_spares (spares : event.bearsArtifacts taskId = false) :
    absorb taskId artifacts event = artifacts := by
  cases event with
  | task data =>
      simp only [bearsArtifacts, decide_eq_false_iff_not] at spares
      simp only [absorb, if_neg spares]
  | artifactUpdate data =>
      simp only [bearsArtifacts, decide_eq_false_iff_not] at spares
      have apart : ¬ (data.taskId = taskId ∧ data.taskId ≠ "") := fun same => spares same.1
      simp only [absorb, if_neg apart]
  | message | statusUpdate => rfl

theorem foldl_absorb_filter (events : List AgentExecutionEvent) (artifacts : Option (List Artifact)) :
    (events.filter (bearsArtifacts taskId)).foldl (absorb taskId) artifacts =
      events.foldl (absorb taskId) artifacts := by
  induction events generalizing artifacts with
  | nil => rfl
  | cons event rest ih =>
      cases bears : event.bearsArtifacts taskId with
      | true => rw [List.filter_cons_of_pos bears, List.foldl_cons, List.foldl_cons, ih]
      | false =>
          rw [List.filter_cons_of_neg (by simp [bears]), List.foldl_cons, absorb_of_spares bears, ih]

end AgentExecutionEvent

namespace Write

variable {taskId : String} {row : Option Task}

/-- Merging an event changes the artifacts of the row as `absorb` says. -/
theorem apply_event_artifacts {latestUserMessage : Option Message} {event : AgentExecutionEvent}
    (targets : event.target = some taskId)
    (identified : ∀ task, row = some task → task.id = taskId) :
    (Write.apply row (.event latestUserMessage event)).map Task.artifacts =
      event.absorb taskId (row.map Task.artifacts) := by
  cases row with
  | none =>
      cases event with
      | message data => cases targets
      | statusUpdate data => simp [Write.apply, AgentExecutionEvent.loads, ResultManager.mergeInto,
          AgentExecutionEvent.absorb]
      | task data =>
          have named : data.id = taskId := Option.some.inj targets
          simp [Write.apply, AgentExecutionEvent.loads, ResultManager.mergeInto, mergeTaskEvent,
            prependUserMessage_artifacts, AgentExecutionEvent.absorb, named]
      | artifactUpdate data =>
          cases carried : data.artifact <;> simp [Write.apply, AgentExecutionEvent.loads,
            ResultManager.mergeInto, AgentExecutionEvent.absorb, carried]
  | some task =>
      have own := identified task rfl
      cases event with
      | message data => cases targets
      | statusUpdate data =>
          have same : task.id = data.taskId := own.trans (Option.some.inj targets).symm
          by_cases named : data.taskId = ""
          · simp [Write.apply, AgentExecutionEvent.loads, ResultManager.needsLoad, ResultManager.mergeInto,
              AgentExecutionEvent.absorb, named]
          · simp [Write.apply, AgentExecutionEvent.loads, ResultManager.needsLoad, ResultManager.mergeInto,
              AgentExecutionEvent.absorb, named, same, mergeStatusUpdate]
      | task data =>
          have same : data.id = taskId := Option.some.inj targets
          subst same
          by_cases named : data.id = ""
          · simp [Write.apply, AgentExecutionEvent.loads, ResultManager.needsLoad, ResultManager.mergeInto,
              AgentExecutionEvent.absorb, named, mergeTaskEvent, prependUserMessage_artifacts]
          · simp [Write.apply, loads_task named, ResultManager.mergeInto, AgentExecutionEvent.absorb, named,
              mergeTaskEvent, own, prependUserMessage_artifacts, mergePersisted]
      | artifactUpdate data =>
          have same : data.taskId = taskId := Option.some.inj targets
          subst same
          cases carried : data.artifact with
          | none => simp [Write.apply, ResultManager.mergeInto, AgentExecutionEvent.absorb, carried]
          | some artifact =>
              by_cases named : data.taskId = ""
              · simp [Write.apply, AgentExecutionEvent.loads, ResultManager.needsLoad, ResultManager.mergeInto,
                  AgentExecutionEvent.absorb, carried, named]
              · simp [Write.apply, AgentExecutionEvent.loads, ResultManager.needsLoad, ResultManager.mergeInto,
                  AgentExecutionEvent.absorb, carried, named, own, mergeArtifactUpdate]

/-- A write of the handler's own changes no artifacts. -/
theorem apply_plain_artifacts {write : Write}
    (plain : ∀ latestUserMessage event, write ≠ .event latestUserMessage event) :
    (Write.apply row write).map Task.artifacts = row.map Task.artifacts := by
  cases write with
  | append | cancel => cases row <;> rfl
  | event latestUserMessage event => exact absurd rfl (plain latestUserMessage event)

end Write

section

variable {taskId : String} {row : Option Task} {latestUserMessage : Option Message}

theorem replay_artifacts {item : EventId × AgentExecutionEvent}
    (identified : ∀ task, row = some task → task.id = taskId) :
    (replay latestUserMessage taskId row item).map Task.artifacts =
      item.2.absorb taskId (row.map Task.artifacts) := by
  simp only [replay]
  split
  · rename_i target
    exact Write.apply_event_artifacts target identified
  · rename_i apart
    refine (AgentExecutionEvent.absorb_of_spares ?_).symm
    rw [Bool.eq_false_iff]
    exact fun bears => apart (AgentExecutionEvent.target_of_bearsArtifacts bears)

theorem foldl_replay_artifacts {items : List (EventId × AgentExecutionEvent)}
    (identified : ∀ task, row = some task → task.id = taskId) :
    (items.foldl (replay latestUserMessage taskId) row).map Task.artifacts =
      (items.map Prod.snd).foldl (AgentExecutionEvent.absorb taskId) (row.map Task.artifacts) := by
  induction items generalizing row with
  | nil => rfl
  | cons item rest ih =>
      rw [List.foldl_cons, List.map_cons, List.foldl_cons, ← replay_artifacts identified]
      refine ih fun after replayed => ?_
      exact @Call.foldl_replay_id latestUserMessage taskId [item] row after identified replayed

end

/-- The call merges an event, or saves what it has merged. -/
def Pc.merges : Pc → Bool
  | .lock _ _ | .save _ _ _ => true
  | _ => false

namespace Call

/-- The call merges the events of its queue into rows of the scope. -/
def consumes (handler : Handler) (scope : Scope) (call : Call) : Bool :=
  !call.isResubscribe && handler.scope call.context = scope

/-- What the call has still to merge that may change the artifacts of the task. -/
def coming (events : EventHeap) (taskId : String) (call : Call) : List AgentExecutionEvent :=
  (((call.inbox events).upcoming Item.stops).map Prod.snd).filter
    (AgentExecutionEvent.bearsArtifacts taskId)

/-- What a resumed step does to the events that are still to be merged. -/
inductive Digests (view : View) (taskId : String) (call : Call) : Fate → Call → Prop
  | still {fate after} : call.pc.stores = false →
      after.coming view.event taskId = call.coming view.event taskId → Digests view taskId call fate after
  | merged {after id event} : call.Handles view id event →
      call.coming view.event taskId =
        [event.core].filter (AgentExecutionEvent.bearsArtifacts taskId) ++ after.coming view.event taskId →
      Digests view taskId call .ok after
  | dropped {fate after} : call.GivesUp view fate → (fate = .ok → call.pc.stores = false) →
      after.coming view.event taskId = [] → Digests view taskId call fate after

variable {handler : Handler} {view : View} {events later : EventHeap} {pid : Pid} {fate : Fate}
  {call after : Call} {effects : List Effect} {taskId : String} {scope : Scope}

theorem coming_of_waiting (same : (after.inbox later).waiting = (call.inbox events).waiting) :
    after.coming later taskId = call.coming events taskId := by
  simp only [coming, Inbox.upcoming, same]

theorem coming_of_nothing (nothing : (call.remaining events).getD [] = []) :
    call.coming events taskId = [] := by
  have waits : (call.inbox events).waiting.getD [] = [] := by
    rw [inbox]
    cases ahead : call.remaining events with
    | none => rfl
    | some ids =>
        rw [ahead, Option.getD_some] at nothing
        rw [nothing]
        rfl
  rw [coming, Inbox.upcoming, waits]
  rfl

theorem Reading.digests (reading : Reading view call fate after) :
    Digests view taskId call fate after := by
  cases reading with
  | quiet unsaved _ _ same =>
      exact .still unsaved (coming_of_waiting (by simp only [inbox, same]))
  | attached unsaved unqueued _ _ same =>
      refine .still unsaved ?_
      rw [coming_of_nothing (by rw [same]; rfl), coming_of_nothing (by rw [remaining_unqueued unqueued]; rfl)]
  | @handled _ id rest event known ahead found same _ _ remaining _ handles =>
      refine .merged handles ?_
      have tagged : EventHeap.tag view.event id = some (id, event.core) := by
        rw [EventHeap.tag, found, Option.map_some, same]
      have waits : (call.inbox view.event).waiting =
          some ((id, event.core) :: rest.filterMap (EventHeap.tag view.event)) := by
        rw [inbox, ahead, Option.map_some, List.filterMap_cons_some tagged]
      have next : (after.inbox view.event).waiting = if Item.stops (id, event.core) then none
          else some (rest.filterMap (EventHeap.tag view.event)) := by
        simp only [inbox, remaining, Item.stops, AgentExecutionEvent.core_endsQueue]
        split <;> rfl
      have split := @Inbox.upcoming_handle _ Item.stops _ _ _ (after.inbox view.event).listening
        (after.inbox view.event).handled waits
      rw [coming, split, List.map_cons, ← List.singleton_append, List.filter_append, coming,
        Inbox.upcoming, Inbox.upcoming, next]
  | finished unsaved ahead _ _ _ remaining =>
      refine .still unsaved ?_
      rw [coming_of_nothing (by rw [remaining]; rfl), coming_of_nothing (by rw [ahead]; rfl)]
  | lost gives unsaved _ _ remaining =>
      exact .dropped gives unsaved (coming_of_nothing (by rw [remaining]; rfl))

/-- Only a call that is not a resubscription comes to merge an event. -/
theorem Resumed.merging (wellFormed : call.WellFormed) (merges : after.pc.merges = true)
    (resumed : Resumed handler view pid call fate after effects) :
    call.isResubscribe = false ∨ call.pc.merges = true := by
  have elsewhere : ∀ {pc : Pc}, after.pc = pc → pc.merges = false → False := by
    intro pc counter apart
    rw [counter, apart] at merges
    cases merges
  cases resumed with
  | historySaved =>
      simp only [resolveReferences] at merges
      split at merges <;> cases merges
  | referenceLoaded =>
      dsimp only at merges
      split at merges <;> cases merges
  | @contextBuilt _ _ _ _ extensions after effects loading created =>
      cases wellFormed.contextBuilt loading created <;> cases merges
  | loopEnded =>
      exact (elsewhere leaveLoop_pc (leftPc_of (Pc.merges · = false) rfl rfl call)).elim
  | forwarded =>
      exact (elsewhere rfl (forward_pc (Pc.merges · = false) rfl rfl rfl _ rfl _ _ _)).elim
  | taken _ _ _ _ own => exact .inl own
  | lockFailed counter | merged counter | skipped counter | saveFailed counter | saved counter =>
      exact .inr (by rw [counter]; rfl)
  | mapped | consumed =>
      exact (elsewhere rfl (afterYield_pc (Pc.merges · = false) rfl rfl rfl _ _)).elim
  | misdirected applying =>
      rw [applying] at merges
      cases merges
  | _ => cases merges

end Call

namespace State

variable {handler : Handler} {state next : State} {label : Label} {pid other : Pid}
  {call after : Call} {effects : List Effect} {fate : Fate} {scope : Scope} {taskId : String}
  {buses : BusId → Bool} {bus : BusId} {id : EventId} {event : AgentExecutionEvent}

/-- A resubscription only forwards what it receives. -/
def Forwards (state : State) : Prop :=
  ∀ pid call, state.calls pid = some call → call.pc.merges = true → call.isResubscribe = false

theorem forwards_initial (taskStore : InMemoryTaskStore)
    (pushNotificationStore : InMemoryPushNotificationStore) (taskIdToBus : String → Option BusId) :
    Forwards (.initial taskStore pushNotificationStore taskIdToBus) := by
  intro pid call found
  cases found

theorem forwards_step (wellFormed : state.WellFormed) (forwards : state.Forwards)
    (stepped : state.step handler label = some next) : next.Forwards := by
  intro other record present merges
  obtain ⟨after, effects, steppedTo, rfl⟩ := step_cases stepped
  rcases commit_overheard present with ⟨rfl, overheard⟩ | ⟨_, before, earlier, overheard⟩
  · rw [Call.isResubscribe, overheard.request]
    rw [overheard.pc] at merges
    cases steppedTo with
    | @begun pid request context requestedExtensions fresh =>
        have begun := @Call.begin_cases handler (state.view pid (handler.scope context)) request context
          requestedExtensions fresh
        generalize handler.begin _ _ _ _ _ = call at begun merges
        cases begun with
        | starts =>
            simp only [Call.resolveReferences] at merges
            split at merges <;> cases merges
        | loads counter => rcases counter with rfl | rfl | rfl | rfl <;> cases merges
        | _ => cases merges
    | @resumed pid call fate after effects found resumed =>
        have own := wellFormed pid call found
        have cases' := Call.resume_cases resumed
        rw [(cases'.origin own).1]
        rcases cases'.merging own merges with plain | before
        · exact plain
        · exact forwards pid call found before
    | published found | finishedBus found | executorReturned found | executorThrew found | reaped found =>
        have plain := forwards _ _ found
        exact plain merges
    | @abandoned pid call after found abandoned =>
        obtain ⟨_, _, rfl⟩ := Call.abandon_cases abandoned
        cases merges
  · rw [Call.isResubscribe, overheard.request]
    exact forwards other before earlier (overheard.pc ▸ merges)

/-- What the call of the process has still to merge into the artifacts of the row. -/
def coming (handler : Handler) (scope : Scope) (taskId : String) (state : State) (pid : Pid) :
    List AgentExecutionEvent :=
  match state.calls pid with
  | some call => if call.consumes handler scope then call.coming state.events taskId else []
  | none => []

/-- The events published on the buses, oldest first. -/
def published (buses : BusId → Bool) (state : State) : List (EventId × AgentExecutionEvent) :=
  (state.publications.filter (fun publication => buses publication.bus)).map
    (fun publication => (publication.id, publication.event))

/-- The published events that may change the artifacts of the task. -/
def arrived (taskId : String) (buses : BusId → Bool) (state : State) : List AgentExecutionEvent :=
  ((state.published buses).map (fun item => item.2.core)).filter
    (AgentExecutionEvent.bearsArtifacts taskId)

/-- The artifacts of a row, what the consumers of its scope are still to merge into them, and what
has been published for them. -/
def feed (handler : Handler) (scope : Scope) (taskId : String) (buses : BusId → Bool) (state : State) :
    Feed (Option (List Artifact)) AgentExecutionEvent Pid where
  content := (state.row scope taskId).map Task.artifacts
  queues := state.coming handler scope taskId
  arrived := state.arrived taskId buses

/-- The call of the process is going to merge what the bus dispatches now into rows of the scope. -/
def Reads (handler : Handler) (scope : Scope) (bus : BusId) (state : State) (pid : Pid) : Prop :=
  ∃ call, state.calls pid = some call ∧ call.consumes handler scope = true ∧
    call.listensOn bus = true ∧ (call.inbox state.events).Open Item.stops

theorem coming_of (found : state.calls pid = some call) :
    state.coming handler scope taskId pid =
      if call.consumes handler scope then call.coming state.events taskId else [] := by
  rw [coming, found]

theorem publish_coming_of_reads (knows : state.Knows) (unknown : state.events id = none)
    (reads : state.Reads handler scope bus other) :
    (state.apply pid (.publish bus id event)).coming handler scope taskId other =
      state.coming handler scope taskId other ++
        [event.core].filter (AgentExecutionEvent.bearsArtifacts taskId) := by
  obtain ⟨call, found, consumes, listens, open'⟩ := reads
  have record : (state.apply pid (.publish bus id event)).calls other =
      some (call.receive bus id event) := by
    rw [apply_calls, found]
    rfl
  have inbox := @Call.receive_inbox state.events call bus id (knows other call found) unknown event
  rw [if_pos listens] at inbox
  rw [coming_of record, coming_of found, if_pos consumes,
    if_pos (show (call.receive bus id event).consumes handler scope = true from consumes), Call.coming]
  change (((Call.inbox (Function.update state.events id (some event))
    (call.receive bus id event)).upcoming Item.stops).map Prod.snd).filter _ = _
  rw [inbox, Inbox.upcoming_receive open', List.map_append, List.filter_append]
  rfl

theorem publish_coming_of_deaf (knows : state.Knows) (unknown : state.events id = none)
    (deaf : ¬ state.Reads handler scope bus other) :
    (state.apply pid (.publish bus id event)).coming handler scope taskId other =
      state.coming handler scope taskId other := by
  cases found : state.calls other with
  | none =>
      have record : (state.apply pid (.publish bus id event)).calls other = none := by
        rw [apply_calls, found]
        rfl
      rw [coming, record, coming, found]
  | some call =>
      have record : (state.apply pid (.publish bus id event)).calls other =
          some (call.receive bus id event) := by
        rw [apply_calls, found]
        rfl
      have inbox := @Call.receive_inbox state.events call bus id (knows other call found) unknown event
      have same : (call.receive bus id event).consumes handler scope = call.consumes handler scope := rfl
      rw [coming_of record, coming_of found, same]
      cases consumes : call.consumes handler scope with
      | false => rfl
      | true =>
          rw [if_pos rfl, if_pos rfl]
          change (((Call.inbox (Function.update state.events id (some event))
            (call.receive bus id event)).upcoming Item.stops).map Prod.snd).filter _ = _
          rw [inbox]
          split
          · rename_i listens
            have closed : ¬ (call.inbox state.events).Open Item.stops := fun open' =>
              deaf ⟨call, found, consumes, listens, open'⟩
            rw [Inbox.upcoming_receive_closed (Call.listensOn_listening listens) closed]
            rfl
          · rfl

theorem publish_arrived : (state.apply pid (.publish bus id event)).arrived taskId buses =
    state.arrived taskId buses ++
      if buses bus then [event.core].filter (AgentExecutionEvent.bearsArtifacts taskId) else [] := by
  simp only [arrived, published, apply, List.filter_append, List.map_append]
  cases counts : buses bus <;> simp [counts]

/-- An event that changes no artifacts is nothing to the row's feed. -/
theorem publish_feed_of_spares (knows : state.Knows) (unknown : state.events id = none)
    (spares : event.bearsArtifacts taskId = false) :
    (state.apply pid (.publish bus id event)).feed handler scope taskId buses =
      state.feed handler scope taskId buses := by
  have silent : [event.core].filter (AgentExecutionEvent.bearsArtifacts taskId) = [] := by
    simp [spares]
  have queues : (state.apply pid (.publish bus id event)).coming handler scope taskId =
      state.coming handler scope taskId := by
    funext other
    by_cases reads : state.Reads handler scope bus other
    · rw [publish_coming_of_reads knows unknown reads, silent, List.append_nil]
    · exact publish_coming_of_deaf knows unknown reads
  simp only [feed, queues, publish_arrived, silent, ite_self, List.append_nil]
  rfl

/-- Exactly one call is going to merge what the bus dispatches into rows of the scope, and no other
one has anything left to merge into the artifacts of the task. -/
def SoleReader (handler : Handler) (scope : Scope) (taskId : String) (bus : BusId) (state : State)
    (reader : Pid) : Prop :=
  state.Reads handler scope bus reader ∧ ∀ other, other ≠ reader →
    ¬ state.Reads handler scope bus other ∧ state.coming handler scope taskId other = []

theorem publish_feed_of_sole (knows : state.Knows) (unknown : state.events id = none)
    (bears : event.bearsArtifacts taskId = true) (counts : buses bus = true) {reader : Pid}
    (sole : state.SoleReader handler scope taskId bus reader) :
    Feed.Step (AgentExecutionEvent.absorb taskId) (state.feed handler scope taskId buses)
      ((state.apply pid (.publish bus id event)).feed handler scope taskId buses) := by
  have kept : [event.core].filter (AgentExecutionEvent.bearsArtifacts taskId) = [event.core] := by
    simp [bears]
  have queues : (state.apply pid (.publish bus id event)).coming handler scope taskId =
      Function.update (state.coming handler scope taskId) reader
        (state.coming handler scope taskId reader ++ [event.core]) := by
    funext other
    by_cases same : other = reader
    · rw [same, Function.update_self, publish_coming_of_reads knows unknown sole.1, kept]
    · rw [Function.update_of_ne same, publish_coming_of_deaf knows unknown (sole.2 other same).1]
  have later : (state.apply pid (.publish bus id event)).feed handler scope taskId buses =
      { state.feed handler scope taskId buses with
        queues := Function.update (state.coming handler scope taskId) reader
          (state.coming handler scope taskId reader ++ [event.core])
        arrived := (state.feed handler scope taskId buses).arrived ++ [event.core] } := by
    simp only [feed, queues, publish_arrived, counts, if_true, kept]
    rfl
  rw [later]
  exact .arrive event.core fun other differ => (sole.2 other differ).2

theorem publish_feed_of_unread (knows : state.Knows) (unknown : state.events id = none)
    (apart : buses bus = false) (unread : ∀ other, ¬ state.Reads handler scope bus other) :
    (state.apply pid (.publish bus id event)).feed handler scope taskId buses =
      state.feed handler scope taskId buses := by
  have queues : (state.apply pid (.publish bus id event)).coming handler scope taskId =
      state.coming handler scope taskId :=
    funext fun other => publish_coming_of_deaf knows unknown (unread other)
  simp only [feed, queues, publish_arrived, apart, Bool.false_eq_true, if_false, List.append_nil]
  rfl

/-- Closing a bus leaves what has arrived to be merged. -/
theorem closes_feed {effect : Effect} (closes : effect.closes = true) :
    (state.apply pid effect).feed handler scope taskId buses = state.feed handler scope taskId buses := by
  have queues : (state.apply pid effect).coming handler scope taskId =
      state.coming handler scope taskId := by
    funext other
    cases found : state.calls other with
    | none =>
        have record : (state.apply pid effect).calls other = none := by
          rw [apply_calls, found]
          rfl
        rw [coming, record, coming, found]
    | some call =>
        obtain ⟨after, record, overheard, events, _, waiting⟩ := @inbox_muted state pid other call effect closes found
        have same : after.consumes handler scope = call.consumes handler scope := by
          rw [Call.consumes, Call.isResubscribe, overheard.request, overheard.context]
          rfl
        rw [coming_of record, coming_of found, same, events, Call.coming_of_waiting waiting]
  have rest : (state.apply pid effect).publications = state.publications ∧
      (state.apply pid effect).taskStore = state.taskStore := by
    cases effect with
    | finished bus => exact ⟨rfl, rfl⟩
    | cleanup taskId =>
        simp only [apply]
        cases state.taskIdToBus taskId <;> exact ⟨rfl, rfl⟩
    | _ => cases closes
  simp only [feed, queues, arrived, published, rest.1, row, rest.2]

/-- A new record for which as much is coming as for the one before. -/
theorem setCall_feed (same : (if call.consumes handler scope then call.coming state.events taskId else []) =
    state.coming handler scope taskId pid) :
    (state.setCall pid call).feed handler scope taskId buses = state.feed handler scope taskId buses := by
  have queues : (state.setCall pid call).coming handler scope taskId = state.coming handler scope taskId := by
    funext other
    by_cases self : other = pid
    · subst self
      rw [coming_of setCall_self, ← same]
      rfl
    · rw [coming, setCall_of_ne self, coming]
      rfl
  simp only [feed, queues]
  rfl

/-- A record with another state of its execution. -/
theorem rephased_feed {execution : Option Execution} (found : state.calls pid = some call) :
    (state.setCall pid { call with execution }).feed handler scope taskId buses =
        state.feed handler scope taskId buses ∧
      ∀ bus other, (state.setCall pid { call with execution }).Reads handler scope bus other ↔
        state.Reads handler scope bus other := by
  refine ⟨?_, fun bus other => ?_⟩
  · refine setCall_feed ?_
    rw [coming_of found]
    rfl
  · by_cases same : other = pid
    · subst same
      constructor
      · intro reads
        obtain ⟨record, present, facts⟩ := reads
        cases setCall_self.symm.trans present
        exact ⟨call, found, facts⟩
      · intro reads
        obtain ⟨record, present, facts⟩ := reads
        cases found.symm.trans present
        exact ⟨_, setCall_self, facts⟩
    · simp only [Reads, setCall_of_ne same]
      rfl

/-- The copies in the calls' hands are the row with one more write. -/
abbrev Current (handler : Handler) (scope : Scope) (taskId : String) (state : State) : Prop :=
  ∀ pid held write, (state.register handler scope taskId).hands pid = some (held, write) →
    write.Enabled taskId (state.row scope taskId) ∧ write.apply (state.row scope taskId) = held

/-- A save in a row is one more write of it. -/
theorem saved_row (current : state.Current handler scope taskId) {held : Pending}
    (holds : state.pending handler pid = some held) (here : held.scope = scope ∧ held.task.id = taskId)
    (store : next.taskStore = state.taskStore.save held.scope held.task) :
    held.write.Enabled taskId (state.row scope taskId) ∧
      next.row scope taskId = held.write.apply (state.row scope taskId) := by
  have copy := @register_hands handler state pid scope taskId held holds
  rw [if_pos here] at copy
  obtain ⟨enabled, applied⟩ := current pid _ _ copy
  exact ⟨enabled, by rw [row_saved store, if_pos here, applied]⟩

/-- Whatever a step saves but the merge of a published event, it leaves the artifacts as they are. -/
theorem artifacts_kept (wellFormed : state.WellFormed) (knows : state.Knows) (forwards : state.Forwards)
    (current : state.Current handler scope taskId) (stepped : state.step handler label = some next)
    (plain : label.action = .resume .ok → ∀ call, state.calls label.pid = some call →
      call.consumes handler scope = true → call.pc.stores = false) :
    (next.row scope taskId).map Task.artifacts = (state.row scope taskId).map Task.artifacts := by
  cases rowStep wellFormed stepped with
  | @saved held resumes holds _ store =>
      by_cases here : held.scope = scope ∧ held.task.id = taskId
      · obtain ⟨enabled, written⟩ := saved_row current holds here store
        rw [written]
        obtain ⟨call, found, taken⟩ := Option.bind_eq_some_iff.mp holds
        cases counter : call.pc with
        | saveHistory message task =>
            simp only [Call.pending, counter, Option.some.injEq] at taken
            subst taken
            exact @Write.apply_plain_artifacts _ (.append message) (by simp)
        | cancelSave task =>
            simp only [Call.pending, counter, Option.some.injEq] at taken
            subst taken
            exact @Write.apply_plain_artifacts _ (.cancel (call.cancelStatus task)) (by simp)
        | save ref key event =>
            have consumes : call.consumes handler scope = true := by
              have inScope : held.scope = handler.scope call.context := by
                simp only [Call.pending, counter] at taken
                obtain ⟨task, _, rfl⟩ := Option.map_eq_some_iff.mp taken
                rfl
              simp [Call.consumes, forwards label.pid call found (by rw [counter]; rfl), ← inScope, here.1]
            have unsaved := plain resumes call found consumes
            simp only [Call.pending, counter] at taken
            obtain ⟨task, _, rfl⟩ := Option.map_eq_some_iff.mp taken
            cases ref with
            | published id =>
                rw [counter] at unsaved
                cases unsaved
            | own failure =>
                obtain ⟨data, rfl⟩ := (knows label.pid call found).own key event (.inr ⟨failure, counter⟩)
                rw [Write.apply_event_artifacts enabled.1 fun task stored => row_id stored]
                rfl
        | _ => simp [Call.pending, counter] at taken
      · rw [row_saved store, if_neg here]
  | accepted _ _ _ _ _ _ _ store | merged _ _ _ _ _ _ _ _ store | quiet _ store => rw [row_kept store]

/-- Handling an event merges it into the artifacts of the row. -/
theorem artifacts_absorbed (wellFormed : state.WellFormed) (knows : state.Knows) (forwards : state.Forwards)
    (current : state.Current handler scope taskId)
    (stepped : state.step handler ⟨pid, .resume .ok⟩ = some next) (found : state.calls pid = some call)
    (consumes : call.consumes handler scope = true)
    (handles : call.Handles (state.view pid (handler.scope call.context)) id event) :
    (next.row scope taskId).map Task.artifacts =
      event.absorb taskId ((state.row scope taskId).map Task.artifacts) := by
  simp only [Call.consumes, Bool.and_eq_true, Bool.not_eq_true', decide_eq_true_eq] at consumes
  obtain ⟨merges, inScope⟩ := consumes
  have unsaved : call.pc.stores = false →
      (next.row scope taskId).map Task.artifacts = (state.row scope taskId).map Task.artifacts := by
    intro unsaved
    refine artifacts_kept wellFormed knows forwards current stepped ?_
    intro _ record present _
    cases found.symm.trans present
    exact unsaved
  have spared : ∀ {artifacts : Option (List Artifact)}, event.target ≠ some taskId →
      event.absorb taskId artifacts = artifacts := by
    intro artifacts apart
    refine AgentExecutionEvent.absorb_of_spares ?_
    rw [Bool.eq_false_iff]
    exact fun bears => apart (AgentExecutionEvent.target_of_bearsArtifacts bears)
  cases handles with
  | @saved key saving =>
      obtain ⟨task, copy, target⟩ := (wellFormed pid call found).merging _ key event saving
      have holds : state.pending handler pid = some ⟨handler.scope call.context, task,
          .event call.resultManager.latestUserMessage event⟩ := by
        rw [pending, found, Option.bind_some, Call.pending, saving]
        simp [copy]
      have store := (pending_saves stepped rfl holds).2.1
      by_cases here : task.id = taskId
      · obtain ⟨enabled, written⟩ := saved_row current holds ⟨inScope, here⟩ store
        rw [written, Write.apply_event_artifacts enabled.1 fun task stored => row_id stored]
      · rw [row_saved store, if_neg fun both => here both.2, spared]
        rw [target]
        exact fun same => here (Option.some.inj same)
  | @skipped key waiting _ nothing =>
      rw [unsaved (by rw [waiting]; rfl)]
      by_cases target : event.target = some taskId
      · have loaded : event.target.bind (state.view pid (handler.scope call.context)).load =
            state.row scope taskId := by
          rw [target, inScope]
          rfl
        rw [loaded] at nothing
        have merged := @Write.apply_event_artifacts taskId (state.row scope taskId)
          call.resultManager.latestUserMessage event target fun task stored => row_id stored
        rw [← merged, Write.apply, nothing]
        rfl
      · rw [spared target]
  | message pulling untargeted =>
      rw [unsaved (by rw [pulling]; rfl), spared]
      rw [untargeted]
      exact (Option.some_ne_none taskId).symm
  | forwarded _ subscribes =>
      rw [merges] at subscribes
      cases subscribes

/-- A resumed call hands the next event of its queue to the row, or leaves the row's feed as it is. -/
theorem resumed_feed (wellFormed : state.WellFormed) (knows : state.Knows) (forwards : state.Forwards)
    (current : state.Current handler scope taskId) (found : state.calls pid = some call)
    (loyal : state.GivesUp handler ⟨pid, .resume fate⟩ → state.coming handler scope taskId pid = [])
    (resumed : call.resume handler (state.view pid (handler.scope call.context)) pid fate =
      some (after, effects)) :
    Feed.Step (AgentExecutionEvent.absorb taskId) (state.feed handler scope taskId buses)
      ((state.commit pid (after, effects)).feed handler scope taskId buses) := by
  have own := wellFormed pid call found
  have known := knows pid call found
  have cases' := Call.resume_cases resumed
  obtain ⟨calls, grows, publications⟩ := commit_resumed own resumed
  have stepped : state.step handler ⟨pid, .resume fate⟩ = some (state.commit pid (after, effects)) := by
    simp [State.step, found, resumeCall, resumed]
  have same : after.consumes handler scope = call.consumes handler scope := by
    rw [Call.consumes, Call.isResubscribe, (cases'.origin own).1, (cases'.origin own).2.1]
    rfl
  have reached : (state.commit pid (after, effects)).coming handler scope taskId pid =
      if call.consumes handler scope then after.coming state.events taskId else [] := by
    rw [coming_of (by rw [calls, Function.update_self]), same, Call.coming, Call.coming,
      (cases'.knows own known).inbox grows]
    rfl
  have others : ∀ other, other ≠ pid → (state.commit pid (after, effects)).coming handler scope taskId other =
      state.coming handler scope taskId other := by
    intro other differ
    cases present : state.calls other with
    | none => rw [coming, calls, Function.update_of_ne differ, present, coming, present]
    | some record =>
        rw [coming_of (by rw [calls, Function.update_of_ne differ, present]), coming_of present, Call.coming,
          (knows other record present).inbox grows]
        rfl
  have arrivals : (state.commit pid (after, effects)).arrived taskId buses = state.arrived taskId buses := by
    simp only [arrived, published, publications]
  have idle : ((state.commit pid (after, effects)).row scope taskId).map Task.artifacts =
        (state.row scope taskId).map Task.artifacts →
      (state.commit pid (after, effects)).coming handler scope taskId pid =
        state.coming handler scope taskId pid →
      (state.commit pid (after, effects)).feed handler scope taskId buses =
        state.feed handler scope taskId buses := by
    intro content waiting
    have queues : (state.commit pid (after, effects)).coming handler scope taskId =
        state.coming handler scope taskId := by
      funext other
      by_cases self : other = pid
      · rw [self, waiting]
      · exact others other self
    simp only [feed, content, queues, arrivals]
  have before := @coming_of handler state pid call scope taskId found
  cases consumes : call.consumes handler scope with
  | false =>
      rw [consumes] at before reached
      rw [idle ?_ (reached.trans before.symm)]
      · exact .idle
      · refine artifacts_kept wellFormed knows forwards current stepped ?_
        intro _ record present also
        cases found.symm.trans present
        rw [consumes] at also
        cases also
  | true =>
      rw [consumes, if_pos rfl] at before reached
      have kept : (fate = .ok → call.pc.stores = false) →
          ((state.commit pid (after, effects)).row scope taskId).map Task.artifacts =
            (state.row scope taskId).map Task.artifacts := by
        intro unsaved
        refine artifacts_kept wellFormed knows forwards current stepped ?_
        intro resumes record present _
        cases found.symm.trans present
        exact unsaved (Action.resume.inj resumes)
      have digests : Call.Digests (state.view pid (handler.scope call.context)) taskId call fate after :=
        (cases'.reads own known).digests
      cases digests with
      | still unsaved waiting =>
          rw [idle (kept fun _ => unsaved) (reached.trans (Eq.trans waiting before.symm))]
          exact .idle
      | @merged _ id event handles split =>
          have absorbed := artifacts_absorbed wellFormed knows forwards current stepped found consumes handles
          cases bears : event.bearsArtifacts taskId with
          | false =>
              rw [AgentExecutionEvent.absorb_of_spares bears] at absorbed
              have silent : [event.core].filter (AgentExecutionEvent.bearsArtifacts taskId) = [] := by
                simp [bears]
              rw [silent, List.nil_append] at split
              rw [idle absorbed (reached.trans (Eq.trans split.symm before.symm))]
              exact .idle
          | true =>
              have single : [event.core].filter (AgentExecutionEvent.bearsArtifacts taskId) = [event.core] := by
                simp [bears]
              rw [single, List.singleton_append] at split
              have waits : (state.feed handler scope taskId buses).queues pid =
                  event.core :: after.coming state.events taskId := before.trans split
              have later : (state.commit pid (after, effects)).feed handler scope taskId buses =
                  { state.feed handler scope taskId buses with
                    content := event.core.absorb taskId (state.feed handler scope taskId buses).content
                    queues := Function.update (state.coming handler scope taskId) pid
                      (after.coming state.events taskId) } := by
                have queues : (state.commit pid (after, effects)).coming handler scope taskId =
                    Function.update (state.coming handler scope taskId) pid
                      (after.coming state.events taskId) := by
                  funext other
                  by_cases self : other = pid
                  · rw [self, Function.update_self, reached]
                  · rw [Function.update_of_ne self, others other self]
                simp only [feed, absorbed, queues, arrivals, AgentExecutionEvent.absorb_core]
              rw [later]
              exact .take waits
      | dropped gives unsaved nothing =>
          have empty := loyal ⟨call, found, gives⟩
          rw [idle (kept unsaved) (reached.trans (Eq.trans nothing empty.symm))]
          exact .idle

end State

end A2A.Server
