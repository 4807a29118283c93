import A2A.Server.Scenario
import A2A.Server.Semantics.Drained
import A2A.Server.Semantics.Engagement

namespace A2A.Server

open Library

/-! Whether the settlement of one execution cuts another one off.

Two executions of a task publish to one bus, and each settlement may end it.  An event is followed
from its publication through the queue of the call whose executor has published it.
-/

namespace State

variable {handler : Handler} {state next : State} {label : Label} {pid other : Pid} {call after : Call}
  {effects : List Effect} {fate : Fate} {item : Item} {saves : Prop}

/-- The step ends the bus that the call listens on, while the executor of the call may still
publish to it: an executor finishes the bus, or the settlement of another execution ends its own
bus, or unregisters the listeners of the one that is registered for its task. -/
inductive CutsOff (handler : Handler) (pid : Pid) (state : State) : Label → Prop
  | finished {call caller bus other} :
      state.calls pid = some call → call.engaged = true → call.listensOn bus = true →
      state.calls other = some caller → caller.executorBus = some bus →
      CutsOff handler pid state ⟨other, .finishBus⟩
  | settled {call caller execution failed fresh bus other} :
      state.calls pid = some call → call.engaged = true → call.listensOn bus = true →
      other ≠ pid → state.calls other = some caller → caller.execution = some execution →
      execution.phase = .settling failed →
      execution.tracker.lastState.any handler.keepBusAliveStates.contains = false →
      (bus = execution.eventBus ∨ state.taskIdToBus execution.requestContext.taskId = some bus) →
      CutsOff handler pid state ⟨other, .executorReaped fresh⟩

/-- The call gives its queue up while its executor is running. -/
def Deserts (handler : Handler) (pid : Pid) (state : State) (label : Label) : Prop :=
  label.pid = pid ∧ state.GivesUp handler label ∧
    ∃ call, state.calls pid = some call ∧ call.executorDone = false

/-- While its executor may publish, the call hears what its bus dispatches. -/
def Hearing (pid : Pid) (state : State) : Prop :=
  ∀ call, state.calls pid = some call → call.engaged = true →
    Inbox.Hears Item.stops (call.inbox state.events)

theorem Hearing.publish {bus : BusId} {id : EventId} {event : AgentExecutionEvent} (knows : state.Knows)
    (unknown : state.events id = none) (hearing : state.Hearing pid) :
    (state.apply other (.publish bus id event)).Hearing pid := by
  intro record found engaged
  rw [apply_calls] at found
  obtain ⟨call, present, rfl⟩ := Option.map_eq_some_iff.mp found
  have hears := hearing call present ((Call.receive_overheard bus id event).engaged ▸ engaged)
  have dispatched := @Call.receive_inbox state.events call bus id (knows pid call present) unknown event
  change Inbox.Hears Item.stops ((call.receive bus id event).inbox (Function.update state.events id (some event)))
  rw [dispatched]
  split
  · exact hears.receive _
  · exact hears

/-- A record with another phase of its execution, and nothing else changed. -/
theorem Hearing.rephased {execution changed : Execution} (hearing : state.Hearing pid)
    (found : state.calls other = some call) (executing : call.execution = some execution)
    (running : execution.phase.done = false) :
    (state.setCall other { call with execution := some changed }).Hearing pid := by
  intro record present engaged
  by_cases same : pid = other
  · subst same
    cases setCall_self.symm.trans present
    refine hearing call found ?_
    rw [Call.engaged, Call.executorDone, executing]
    simp only [running, Bool.not_false, Bool.true_or]
  · rw [setCall_of_ne same] at present
    exact hearing record present engaged

/-- The end of a bus that the call does not listen on, and of the one registered for the task. -/
theorem Hearing.closed {execution changed : Execution} {failed : Bool} {fresh : FailureFresh}
    (wellFormed : state.WellFormed) (hearing : state.Hearing pid) (found : state.calls other = some call)
    (executing : call.execution = some execution) (settling : execution.phase = .settling failed)
    (settled : changed.phase.done = true)
    (leaves : execution.tracker.lastState.any handler.keepBusAliveStates.contains = false)
    (spared : ¬ CutsOff handler pid state ⟨other, .executorReaped fresh⟩) :
    (((state.setCall other { call with execution := some changed }).apply other
      (.finished execution.eventBus)).apply other
        (.cleanup execution.requestContext.taskId)).Hearing pid := by
  intro record reached engaged
  rw [apply_calls, apply_calls, Option.map_map] at reached
  obtain ⟨middle, present, rfl⟩ := Option.map_eq_some_iff.mp reached
  have heard : middle.Overheard ((Effect.cleanup execution.requestContext.taskId).listen state.taskIdToBus
      (middle.receiveFinished execution.eventBus)) :=
    (Call.receiveFinished_overheard _).trans (Call.listen_overheard _ _)
  have before : middle.engaged = true := heard.engaged.symm.trans engaged
  by_cases same : pid = other
  · subst same
    cases setCall_self.symm.trans present
    simp [Call.engaged, Call.executorDone, settled,
      (wellFormed pid call found).unstarted executing] at before
  · rw [setCall_of_ne same] at present
    have hears := hearing middle present before
    have deaf : ∀ bus, bus = execution.eventBus ∨
        state.taskIdToBus execution.requestContext.taskId = some bus → middle.listensOn bus = false := by
      intro bus ends
      by_contra listens
      exact spared (.settled present before (by simpa using listens) (Ne.symm same) found executing settling
        leaves ends)
    obtain ⟨finished, elsewhere⟩ := @Call.receiveFinished_apart state.events middle execution.eventBus
      (deaf _ (.inl rfl))
    have events : (((state.setCall other { call with execution := some changed }).apply other
        (.finished execution.eventBus)).apply other
          (.cleanup execution.requestContext.taskId)).events = state.events :=
      (apply_closes rfl).1.trans rfl
    rw [events]
    change Inbox.Hears Item.stops (Call.inbox state.events
      ((Effect.cleanup execution.requestContext.taskId).listen state.taskIdToBus
        (middle.receiveFinished execution.eventBus)))
    simp only [Effect.listen]
    cases registered : state.taskIdToBus execution.requestContext.taskId with
    | none => exact finished ▸ hears
    | some bus =>
        have silent : (middle.receiveFinished execution.eventBus).listensOn bus = false := by
          rw [elsewhere]
          exact deaf bus (.inr registered)
        rw [Call.removeListeners_apart silent, finished]
        exact hears

theorem Hearing.step (wellFormed : state.WellFormed) (knows : state.Knows) (ordered : state.Ordered)
    (hearing : state.Hearing pid) (spared : ¬ CutsOff handler pid state label)
    (loyal : ¬ Deserts handler pid state label) (stepped : state.step handler label = some next) :
    next.Hearing pid := by
  obtain ⟨after, effects, steppedTo, rfl⟩ := step_cases stepped
  cases steppedTo with
  | @begun other request context requestedExtensions fresh =>
      intro record present engaged
      by_cases same : pid = other
      · subst same
        cases setCall_self.symm.trans present
        obtain ⟨unstarted, starting, _⟩ := @Call.begin_bus handler (state.view pid (handler.scope context))
          request context requestedExtensions fresh
        simp [Call.engaged, Call.executorDone, unstarted, starting] at engaged
      · rw [commit_nil, setCall_of_ne same] at present
        exact hearing record present engaged
  | @resumed other call fate after effects found resumed =>
      have own := wellFormed other call found
      have cases' := Call.resume_cases resumed
      obtain ⟨calls, grows, _⟩ := commit_resumed own resumed
      intro record reached engaged
      rw [calls, Function.update_apply] at reached
      split at reached
      · rename_i same
        subst same
        cases reached
        have known := cases'.knows own (knows pid call found)
        rw [known.inbox grows]
        rcases cases'.engaged own engaged with before | ⟨unqueued, queued⟩
        · have plain : call.isResubscribe = false := by
            have sends := own.engaged_isSend before
            cases asks : call.request <;> simp_all [Call.isSend, Call.isResubscribe]
          have stays : ¬ call.GivesUp (state.view pid (handler.scope call.context)) fate := by
            intro gives
            cases done : call.executorDone with
            | false => exact loyal ⟨rfl, ⟨call, found, gives⟩, call, found, done⟩
            | true =>
                rw [cases'.unengaged own gives done before] at engaged
                cases engaged
          exact cases'.hears own (knows pid call found) plain stays
            (ordered pid _ (inbox_of found)) (hearing call found before)
        · obtain ⟨listens, waits⟩ := cases'.attaches own unqueued queued
          exact .inl ⟨listens, by simpa only [Call.inbox, Option.isSome_map] using waits⟩
      · rw [(knows pid record reached).inbox grows]
        exact hearing record reached engaged
  | published found _ unknown =>
      rw [commit_cons, setCall_eq_self found]
      exact hearing.publish knows unknown
  | @finishedBus other caller bus found attached =>
      rw [commit_cons, setCall_eq_self found]
      intro record reached engaged
      rw [List.foldl_nil, apply_calls] at reached
      obtain ⟨call, present, rfl⟩ := Option.map_eq_some_iff.mp reached
      have before : call.engaged = true := (Call.receiveFinished_overheard bus).engaged.symm.trans engaged
      have deaf : call.listensOn bus = false := by
        by_contra listens
        exact spared (.finished present before (by simpa using listens) found attached)
      change Inbox.Hears Item.stops ((call.receiveFinished bus).inbox state.events)
      rw [(Call.receiveFinished_apart deaf).1]
      exact hearing call present before
  | executorReturned found executing running | executorThrew found executing running =>
      exact hearing.rephased found executing (by rw [running]; rfl)
  | @reaped other call execution fresh changed effects found executing unknownTask unknownStatus differ
      reaped =>
      have known : (state.setCall other { call with execution := some changed }).Knows := by
        have own := knows other call found
        exact setCall_knows knows ⟨own.queued, own.current, own.saving, own.own, own.unqueued⟩
      cases Execution.reap_settles reaped with
      | updated rejected =>
          exact (hearing.rephased found executing (by rw [rejected]; rfl)).publish known unknownStatus
      | announced rejected =>
          refine Hearing.publish (apply_knows known ?_) ?_
            ((hearing.rephased found executing (by rw [rejected]; rfl)).publish known unknownTask)
          · rintro _ _ _ ⟨⟩
            exact unknownTask
          · simpa [apply, Function.update_of_ne differ.symm] using unknownStatus
      | keptAlive settling => exact hearing.rephased found executing (by rw [settling]; rfl)
      | closed settling leaves =>
          exact Hearing.closed wellFormed hearing found executing settling rfl leaves spared
  | @abandoned other call after found abandoned =>
      obtain ⟨_, _, rfl⟩ := Call.abandon_cases abandoned
      intro record present engaged
      by_cases same : pid = other
      · subst same
        cases setCall_self.symm.trans present
        have running : call.executorDone = false := by
          rw [Call.engaged, show (call.stopQueue.finish .done).pc = .finished from rfl] at engaged
          simpa [Pc.starting, Call.executorDone, Call.finish, Call.settle, Call.stopQueue] using engaged
        exact absurd ⟨rfl, trivial, call, found, running⟩ loyal
      · rw [commit_nil, setCall_of_ne same] at present
        exact hearing record present engaged

/-- What becomes of an event in a call's queue: it waits behind events that do not end the queue, or
it has been merged; if it is one that `saves`, it will be, or has been, written. -/
inductive Follows (handler : Handler) (state : State) (pid : Pid) (item : Item) (saves : Prop)
    (call : Call) : Prop
  | coming {before rest} : (call.inbox state.events).waiting = some (before ++ item :: rest) →
      before.any Item.stops = false →
      (saves → item.2.merges (fun taskId => state.stored (handler.scope call.context) taskId ||
        before.any (fun ahead => ahead.2.leavesRow taskId)) = true) →
      Follows handler state pid item saves call
  | merged {event} : (item.1, event) ∈ call.handled → event.core = item.2 →
      (saves → ∃ taskId latestUserMessage, event.target = some taskId ∧
        ⟨pid, handler.scope call.context, taskId, .event latestUserMessage event⟩ ∈ state.writes) →
      Follows handler state pid item saves call

/-- The call gives up while the events in its queue are still to be merged. -/
def Forsakes (handler : Handler) (pid : Pid) (state : State) (label : Label) : Prop :=
  label.pid = pid ∧ state.GivesUp handler label ∧
    ∃ call item rest, state.calls pid = some call ∧ (call.inbox state.events).waiting = some (item :: rest)

theorem written_step (wellFormed : state.WellFormed) (stepped : state.step handler label = some next)
    {write : SavedWrite} (written : write ∈ state.writes) : write ∈ next.writes := by
  cases rowStep wellFormed stepped with
  | saved _ _ _ _ writes => exact writes ▸ List.mem_append_left _ written
  | accepted _ _ _ _ _ _ _ _ writes | merged _ _ _ _ _ _ _ _ _ writes | quiet _ _ writes =>
      exact writes ▸ written

/-- A step at which the call's loop stands still. -/
theorem Follows.still (wellFormed : state.WellFormed) (knows : state.Knows)
    (follows : Follows handler state pid item saves call) (stepped : state.step handler label = some next)
    (found : state.calls pid = some call) (reached : next.calls pid = some after)
    (handled : after.handled = call.handled) (context : after.context = call.context)
    (loyal : pid = label.pid → ¬ state.GivesUp handler label) :
    Follows handler next pid item saves after := by
  cases follows with
  | @coming before rest waits calm merges =>
      obtain ⟨inbox, arrived, steps⟩ := inbox_step wellFormed knows stepped (inbox_of found) loyal
      rw [inbox_of reached, Option.some.injEq] at arrived
      subst arrived
      have same : (after.inbox next.events).handled = (call.inbox state.events).handled := by
        simp only [Call.inbox, handled]
      obtain ⟨more, ahead⟩ : ∃ more, (after.inbox next.events).waiting = some (before ++ item :: rest ++ more) := by
        cases before with
        | nil => exact Inbox.steps_waiting_kept steps same waits
        | cons first before => exact Inbox.steps_waiting_kept steps same waits
      rw [List.append_assoc, List.cons_append] at ahead
      refine .coming ahead calm fun asks => ?_
      refine AgentExecutionEvent.merges_mono (fun taskId present => ?_) (merges asks)
      rw [Bool.or_eq_true] at present ⊢
      rw [context]
      exact present.imp_left (stored_step wellFormed stepped)
  | merged member same writes =>
      refine .merged (handled ▸ member) same fun asks => ?_
      obtain ⟨taskId, latest, target, written⟩ := writes asks
      exact ⟨taskId, latest, target, context ▸ written_step wellFormed stepped written⟩

/-- The event at the head of the queue has been merged: it is saved, if it is one that merges. -/
theorem saved_of_merges {id : EventId} {event : AgentExecutionEvent}
    (wellFormed : call.WellFormed) (found : state.calls pid = some call) (plain : call.isResubscribe = false)
    (stepped : state.step handler ⟨pid, .resume .ok⟩ = some next)
    (handles : call.Handles (state.view pid (handler.scope call.context)) id event)
    (merges : event.merges (state.stored (handler.scope call.context)) = true) :
    ∃ task, event.target = some task.id ∧
      next.taskStore = state.taskStore.save (handler.scope call.context) task ∧
      ⟨pid, handler.scope call.context, task.id, .event call.resultManager.latestUserMessage event⟩ ∈
        next.writes := by
  cases handles with
  | saved saving =>
      obtain ⟨task, current, target⟩ := wellFormed.merging _ _ _ saving
      have held : state.pending handler pid = some ⟨handler.scope call.context, task,
          .event call.resultManager.latestUserMessage event⟩ := by
        rw [State.pending, found, Option.bind_some]
        simp [Call.pending, saving, current]
      obtain ⟨_, store, writes⟩ := pending_saves stepped rfl held
      exact ⟨task, target, store, by rw [writes]; simp⟩
  | skipped _ _ nothing =>
      have merged := @AgentExecutionEvent.merges_saved _ _ call.resultManager.latestUserMessage
        (event.target.bind (state.view pid (handler.scope call.context)).load) merges (by
          intro taskId target present
          obtain ⟨task, row⟩ := Option.isSome_iff_exists.mp present
          exact ⟨task, by rw [target]; exact row, row_id row⟩)
      rw [nothing] at merged
      cases merged
  | message _ target =>
      cases event with
      | message => cases merges
      | _ => cases target
  | forwarded _ subscribes =>
      rw [plain] at subscribes
      cases subscribes

theorem Follows.resumed (wellFormed : state.WellFormed) (knows : state.Knows)
    (found : state.calls pid = some call) (plain : call.isResubscribe = false)
    (loyal : ¬ Forsakes handler pid state ⟨pid, .resume fate⟩)
    (resumed : call.resume handler (state.view pid (handler.scope call.context)) pid fate =
      some (after, effects)) (follows : Follows handler state pid item saves call) :
    Follows handler (state.commit pid (after, effects)) pid item saves after := by
  have stepped : state.step handler ⟨pid, .resume fate⟩ = some (state.commit pid (after, effects)) := by
    simp [State.step, found, resumeCall, resumed]
  have own := wellFormed pid call found
  have cases' := Call.resume_cases resumed
  have context : after.context = call.context := (cases'.origin own).2.1
  obtain ⟨_, grows, _⟩ := commit_resumed own resumed
  have inbox : after.inbox (state.commit pid (after, effects)).events = after.inbox state.events :=
    (cases'.knows own (knows pid call found)).inbox grows
  have reads := cases'.reads own (knows pid call found)
  have grown : ∀ {taskId}, state.stored (handler.scope call.context) taskId = true →
      (state.commit pid (after, effects)).stored (handler.scope call.context) taskId = true :=
    fun present => stored_step wellFormed stepped present
  cases follows with
  | merged member same writes =>
      refine .merged (reads.handled_kept.subset member) same fun asks => ?_
      obtain ⟨taskId, latest, target, written⟩ := writes asks
      exact ⟨taskId, latest, target, context ▸ written_step wellFormed stepped written⟩
  | @coming before rest waits calm merges =>
      have stays : ¬ call.GivesUp (state.view pid (handler.scope call.context)) fate := by
        intro gives
        refine loyal ⟨rfl, ⟨call, found, gives⟩, call, ?_⟩
        cases before with
        | nil => exact ⟨item, rest, found, waits⟩
        | cons first before => exact ⟨first, before ++ item :: rest, found, waits⟩
      cases reads with
      | quiet _ _ _ same =>
          have kept : after.remaining state.events = call.remaining state.events := same
          refine @Follows.coming handler _ pid item saves after before rest ?_ calm fun asks => ?_
          · rw [inbox]
            simpa only [Call.inbox, kept] using waits
          · refine AgentExecutionEvent.merges_mono (fun taskId present => ?_) (merges asks)
            rw [Bool.or_eq_true] at present ⊢
            rw [context]
            exact present.imp_left grown
      | attached _ unqueued =>
          simp only [Call.inbox, Call.remaining_unqueued unqueued] at waits
          cases waits
      | @handled _ id ids event known ahead present same _ handled remaining _ handles =>
          have tagged : EventHeap.tag state.events id = some (id, event.core) := by
            rw [EventHeap.tag, show state.events id = some known from present, Option.map_some, same]
          have queued : (call.inbox state.events).waiting =
              some ((id, event.core) :: ids.filterMap (EventHeap.tag state.events)) := by
            rw [Call.inbox, show call.remaining state.events = some (id :: ids) from ahead, Option.map_some,
              List.filterMap_cons_some tagged]
          rw [queued, Option.some.injEq] at waits
          cases before with
          | nil =>
              rw [List.nil_append, List.cons.injEq] at waits
              obtain ⟨rfl, _⟩ := waits
              have member : (id, event) ∈ after.handled := by
                rw [handled]
                exact List.mem_append_right _ (List.mem_singleton.mpr rfl)
              refine .merged member rfl fun asks => ?_
              have saving := merges asks
              simp only [AgentExecutionEvent.core_merges, List.any_nil, Bool.or_false] at saving
              obtain ⟨task, target, _, written⟩ := saved_of_merges own found plain stepped handles saving
              exact ⟨task.id, _, target, context ▸ written⟩
          | cons first before =>
              rw [List.cons_append, List.cons.injEq] at waits
              obtain ⟨rfl, behind⟩ := waits
              simp only [List.any_cons, Bool.or_eq_false_iff, Item.stops,
                AgentExecutionEvent.core_endsQueue] at calm
              rw [calm.1] at remaining
              refine @Follows.coming handler _ pid item saves after before rest ?_ calm.2 fun asks => ?_
              · rw [inbox, ← behind]
                simp only [Call.inbox]
                rw [show after.remaining state.events = some ids from remaining]
                rfl
              · refine AgentExecutionEvent.merges_mono (fun taskId present => ?_) (merges asks)
                simp only [List.any_cons, AgentExecutionEvent.core_leavesRow, Bool.or_eq_true] at present ⊢
                rw [context]
                rcases present with stored | leaves | more
                · exact .inl (grown stored)
                · refine .inl ?_
                  cases event with
                  | task data =>
                      obtain ⟨task, target, store, _⟩ := saved_of_merges own found plain stepped handles rfl
                      have named : data.id = taskId := by simpa [AgentExecutionEvent.leavesRow] using leaves
                      have saved := @row_saved state _ ⟨_, task, .event none (.task data)⟩
                        (handler.scope call.context) taskId store
                      rw [State.stored, saved, if_pos ⟨rfl, (Option.some.inj target).symm.trans named⟩]
                      rfl
                  | _ => cases leaves
                · exact .inr more
      | finished _ ahead =>
          simp only [Call.inbox] at waits
          rw [show call.remaining state.events = some [] from ahead, Option.map_some, List.filterMap_nil,
            Option.some.injEq] at waits
          cases before <;> cases waits
      | lost gives => exact absurd gives stays

theorem Follows.step (wellFormed : state.WellFormed) (knows : state.Knows)
    (found : state.calls pid = some call) (plain : call.isResubscribe = false)
    (loyal : ¬ Forsakes handler pid state label) (stepped : state.step handler label = some next)
    (follows : Follows handler state pid item saves call) :
    ∃ after, next.calls pid = some after ∧ after.isResubscribe = false ∧
      Follows handler next pid item saves after := by
  obtain ⟨reached, later⟩ := calls_kept stepped found
  obtain ⟨request, context, _⟩ := origin_step wellFormed stepped found later
  refine ⟨reached, later, by simpa only [Call.isResubscribe, request] using plain, ?_⟩
  obtain ⟨after, effects, steppedTo, rfl⟩ := step_cases stepped
  have still : reached.handled = call.handled → (pid = label.pid → ¬ state.GivesUp handler label) →
      Follows handler (state.commit label.pid (after, effects)) pid item saves reached :=
    fun handled loyal => follows.still wellFormed knows stepped found later handled context loyal
  rcases commit_overheard later with ⟨rfl, overheard⟩ | ⟨differ, before, earlier, overheard⟩
  · cases steppedTo with
    | begun absent => cases absent.symm.trans found
    | resumed present resumed =>
        cases found.symm.trans present
        obtain ⟨calls, _⟩ := commit_resumed (wellFormed _ _ found) resumed
        rw [calls, Function.update_self, Option.some.injEq] at later
        subst later
        exact follows.resumed wellFormed knows found plain loyal resumed
    | published present | finishedBus present | executorReturned present | executorThrew present
    | reaped present =>
        cases found.symm.trans present
        exact still overheard.handled fun _ gives => gives.elim
    | abandoned present abandoned =>
        cases found.symm.trans present
        obtain ⟨_, _, rfl⟩ := Call.abandon_cases abandoned
        cases follows with
        | @coming before rest waits =>
            refine absurd ⟨rfl, trivial, call, ?_⟩ loyal
            cases before with
            | nil => exact ⟨item, rest, found, waits⟩
            | cons first before => exact ⟨first, before ++ item :: rest, found, waits⟩
        | merged member same writes =>
            refine .merged (overheard.handled ▸ member) same fun asks => ?_
            rw [context]
            exact writes asks
  · cases earlier.symm.trans found
    exact still overheard.handled fun same => absurd same differ

/-- The task has a row, or an event in the call's queue will leave one. -/
def expects (handler : Handler) (state : State) (call : Call) (taskId : String) : Bool :=
  state.stored (handler.scope call.context) taskId ||
    ((call.inbox state.events).waiting.getD []).any fun item => item.2.leavesRow taskId

/-- An event that reaches a call with an open queue is the last one in it. -/
theorem follows_published {id : EventId} {event : AgentExecutionEvent} (wellFormed : state.WellFormed)
    (knows : state.Knows) (ordered : state.Ordered) (hearing : state.Hearing pid)
    (found : state.calls pid = some call) (running : call.executorDone = false)
    (calm : call.received.any (fun entry => entry.2.endsQueue) = false)
    (stepped : state.step handler ⟨pid, .publish id event⟩ = some next) :
    ∃ after, next.calls pid = some after ∧ after.received = call.received ++ [(id, event)] ∧
      Follows handler next pid (itemOf (id, event)) (event.merges (state.expects handler call) = true)
        after := by
  have engaged : call.engaged = true := by rw [Call.engaged, running]; rfl
  have silent : (call.inbox state.events).received.any Item.stops = false := by
    simp only [Call.inbox, List.any_map]
    rw [show Item.stops ∘ itemOf = fun entry => entry.2.endsQueue from Call.stops_itemOf]
    exact calm
  obtain ⟨listens, items, waits, open'⟩ :=
    (hearing call found engaged).open (ordered pid _ (inbox_of found)) silent
  obtain ⟨after, effects, steppedTo, rfl⟩ := step_cases stepped
  cases steppedTo with
  | @published _ caller bus _ _ present attached unknown =>
      cases found.symm.trans present
      have listensOn : call.listensOn bus = true :=
        Call.listensOn_iff.mpr ⟨listens, (wellFormed pid call found).executorBus attached⟩
      have record : (state.apply pid (.publish bus id event)).calls pid =
          some (call.receive bus id event) := by
        rw [apply_calls, found]
        rfl
      rw [commit_cons, setCall_eq_self found]
      refine ⟨call.receive bus id event, record, ?_,
        @Follows.coming handler _ pid _ _ (call.receive bus id event) items [] ?_ open' ?_⟩
      · rw [Call.receive_received, if_pos listensOn]
      · change ((call.receive bus id event).inbox (Function.update state.events id (some event))).waiting = _
        rw [Call.receive_inbox (knows pid call found) unknown, if_pos listensOn, Inbox.receive, waits]
        rfl
      · intro merges
        simp only [itemOf, AgentExecutionEvent.core_merges]
        refine AgentExecutionEvent.merges_mono (fun taskId present => ?_) merges
        rw [expects, waits] at present
        exact present

/-- When everything has come to rest, nothing waits in a queue whose consumer is not suspended. -/
theorem Follows.rests (wellFormed : call.WellFormed) (idle : call.idle = true)
    (consumed : ∀ last, call.pc ≠ .suspended last)
    (follows : Follows handler state pid item saves call) :
    ∃ event, (item.1, event) ∈ call.handled ∧ event.core = item.2 ∧
      (saves → ∃ taskId latestUserMessage, event.target = some taskId ∧
        ⟨pid, handler.scope call.context, taskId, .event latestUserMessage event⟩ ∈ state.writes) := by
  cases follows with
  | merged member same writes => exact ⟨_, member, same, writes⟩
  | @coming before rest waits =>
      have nothing : (call.inbox state.events).waiting ≠ some [] ∧
          (call.inbox state.events).waiting ≠ none := by
        rw [waits]
        exact ⟨by simp, by simp⟩
      cases counter : call.pc with
      | finished =>
          refine absurd ?_ nothing.2
          rw [Call.inbox, Call.left_remaining counter, Option.map_none]
      | suspended last => exact absurd counter (consumed last)
      | pull =>
          obtain ⟨queue, queued⟩ := Option.isSome_iff_exists.mp
            (wellFormed.listening (by rw [counter]; rfl))
          simp only [Call.idle, counter, queued, Bool.and_eq_true, List.isEmpty_iff] at idle
          refine absurd ?_ nothing.1
          rw [Call.inbox, Call.remaining_queued queued, counter, idle.1]
          rfl
      | _ => simp [Call.idle, counter] at idle

end State

variable {handler : Handler} {state next final : State} {pid : Pid} {call after : Call} {id : EventId}
  {event : AgentExecutionEvent}

/-- No settlement cuts another execution off: what the executor of a call publishes before it has
settled reaches the call's queue, and is merged and saved by the time everything has come to rest,
unless the bus has been ended under the call, the queue has already received its last event, or the
call gives up. -/
theorem execution_applied {taskStore : InMemoryTaskStore}
    {pushNotificationStore : InMemoryPushNotificationStore} {taskIdToBus : String → Option BusId}
    {labels more : List Label}
    (runs : (handlerSystem handler).Runs
      (fun state label => ¬ State.CutsOff handler pid state label ∧ ¬ State.Deserts handler pid state label)
      (.initial taskStore pushNotificationStore taskIdToBus) labels state)
    (found : state.calls pid = some call) (running : call.executorDone = false)
    (calm : call.received.any (fun entry => entry.2.endsQueue) = false)
    (stepped : state.step handler ⟨pid, .publish id event⟩ = some next)
    (later : (handlerSystem handler).Runs (fun state label => ¬ State.Forsakes handler pid state label)
      next more final)
    (quiescent : final.Quiescent) (reached : final.calls pid = some after)
    (consumed : ∀ last, after.pc ≠ .suspended last) :
    (id, event) ∈ after.received ∧ ∃ merged, (id, merged) ∈ after.handled ∧ merged.core = event.core ∧
      (event.merges (state.expects handler call) = true → ∃ taskId latestUserMessage,
        merged.target = some taskId ∧
        ⟨pid, handler.scope after.context, taskId, .event latestUserMessage merged⟩ ∈ final.writes) := by
  obtain ⟨wellFormed, knows, ordered, hearing⟩ := runs.invariant
    (fun state => state.WellFormed ∧ state.Knows ∧ state.Ordered ∧ state.Hearing pid)
    ⟨State.wellFormed_initial _ _ _, by simp [State.Knows, State.initial],
      by simp [State.Ordered, State.inbox, State.initial], by simp [State.Hearing, State.initial]⟩
    (fun holds permitted stepped => ⟨State.wellFormed_step holds.1 stepped,
      State.knows_step holds.1 holds.2.1 stepped,
      State.ordered_step holds.1 holds.2.1 holds.2.2.1 stepped,
      holds.2.2.2.step holds.1 holds.2.1 holds.2.2.1 permitted.1 permitted.2 stepped⟩)
  have sends := (wellFormed pid call found).engaged_isSend (by rw [Call.engaged, running]; rfl)
  have plain : call.isResubscribe = false := by
    cases asks : call.request <;> simp_all [Call.isSend, Call.isResubscribe]
  obtain ⟨record, published, received, follows⟩ := State.follows_published wellFormed knows ordered hearing
    found running calm stepped
  have shaped := State.wellFormed_step wellFormed stepped
  have known := State.knows_step wellFormed knows stepped
  obtain ⟨request, _, _⟩ := State.origin_step wellFormed stepped found published
  obtain ⟨settled, _, last, present, _, followed⟩ := later.invariant
    (fun state => state.WellFormed ∧ state.Knows ∧ ∃ call, state.calls pid = some call ∧
      call.isResubscribe = false ∧ State.Follows handler state pid (itemOf (id, event)) _ call)
    ⟨shaped, known, record, published, by simpa only [Call.isResubscribe, request] using plain, follows⟩
    (fun holds permitted stepped => by
      obtain ⟨shaped, known, call, found, plain, follows⟩ := holds
      exact ⟨State.wellFormed_step shaped stepped, State.knows_step shaped known stepped,
        follows.step shaped known found plain permitted stepped⟩)
  cases reached.symm.trans present
  obtain ⟨_, _, _, same, tail, again, appended, _⟩ := State.received_run later shaped known published
  cases reached.symm.trans again
  refine ⟨?_, ?_⟩
  · rw [appended, received]
    simp
  · exact followed.rests (settled pid after reached) (quiescent pid after reached).1 consumed

open Scenario

/-- A check that implies that a step harms no call: no queue is given up, and a settled executor
keeps its bus alive. -/
def harmless (handler : Handler) (state : State) (label : Label) : Bool :=
  match label.action, state.calls label.pid with
  | .finishBus, _ | .abandon, _ | .resume (.fail _), _ => false
  | .executorReaped _, some call => call.execution.all (fun execution =>
      execution.tracker.lastState.any handler.keepBusAliveStates.contains)
  | .resume .ok, some call => call.pc.sends && !call.isStream
  | _, _ => true

theorem harmless_keeps (passed : harmless handler state label = true) :
    ¬ state.GivesUp handler label := by
  obtain ⟨actor, action⟩ := label
  cases action with
  | resume fate =>
      rintro ⟨call, found, gives⟩
      simp only [harmless, found] at passed
      cases fate with
      | fail error => cases passed
      | ok =>
          simp only [Bool.and_eq_true, Bool.not_eq_true'] at passed
          cases passed.2.symm.trans (gives.streams passed.1)
  | abandon => cases passed
  | _ => exact id

theorem harmless_spares (passed : harmless handler state label = true) :
    ¬ State.CutsOff handler pid state label := by
  intro cuts
  cases cuts with
  | finished => cases passed
  | settled _ _ _ _ found executing _ leaves =>
      simp only [harmless, found, executing, Option.all_some] at passed
      cases leaves.symm.trans passed

/-- A follow-up on a task whose first executor returns while the second is running. -/
def overlappingSchedule (taskState : TaskState) : List Label :=
  [calls 0 (.sendMessage (params (message "m" "") false)) (context "tenant" "user") "T"] ++
    resumes 0 1 ++ [publishes 0 0 (taskEvent "T" taskState)] ++ resumes 0 4 ++
    [calls 1 (.sendMessage (params (message "n" "T") false)) (context "tenant" "user") ""] ++
    resumes 1 3 ++ [returns 0, reaps 0 10 11]

/-- The second executor asks for a credential once more. -/
def credentialUpdate : Label := publishes 1 1 (statusEvent "T" .authRequired)

def credentialSchedule : List Label := resumes 1 4 ++ resumes 0 4 ++ [returns 1, reaps 1 12 13]

theorem execution_applied_overlapping :
    ∃ state call next final after, (handlerSystem (server false)).Runs
        (fun state label => ¬ State.CutsOff (server false) 1 state label ∧
          ¬ State.Deserts (server false) 1 state label)
        (seeded ⟨"", ""⟩ []) (overlappingSchedule .authRequired) state ∧
      state.calls 1 = some call ∧ call.executorDone = false ∧
      state.step (server false) credentialUpdate = some next ∧
      (handlerSystem (server false)).Runs (fun state label => ¬ State.Forsakes (server false) 1 state label)
        next credentialSchedule final ∧
      final.Quiescent ∧ final.calls 1 = some after ∧
      (1, statusEvent "T" .authRequired) ∈ after.received := by
  have ran : ((handlerSystem (server false)).checkedRun (harmless (server false)) (seeded ⟨"", ""⟩ [])
      (overlappingSchedule .authRequired)).bind (fun state => (state.calls 1).bind fun call =>
        (state.step (server false) credentialUpdate).bind fun next =>
          ((handlerSystem (server false)).checkedRun (harmless (server false)) next credentialSchedule).bind
            fun final => (final.calls 1).map fun after =>
              (call.executorDone, call.received.any (fun entry => entry.2.endsQueue), after.pc.yields,
                settled ((overlappingSchedule .authRequired ++ [credentialUpdate] ++
                  credentialSchedule).map Label.pid) final)) =
      some (false, false, false, true) := rfl
  obtain ⟨state, ranFirst, rest⟩ := Option.bind_eq_some_iff.mp ran
  obtain ⟨call, found, rest⟩ := Option.bind_eq_some_iff.mp rest
  obtain ⟨next, stepped, rest⟩ := Option.bind_eq_some_iff.mp rest
  obtain ⟨final, ranLater, rest⟩ := Option.bind_eq_some_iff.mp rest
  obtain ⟨after, reached, facts⟩ := Option.map_eq_some_iff.mp rest
  simp only [Prod.mk.injEq] at facts
  obtain ⟨running, calm, awake, rests⟩ := facts
  have runs := @System.runs_of_checkedRun _ _ (handlerSystem (server false))
    (fun state label => ¬ State.CutsOff (server false) 1 state label ∧
      ¬ State.Deserts (server false) 1 state label) _ _ _ _ (fun _ => True)
    (fun _ _ _ passed => ⟨harmless_spares passed, fun deserts => harmless_keeps passed deserts.2.1⟩)
    (fun _ _ _ => trivial) trivial ranFirst
  have later := @System.runs_of_checkedRun _ _ (handlerSystem (server false))
    (fun state label => ¬ State.Forsakes (server false) 1 state label) _ _ _ _ (fun _ => True)
    (fun _ _ _ passed => fun forsakes => harmless_keeps passed forsakes.2.1)
    (fun _ _ _ => trivial) trivial ranLater
  have whole : (handlerSystem (server false)).Reaches (seeded ⟨"", ""⟩ [])
      (overlappingSchedule .authRequired ++ [credentialUpdate] ++ credentialSchedule) final :=
    System.Runs.trans (.snoc (runs.mono fun _ _ _ => trivial) trivial stepped)
      (later.mono fun _ _ _ => trivial)
  have quiescent := quiescent_of_settled whole rfl rests
  have consumed : ∀ last, after.pc ≠ .suspended last := by
    intro last suspended
    rw [suspended] at awake
    cases awake
  exact ⟨state, call, next, final, after, runs, found, running, stepped, later, quiescent, reached,
    (execution_applied runs found running calm stepped later quiescent reached consumed).1⟩

/-- The second executor reports its result. -/
def resultUpdate : Label := publishes 1 1 (statusEvent "T" .completed)

def resultSchedule : List Label := resumes 1 1 ++ resumes 0 1 ++ [returns 1, reaps 1 12 13]

/-- The executor that returns first has left its task in a state that closes the bus; the result of
the other one reaches nobody, and the stored task stays as it was. -/
theorem first_return_cuts_followup_off :
    ∃ state call next final after,
      (handlerSystem (server false)).run (seeded ⟨"", ""⟩ []) (overlappingSchedule .working) = some state ∧
      state.calls 1 = some call ∧ call.executorDone = false ∧
      state.step (server false) resultUpdate = some next ∧
      (handlerSystem (server false)).run next resultSchedule = some final ∧ final.Quiescent ∧
      final.calls 1 = some after ∧ after.received = [] ∧
      (final.row ⟨"tenant", "user"⟩ "T").bind Task.state = some .working := by
  have ran : ((handlerSystem (server false)).run (seeded ⟨"", ""⟩ []) (overlappingSchedule .working)).bind
      (fun state => (state.calls 1).bind fun call =>
        (state.step (server false) resultUpdate).bind fun next =>
          ((handlerSystem (server false)).run next resultSchedule).bind fun final =>
            (final.calls 1).map fun after =>
              (call.executorDone, after.received, (final.row ⟨"tenant", "user"⟩ "T").bind Task.state,
                settled ((overlappingSchedule .working ++ [resultUpdate] ++
                  resultSchedule).map Label.pid) final)) =
      some (false, [], some .working, true) := rfl
  obtain ⟨state, ranFirst, rest⟩ := Option.bind_eq_some_iff.mp ran
  obtain ⟨call, found, rest⟩ := Option.bind_eq_some_iff.mp rest
  obtain ⟨next, stepped, rest⟩ := Option.bind_eq_some_iff.mp rest
  obtain ⟨final, ranLater, rest⟩ := Option.bind_eq_some_iff.mp rest
  obtain ⟨after, reached, facts⟩ := Option.map_eq_some_iff.mp rest
  simp only [Prod.mk.injEq] at facts
  obtain ⟨running, nothing, working, rests⟩ := facts
  have whole : (handlerSystem (server false)).Reaches (seeded ⟨"", ""⟩ [])
      (overlappingSchedule .working ++ [resultUpdate] ++ resultSchedule) final :=
    System.Runs.trans (.snoc (System.reaches_of_run ranFirst) trivial stepped)
      (System.reaches_of_run ranLater)
  exact ⟨state, call, next, final, after, ranFirst, found, running, stepped, ranLater,
    quiescent_of_settled whole rfl rests, reached, nothing, working⟩

end A2A.Server
