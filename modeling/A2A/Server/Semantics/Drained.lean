import A2A.Server.Semantics.Replay

namespace A2A.Server

open Library

/-! A call that goes on until it has handled everything its queue accepts.

In a run in which the call never gives up, its inbox is delivered and its loop
reports no failure.  The row of the task is then always the row from before the
loop with the handled events merged into it.
-/

/-- No call but `pid` saves a task under the id, and that call never gives up. -/
def ConsumedBy (handler : Handler) (pid : Pid) (taskId : String) (state : State) (label : Label) :
    Prop :=
  WrittenBy handler pid taskId state label ∧ (label.pid = pid → ¬ state.GivesUp handler label)

namespace Call

variable {handler : Handler} {view : View} {events : EventHeap} {pid : Pid} {fate : Fate}
  {call after : Call} {effects : List Effect} {taskId : String}

/-- A queue that does not listen stays so until its call gives up. -/
theorem Reading.mutes (reading : Reading view call fate after) (loyal : ¬ call.GivesUp view fate)
    (attached : call.bus.isSome = true) (listens : after.listening = true) :
    call.listening = true := by
  cases reading with
  | quiet _ _ _ _ mutes | handled _ _ _ _ _ _ mutes => exact mutes listens
  | attached _ unqueued => simp [Call.bus, unqueued] at attached
  | finished _ _ _ _ _ _ muted => simp [muted] at listens
  | lost gives => exact absurd gives loyal

/-- While its queue listens, the last task that the executor's tracker has seen is among what the
queue has received. -/
def Tracks (call : Call) : Prop :=
  ∀ execution task, call.execution = some execution → call.listensOn execution.eventBus = true →
    execution.tracker.lastTask = some task → ∃ id, (id, .task task) ∈ call.received

theorem Tracks.receive (tracks : call.Tracks) (bus : BusId) (id : EventId) (event : AgentExecutionEvent) :
    (call.receive bus id event).Tracks := by
  intro execution task executing listens last
  obtain ⟨earlier, found, rfl⟩ := Option.map_eq_some_iff.mp executing
  rw [receive_listensOn, Execution.receive_eventBus] at listens
  rw [receive_received]
  have old : earlier.tracker.lastTask = some task →
      ∃ id', (id', .task task) ∈ if call.listensOn bus then call.received ++ [(id, event)] else call.received := by
    intro before
    obtain ⟨known, member⟩ := tracks earlier task found listens before
    refine ⟨known, ?_⟩
    split
    · exact List.mem_append_left _ member
    · exact member
  simp only [Execution.receive] at last
  split at last
  · rename_i hears
    rw [hears.2] at listens
    cases event with
    | task data =>
        cases last
        exact ⟨id, by simp [listens]⟩
    | _ => exact old last
  · exact old last

/-- A call that listens to no more than before, with the same record of its execution. -/
theorem Tracks.muted (tracks : call.Tracks)
    (executes : ∀ execution, after.execution = some execution → ∃ earlier, call.execution = some earlier ∧
      earlier.eventBus = execution.eventBus ∧ earlier.tracker.lastTask = execution.tracker.lastTask)
    (mutes : ∀ bus, after.listensOn bus = true → call.listensOn bus = true)
    (received : after.received = call.received) : after.Tracks := by
  intro execution task executing listens last
  obtain ⟨earlier, found, bus, same⟩ := executes execution executing
  rw [received]
  exact tracks earlier task found (bus ▸ mutes _ listens) (same.trans last)

theorem Tracks.listen (tracks : call.Tracks) (taskIdToBus : String → Option BusId) (effect : Effect) :
    (effect.listen taskIdToBus call).Tracks := by
  have removed : ∀ bus, (call.removeListeners bus).Tracks := by
    intro bus
    refine tracks.muted ?_ ?_ rfl
    · intro execution executing
      obtain ⟨earlier, found, rfl⟩ := Option.map_eq_some_iff.mp executing
      refine ⟨earlier, found, ?_, ?_⟩ <;> simp only [Execution.removeListeners] <;> split <;> rfl
    · intro other listens
      rw [listensOn_iff] at listens ⊢
      exact ⟨removeListeners_mutes listens.1, (removeListeners_overheard bus).bus ▸ listens.2⟩
  cases effect with
  | publish bus id event => exact tracks.receive bus id event
  | finished bus =>
      refine tracks.muted (fun execution executing => ⟨execution, executing, rfl, rfl⟩) ?_ rfl
      intro other listens
      rw [listensOn_iff] at listens ⊢
      exact ⟨receiveFinished_mutes listens.1, (receiveFinished_overheard bus).bus ▸ listens.2⟩
  | cleanup taskId =>
      simp only [Effect.listen]
      cases taskIdToBus taskId with
      | none => exact tracks
      | some bus => exact removed bus
  | _ => exact tracks

/-- No step takes a call's queue away. -/
theorem BusUse.attached_kept (use : BusUse view pid call fate after effects)
    (attached : call.bus.isSome = true) : after.bus.isSome = true := by
  cases use with
  | unchanged _ same => rwa [same]
  | attached _ _ _ same | prepared _ _ _ _ same | started _ _ _ _ _ same
  | startedPrepared _ _ _ _ _ same => rw [same]; rfl

theorem Resumed.tracks (wellFormed : call.WellFormed) (knows : call.Knows view.event) (tracks : call.Tracks)
    (loyal : ¬ call.GivesUp view fate) (resumed : Resumed handler view pid call fate after effects) :
    after.Tracks := by
  have reads := resumed.reads wellFormed knows
  have fresh : ∀ {requestContext : RequestContext} {bus : BusId},
      after.execution = some ⟨requestContext, bus, .new, .running⟩ → after.Tracks := by
    intro requestContext bus started execution task executing _ last
    cases started.symm.trans executing
    cases last
  cases resumed.busUse wellFormed with
  | unchanged same bus | attached _ _ same bus =>
      intro execution task executing listens last
      rw [same] at executing
      have attached := (wellFormed.executes execution executing).2.1
      rw [listensOn_iff] at listens
      have mutes := reads.mutes loyal (by rw [attached]; rfl) listens.1
      rw [reads.received_kept]
      exact tracks execution task executing (listensOn_iff.mpr ⟨mutes, attached⟩) last
  | prepared _ _ _ none =>
      intro execution task executing
      simp [none] at executing
  | started _ _ _ _ started => exact fresh started
  | startedPrepared _ _ _ _ started => exact fresh started

/-- The queue takes in nothing more. -/
structure Deaf (received : List (EventId × AgentExecutionEvent)) (call : Call) : Prop where
  attached : call.bus.isSome = true
  muted : call.listening = false
  received : call.received = received

theorem Deaf.listen {received : List (EventId × AgentExecutionEvent)} (deaf : call.Deaf received)
    (taskIdToBus : String → Option BusId) (effect : Effect) :
    (effect.listen taskIdToBus call).Deaf received := by
  have muted : ∀ {after : Call}, call.Overheard after → after.received = call.received →
      (after.listening = true → call.listening = true) → after.Deaf received := by
    intro after overheard same mutes
    refine ⟨overheard.bus ▸ deaf.attached, ?_, same.trans deaf.received⟩
    cases listens : after.listening with
    | false => rfl
    | true => exact (mutes listens).symm.trans deaf.muted
  cases effect with
  | publish bus id event =>
      have silent : ∀ other, call.listensOn other = false := by
        intro other
        cases listens : call.listensOn other with
        | false => rfl
        | true => exact (listensOn_listening listens).symm.trans deaf.muted
      have heard := @receive_overheard call bus id event
      refine muted heard ?_ fun listens => ?_
      · change (call.receive bus id event).received = call.received
        rw [receive_received, silent, if_neg (by simp)]
      · obtain ⟨other, attached⟩ := Option.isSome_iff_exists.mp deaf.attached
        have hears : (call.receive bus id event).listensOn other = true :=
          listensOn_iff.mpr ⟨listens, heard.bus.trans attached⟩
        rw [receive_listensOn, silent] at hears
        cases hears
  | finished bus => exact muted (receiveFinished_overheard bus) rfl receiveFinished_mutes
  | cleanup taskId =>
      simp only [Effect.listen]
      cases taskIdToBus taskId with
      | none => exact deaf
      | some bus => exact muted (removeListeners_overheard bus) rfl removeListeners_mutes
  | _ => exact deaf

theorem stops_itemOf : (fun item => Item.stops (itemOf item)) =
    fun item : EventId × AgentExecutionEvent => item.2.endsQueue :=
  funext fun item => AgentExecutionEvent.core_endsQueue item.2

/-- An idle call whose consumer is not waiting has handled all it received up to the end of the queue. -/
theorem drained_handled (wellFormed : call.WellFormed)
    (delivered : (call.inbox events).Delivered Item.stops) (idle : call.idle = true)
    (consumed : ∀ last, call.pc ≠ .suspended last) :
    call.handled.map itemOf =
      (takeThrough (fun item => item.2.endsQueue) call.received).map itemOf := by
  rw [← stops_itemOf, ← takeThrough_map]
  cases counter : call.pc with
  | finished =>
      refine (delivered.stopped ?_).1
      simp [inbox, left_remaining counter]
  | pull =>
      obtain ⟨queue, queued⟩ := Option.isSome_iff_exists.mp
        (wellFormed.listening (by rw [counter]; rfl))
      simp only [Call.idle, counter, queued, Bool.and_eq_true, List.isEmpty_iff] at idle
      obtain ⟨same, calm⟩ := delivered.reading [] (by
        simp [inbox, remaining_queued queued, counter, Pc.waiting, idle.1])
      rw [List.append_nil] at same
      change (call.inbox events).handled = takeThrough Item.stops (call.inbox events).received
      rw [same, takeThrough_of_none calm]
  | suspended last => exact absurd counter (consumed last)
  | _ => simp [Call.idle, counter] at idle

/-- A call on its way to its executor saves nothing but the appended message. -/
theorem pending_starts {held : Pending} (starts : call.pc.starts = true)
    (holds : call.pending handler = some held) : ∃ message, held.write = .append message := by
  cases counter : call.pc <;> simp_all [pending, Pc.starts]
  exact ⟨_, by rw [← holds]⟩

end Call

namespace State

variable {handler : Handler} {state next : State} {label : Label} {pid : Pid} {call after : Call}
  {fate : Fate} {taskId : String} {start : Scope → Option Task} {base : Option Task}

/-- What is known of every state of a run in which one call writes a task and never gives up. -/
structure Consuming (handler : Handler) (start : Scope → Option Task) (pid : Pid) (taskId : String)
    (state : State) : Prop extends Followed handler start pid taskId state where
  delivered : ∀ inbox, state.inbox pid = some inbox → inbox.Delivered Item.stops
  silent : ∀ call, state.calls pid = some call → call.pc.reportsFailure = false
  tracks : ∀ call, state.calls pid = some call → call.Tracks

theorem consuming_initial (taskStore : InMemoryTaskStore)
    (pushNotificationStore : InMemoryPushNotificationStore) (taskIdToBus : String → Option BusId) :
    Consuming handler (fun scope => taskStore.load scope taskId) pid taskId
      (.initial taskStore pushNotificationStore taskIdToBus) where
  toFollowed := followed_initial _ _ _
  delivered inbox found := by simp [State.inbox, initial] at found
  silent call found := by simp [initial] at found
  tracks call found := by simp [initial] at found

theorem begin_delivered {view : View} (events : EventHeap) (request : Request)
    (context : ServerCallContext) (requestedExtensions : Option (List String)) (fresh : Fresh) :
    Inbox.Delivered Item.stops
      ((handler.begin view request context requestedExtensions fresh).inbox events) := by
  obtain ⟨_, received, handled, remaining⟩ :=
    @begin_blank handler view events request context requestedExtensions fresh
  rcases remaining with ⟨nothing, deaf⟩ | nothing
  · refine ⟨fun items waits => ?_, fun _ => ⟨?_, fun listens => ?_⟩⟩
    · simp [Call.inbox, nothing] at waits
    · simp [Call.inbox, received, handled, takeThrough]
    · simp [Call.inbox, deaf] at listens
  · refine ⟨fun items waits => ?_, fun none => ?_⟩
    · simp only [Call.inbox, nothing, Option.map_some, List.filterMap_nil, Option.some.injEq] at waits
      simp [Call.inbox, received, handled, ← waits]
    · simp [Call.inbox, nothing] at none

theorem begin_silent {view : View} (request : Request) (context : ServerCallContext)
    (requestedExtensions : Option (List String)) (fresh : Fresh) :
    (handler.begin view request context requestedExtensions fresh).pc.reportsFailure = false := by
  have begun := @Call.begin_cases handler view request context requestedExtensions fresh
  generalize handler.begin view request context requestedExtensions fresh = call at begun ⊢
  cases begun with
  | starts =>
      simp only [Call.resolveReferences]
      split <;> rfl
  | loads counter => rcases counter with rfl | rfl | rfl | rfl <;> rfl
  | _ => rfl

/-- The record of the consuming call, after a step of its own and before the listeners. -/
theorem Consuming.stepped (consuming : Consuming handler start pid taskId state)
    {effects : List Effect} (own : label.pid = pid) (loyal : ¬ state.GivesUp handler label)
    (stepped : Stepped handler state label after effects) :
    after.pc.reportsFailure = false ∧ after.Tracks := by
  subst own
  cases stepped with
  | begun =>
      refine ⟨begin_silent _ _ _ _, fun execution task executing => ?_⟩
      rw [(Call.begin_bus _ _ _ _).1] at executing
      cases executing
  | @resumed pid call fate after effects found resumed =>
      have cases' := Call.resume_cases resumed
      have faithful : ¬ call.GivesUp (state.view pid (handler.scope call.context)) fate :=
        fun gives => loyal ⟨call, found, gives⟩
      refine ⟨?_, cases'.tracks (consuming.wellFormed _ _ found) (consuming.knows _ _ found)
        (consuming.tracks _ found) faithful⟩
      by_contra reports
      obtain ⟨_, earlier | ⟨fails, id, key, working⟩⟩ :=
        cases'.reporting (consuming.wellFormed _ _ found) (by simpa using reports)
      · simp [consuming.silent _ found] at earlier
      · cases fate with
        | ok => exact fails rfl
        | fail error =>
            refine faithful (.failed fun other mapping => ?_)
            rcases working with waiting | ⟨event, saving⟩
            · cases waiting.symm.trans mapping
            · cases saving.symm.trans mapping
  | published found | finishedBus found =>
      exact ⟨consuming.silent _ found, consuming.tracks _ found⟩
  | executorReturned found executing | executorThrew found executing =>
      have silent := consuming.silent _ found
      refine ⟨silent, (consuming.tracks _ found).muted ?_ (fun _ => id) rfl⟩
      rintro _ ⟨⟩
      exact ⟨_, executing, rfl, rfl⟩
  | reaped found executing _ _ _ reaped =>
      have silent := consuming.silent _ found
      refine ⟨silent, (consuming.tracks _ found).muted ?_ (fun _ => id) rfl⟩
      rintro _ ⟨⟩
      cases Execution.reap_cases reaped <;> exact ⟨_, executing, rfl, rfl⟩
  | abandoned => exact (loyal trivial).elim

theorem Consuming.step (consuming : Consuming handler start pid taskId state)
    (permitted : ConsumedBy handler pid taskId state label)
    (stepped : state.step handler label = some next) : Consuming handler start pid taskId next where
  toFollowed := consuming.toFollowed.step permitted.1 stepped
  delivered inbox arrived := by
    cases found : state.inbox pid with
    | some before =>
        obtain ⟨after, same, steps⟩ := inbox_step consuming.wellFormed consuming.knows stepped found
          fun own => permitted.2 own.symm
        cases arrived.symm.trans same
        exact (consuming.delivered before found).steps steps
    | none =>
        obtain ⟨record, present, rfl⟩ := Option.map_eq_some_iff.mp arrived
        have absent : state.calls pid = none := Option.map_eq_none_iff.mp found
        obtain ⟨after, effects, steppedTo, rfl⟩ := step_cases stepped
        have own : pid = label.pid := (calls_step stepped present).resolve_right fun earlier => by
          simp [absent] at earlier
        subst own
        cases steppedTo with
        | begun =>
            cases setCall_self.symm.trans present
            exact begin_delivered _ _ _ _ _
        | resumed known | published known | finishedBus known | executorReturned known
        | executorThrew known | reaped known | abandoned known => cases absent.symm.trans known
  silent after later := by
    obtain ⟨record, effects, steppedTo, rfl⟩ := step_cases stepped
    rcases commit_overheard later with ⟨own, overheard⟩ | ⟨_, before, earlier, overheard⟩
    · rw [overheard.pc]
      exact (consuming.stepped own.symm (permitted.2 own.symm) steppedTo).1
    · rw [overheard.pc]
      exact consuming.silent before earlier
  tracks after later := by
    obtain ⟨record, effects, steppedTo, rfl⟩ := step_cases stepped
    refine foldl_holds (fun taskIdToBus effect tracks => Call.Tracks.listen tracks taskIdToBus effect)
      (fun call present => ?_) later
    by_cases own : pid = label.pid
    · subst own
      rw [setCall_self, Option.some.injEq] at present
      exact present ▸ (consuming.stepped rfl (permitted.2 rfl) steppedTo).2
    · rw [setCall_of_ne own] at present
      exact consuming.tracks call present

theorem Consuming.deaf (consuming : Consuming handler start pid taskId state)
    {received : List (EventId × AgentExecutionEvent)}
    (permitted : ConsumedBy handler pid taskId state label)
    (stepped : state.step handler label = some next) (found : state.calls pid = some call)
    (deaf : call.Deaf received) (later : next.calls pid = some after) : after.Deaf received := by
  obtain ⟨record, effects, steppedTo, rfl⟩ := step_cases stepped
  refine foldl_holds (fun taskIdToBus effect deaf => Call.Deaf.listen deaf taskIdToBus effect)
    (fun before present => ?_) later
  by_cases own : pid = label.pid
  · subst own
    rw [setCall_self, Option.some.injEq] at present
    subst present
    cases steppedTo with
    | begun absent => cases absent.symm.trans found
    | resumed known resumed =>
        cases found.symm.trans known
        have faithful : ¬ call.GivesUp _ _ := fun gives => permitted.2 rfl ⟨call, found, gives⟩
        have cases' := Call.resume_cases resumed
        have reads := cases'.reads (consuming.wellFormed _ _ found) (consuming.knows _ _ found)
        refine ⟨?_, ?_, reads.received_kept.trans deaf.received⟩
        · exact (cases'.busUse (consuming.wellFormed _ _ found)).attached_kept deaf.attached
        · cases listens : record.listening with
          | false => rfl
          | true => exact (reads.mutes faithful deaf.attached listens).symm.trans deaf.muted
    | published known | finishedBus known | executorReturned known | executorThrew known
    | reaped known =>
        cases found.symm.trans known
        exact ⟨deaf.attached, deaf.muted, deaf.received⟩
    | abandoned => exact (permitted.2 rfl trivial).elim
  · rw [setCall_of_ne own] at present
    cases found.symm.trans present
    exact deaf

/-! ### The row before the loop -/

/-- The row of the task is the handled events merged into `base`. -/
def MergedInto (handler : Handler) (state : State) (taskId : String) (base : Option Task) (call : Call) :
    Prop :=
  state.row (handler.scope call.context) taskId = call.replayed taskId base

theorem MergedInto.step (consuming : Consuming handler start pid taskId state)
    (permitted : WrittenBy handler pid taskId state label)
    (stepped : state.step handler label = some next) (found : state.calls pid = some call)
    (asked : call.isSend = true) (looping : call.pc.starts = false)
    (merged : state.MergedInto handler taskId base call) (later : next.calls pid = some after) :
    next.MergedInto handler taskId base after := by
  rcases consuming.steps permitted stepped found later with
    ⟨fate, record, effects, rfl, resumed, rfl, overheard⟩ | ⟨_, handled, context, latest, row⟩
  · have whole := (replayed_resumed consuming.wellFormed consuming.knows (consuming.serial _) found asked
      ((consuming.synced _ found).route asked) looping merged resumed).resolve_right fun reports => by
        simp [consuming.silent _ found] at reports
    rw [MergedInto, overheard.context, whole, Call.replayed, Call.replayed, overheard.handled,
      overheard.resultManager]
  · rw [MergedInto, context, row, merged, Call.replayed, Call.replayed, handled, latest]

/-- Until its loop starts, a call only appends a message to the row. -/
theorem starting_row {property : Option Task → Prop} {scope : Scope}
    (followed : Followed handler start pid taskId state)
    (appends : ∀ row message, property row → property (Write.apply row (.append message)))
    (permitted : WrittenBy handler pid taskId state label)
    (stepped : state.step handler label = some next)
    (starts : ∀ call, state.calls pid = some call → call.pc.starts = true)
    (holds : property (state.row scope taskId)) : property (next.row scope taskId) := by
  by_cases own : label.pid = pid
  · subst own
    cases held : state.pending handler label.pid with
    | none =>
        rw [row_kept (store_kept followed.wellFormed stepped fun _ => held).1]
        exact holds
    | some copy =>
        by_cases saves : label.action = .resume .ok
        · obtain ⟨call, found, pending⟩ := Option.bind_eq_some_iff.mp held
          obtain ⟨message, appended⟩ := Call.pending_starts (starts call found) pending
          rw [row_saved (pending_saves stepped saves held).2.1]
          split
          · rename_i here
            have current := ((followed.serial scope).hands () (some copy.task) copy.write (by
              simp only [ownRegister, register_hands held, here, and_self, if_true])).2
            rw [← current, appended]
            exact appends _ message holds
          · exact holds
        · rw [row_kept (store_kept followed.wellFormed stepped fun resumed => absurd resumed saves).1]
          exact holds
  · have kept := congrArg Register.content
      (@ownRegister_other handler state next label pid scope taskId followed.wellFormed permitted own stepped)
    exact Eq.subst (motive := property) kept.symm holds

/-- A call that never gives up merges into a row that is as the run's first row, up to appended
messages. -/
theorem exists_merged {property : Option Task → Prop} {taskStore : InMemoryTaskStore}
    {pushNotificationStore : InMemoryPushNotificationStore} {taskIdToBus : String → Option BusId}
    {labels : List Label}
    (appends : ∀ row message, property row → property (Write.apply row (.append message)))
    (runs : (handlerSystem handler).Runs (ConsumedBy handler pid taskId)
      (.initial taskStore pushNotificationStore taskIdToBus) labels state)
    (found : state.calls pid = some call) (asked : call.isSend = true)
    (initially : property (taskStore.load (handler.scope call.context) taskId)) :
    Consuming handler (fun scope => taskStore.load scope taskId) pid taskId state ∧
      ∃ base, property base ∧ (∀ task, base = some task → task.id = taskId) ∧
        state.MergedInto handler taskId base call := by
  let scope := handler.scope call.context
  have holds := runs.invariant (fun current =>
    Consuming handler (fun scope => taskStore.load scope taskId) pid taskId current ∧
      (current.calls pid = none → property (current.row scope taskId)) ∧
      ∀ call, current.calls pid = some call → call.isSend = true → handler.scope call.context = scope →
        ∃ base, property base ∧ (∀ task, base = some task → task.id = taskId) ∧
          current.MergedInto handler taskId base call)
    ⟨consuming_initial _ _ _, fun _ => initially, fun call found => by simp [initial] at found⟩ ?_
  · exact ⟨holds.1, holds.2.2 call found asked rfl⟩
  rintro current label next ⟨consuming, absent, merges⟩ permitted stepped
  -- Until the loop starts the row itself is the base, for nothing has been handled.
  have starting : ∀ record, next.calls pid = some record → record.handled = [] →
      handler.scope record.context = scope → property (next.row scope taskId) →
      ∃ base, property base ∧ (∀ task, base = some task → task.id = taskId) ∧
        next.MergedInto handler taskId base record := by
    intro record later handled own holds
    refine ⟨_, holds, fun task => row_id, ?_⟩
    rw [MergedInto, own, Call.replayed, handled]
    rfl
  refine ⟨consuming.step permitted stepped, fun none => ?_, fun after later asked own => ?_⟩
  · cases earlier : current.calls pid with
    | none =>
        exact starting_row consuming.toFollowed appends permitted.1 stepped
          (fun call found => by simp [earlier] at found) (absent earlier)
    | some before =>
        obtain ⟨after, later⟩ := calls_kept stepped earlier
        cases none.symm.trans later
  · cases earlier : current.calls pid with
    | none =>
        have row := starting_row consuming.toFollowed appends permitted.1 stepped
          (fun call found => by simp [earlier] at found) (absent earlier)
        exact starting after later (handled_begun stepped earlier later) own row
    | some before =>
        obtain ⟨request, context, _⟩ := origin_step consuming.wellFormed stepped earlier later
        have sends : before.isSend = true := by simpa only [Call.isSend, request] using asked
        obtain ⟨base, holds, identified, merged⟩ := merges before earlier sends (context ▸ own)
        cases starts : before.pc.starts with
        | true =>
            have blank := consuming.unstarted before earlier starts
            rw [MergedInto, Call.replayed, blank, ← context, own] at merged
            refine starting after later (handled_step consuming.wellFormed consuming.knows stepped
              earlier later (consuming.unstarted before earlier) starts) own ?_
            refine starting_row consuming.toFollowed appends permitted.1 stepped ?_ (merged ▸ holds)
            intro call found
            cases earlier.symm.trans found
            exact starts
        | false => exact ⟨base, holds, identified, merged.step consuming permitted.1 stepped earlier sends starts later⟩

/-- Once an undisturbed call is idle, its row is the row from before the loop with all that its queue
has received, up to the event that ends it, merged into it. -/
theorem exists_drained {property : Option Task → Prop} {taskStore : InMemoryTaskStore}
    {pushNotificationStore : InMemoryPushNotificationStore} {taskIdToBus : String → Option BusId}
    {labels : List Label}
    (appends : ∀ row message, property row → property (Write.apply row (.append message)))
    (runs : (handlerSystem handler).Runs (ConsumedBy handler pid taskId)
      (.initial taskStore pushNotificationStore taskIdToBus) labels state)
    (found : state.calls pid = some call) (asked : call.isSend = true)
    (initially : property (taskStore.load (handler.scope call.context) taskId))
    (idle : call.idle = true) (consumed : ∀ last, call.pc ≠ .suspended last) :
    ∃ base, property base ∧ (∀ task, base = some task → task.id = taskId) ∧
      state.row (handler.scope call.context) taskId =
        (takeThrough (fun item => item.2.endsQueue) call.received).foldl
          (replay call.resultManager.latestUserMessage taskId) base := by
  obtain ⟨consuming, base, holds, identified, merged⟩ := exists_merged appends runs found asked initially
  refine ⟨base, holds, identified, merged.trans ?_⟩
  have merges : call.isResubscribe = false := by
    cases asks : call.request <;> simp_all [Call.isSend, Call.isResubscribe]
  refine (consuming.recorded call found merges).replayed_received
    (fun item member => (takeThrough_sublist _).subset member) ?_ base
  exact Call.drained_handled (consuming.wellFormed pid call found)
    (consuming.delivered _ (inbox_of found)) idle consumed

end State

end A2A.Server
