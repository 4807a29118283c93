import A2A.Server.Semantics.Records

namespace A2A.Server

open Library

/-! The row of a task with one writer as the replay of what the writer has handled.

`State.Replays` says that the row is the row at the start with the handled
events merged into it, in order.  Only a reported failure of the call's own loop
leaves something else behind.
-/

/-- No executor failure of the loop apart, `handled` is what the row is made of. -/
def replay (latestUserMessage : Option Message) (taskId : String) (row : Option Task)
    (item : EventId × AgentExecutionEvent) : Option Task :=
  if item.2.target = some taskId then Write.apply row (.event latestUserMessage item.2) else row

/-- A task event is merged with the row. -/
theorem replay_task {latest : Option Message} {row : Option Task} {id : EventId} {data : Task}
    (named : data.id ≠ "") :
    replay latest data.id row (id, .task data) = some (mergeTaskEvent latest row data) := by
  simp only [replay, AgentExecutionEvent.target, if_true, Write.apply, Write.loads_task named]
  rfl

theorem replay_statusUpdate {latest : Option Message} {task : Task} {id : EventId}
    {data : TaskStatusUpdateEvent} (named : data.taskId ≠ "") (same : task.id = data.taskId) :
    replay latest data.taskId (some task) (id, .statusUpdate data) =
      some (mergeStatusUpdate task data) := by
  have loads : (AgentExecutionEvent.statusUpdate data).loads (some task) = some task := by
    simp [AgentExecutionEvent.loads, ResultManager.needsLoad, named]
  simp [replay, AgentExecutionEvent.target, Write.apply, loads, ResultManager.mergeInto, same]

namespace Call

variable {handler : Handler} {view : View} {pid : Pid} {fate : Fate} {call after : Call}
  {effects : List Effect}

/-- The loop has come to its end by an event. -/
def stopped (call : Call) : Bool := call.handled.any (fun item => item.2.endsQueue)

/-- What the row would be if nothing but the handled events had been merged since `base`. -/
def replayed (call : Call) (taskId : String) (base : Option Task) : Option Task :=
  call.handled.foldl (replay call.resultManager.latestUserMessage taskId) base

/-- A replay keeps to the row it is about. -/
theorem foldl_replay_id {latest : Option Message} {taskId : String}
    {items : List (EventId × AgentExecutionEvent)} {base : Option Task} {task : Task}
    (identified : ∀ task, base = some task → task.id = taskId)
    (folded : items.foldl (replay latest taskId) base = some task) : task.id = taskId := by
  induction items generalizing base with
  | nil => exact identified task folded
  | cons item rest ih =>
      refine ih (fun after replayed => ?_) folded
      simp only [replay] at replayed
      split at replayed
      · rename_i target
        exact @Write.apply_id taskId (.event latest item.2) after base target identified replayed
      · exact identified after replayed

theorem target_of_itemOf {first second : EventId × AgentExecutionEvent} (same : itemOf first = itemOf second) :
    first.1 = second.1 ∧ first.2.target = second.2.target := by
  simp only [itemOf, Prod.mk.injEq] at same
  refine ⟨same.1, ?_⟩
  rw [← AgentExecutionEvent.core_target first.2, same.2, AgentExecutionEvent.core_target]

/-- Only the task's own events count in a replay. -/
theorem foldl_replay_congr {latest : Option Message} {taskId : String}
    {items others : List (EventId × AgentExecutionEvent)} (base : Option Task)
    (same : items.map itemOf = others.map itemOf)
    (agree : ∀ item ∈ items, ∀ other ∈ others, item.1 = other.1 → item.2.target = some taskId →
      item = other) :
    items.foldl (replay latest taskId) base = others.foldl (replay latest taskId) base := by
  induction items generalizing others base with
  | nil =>
      cases others with
      | nil => rfl
      | cons other rest => simp at same
  | cons item items ih =>
      cases others with
      | nil => simp at same
      | cons other others =>
          simp only [List.map_cons, List.cons.injEq] at same
          obtain ⟨id, target⟩ := target_of_itemOf same.1
          have first : replay latest taskId base item = replay latest taskId base other := by
            by_cases own : item.2.target = some taskId
            · rw [agree item List.mem_cons_self other List.mem_cons_self id own]
            · simp only [replay, if_neg own, if_neg (target ▸ own)]
          rw [List.foldl_cons, List.foldl_cons, first]
          exact ih _ same.2 fun left member right among =>
            agree left (List.mem_cons_of_mem _ member) right (List.mem_cons_of_mem _ among)

/-- The row can be read off the received events. -/
theorem Exact.replayed_received {events : EventHeap} {taskId : String} (exact : call.Exact events taskId)
    {items : List (EventId × AgentExecutionEvent)} (among : ∀ item ∈ items, item ∈ call.received)
    (same : call.handled.map itemOf = items.map itemOf) (base : Option Task) :
    call.replayed taskId base =
      items.foldl (replay call.resultManager.latestUserMessage taskId) base := by
  refine foldl_replay_congr base same fun item handled other member id target => ?_
  exact List.inj_on_of_nodup_map exact.distinct (exact.handled item handled target) (among other member) id

/-- A call that has handled an event which ends the queue has handled all that came before it, and
nothing after it. -/
theorem Exact.handled_through {events : EventHeap} {taskId : String} (exact : call.Exact events taskId)
    (ordered : (call.inbox events).Ordered Item.stops)
    {front more : List (EventId × AgentExecutionEvent)} {last : EventId × AgentExecutionEvent}
    (received : call.received = front ++ last :: more) (ends : last.2.endsQueue = true)
    (applied : last.1 ∈ call.handled.map Prod.fst) :
    call.handled.map itemOf = (front ++ [last]).map itemOf := by
  have distinct := exact.distinct
  have initial : call.handled.map itemOf <+:
      takeThrough Item.stops (front.map itemOf ++ itemOf last :: more.map itemOf) := by
    simpa only [inbox, received, List.map_append, List.map_cons] using ordered.initial
  have stops : Item.stops (itemOf last) = true := by
    simpa only [Item.stops, itemOf, AgentExecutionEvent.core_endsQueue] using ends
  have absent : ¬ call.handled.map itemOf <+: front.map itemOf := by
    intro early
    have ids := early.map Prod.fst
    simp only [List.map_map] at ids
    have member : last.1 ∈ front.map Prod.fst := ids.subset applied
    rw [received, List.map_append, List.map_cons, List.nodup_append] at distinct
    exact distinct.2.2 _ member _ List.mem_cons_self rfl
  cases calm : (front.map itemOf).any Item.stops with
  | true =>
      rw [takeThrough_append_of_any calm] at initial
      exact absurd (initial.trans (takeThrough_initial _)) absent
  | false =>
      rw [takeThrough_append_of_none calm, takeThrough, if_pos stops] at initial
      rw [List.map_append]
      exact (List.prefix_concat_iff.mp initial).resolve_right absent

/-- A call reports a failure of its loop because a section for a published event failed. -/
theorem Resumed.reporting (wellFormed : call.WellFormed)
    (resumed : Resumed handler view pid call fate after effects) (reports : after.pc.reportsFailure = true) :
    after.handled = call.handled ∧ (call.pc.reportsFailure = true ∨ fate ≠ .ok ∧
      ∃ id key, call.pc = .lock (.published id) key ∨
        ∃ event, call.pc = .save (.published id) key event) := by
  have elsewhere : ∀ {pc : Pc}, after.pc = pc → pc.reportsFailure = false → False := by
    rintro pc rfl calm
    rw [reports] at calm
    cases calm
  cases resumed with
  | historySaved =>
      simp only [resolveReferences] at reports
      split at reports <;> cases reports
  | referenceLoaded =>
      dsimp only at reports
      split at reports <;> cases reports
  | @contextBuilt _ _ _ _ extensions after effects loading created =>
      cases wellFormed.contextBuilt loading created <;> cases reports
  | loopEnded =>
      exact (elsewhere leaveLoop_pc (leftPc_of (Pc.reportsFailure · = false) rfl rfl call)).elim
  | forwarded =>
      exact (elsewhere rfl (forward_pc (Pc.reportsFailure · = false) rfl rfl rfl _ rfl _ _ _)).elim
  | @taken queue id rest event pattern after effects _ _ _ _ _ _ took =>
      rcases takeEvent_cases took with ⟨target, rfl, _⟩ | ⟨taskId, target, rfl, _⟩
      · cases reports
      · cases reports
  | @lockFailed ref key _ _ _ _ waiting _ _ _ failed =>
      rcases processingFailed_cases failed with ⟨left, _⟩ | ⟨id, _, rfl, _, _, _, rfl, _⟩
      · exact (elsewhere left rfl).elim
      · exact ⟨rfl, .inr ⟨Fate.noConfusion, id, key, .inl waiting⟩⟩
  | @saveFailed ref key event _ _ _ _ saving _ failed =>
      rcases processingFailed_cases failed with ⟨left, _⟩ | ⟨id, _, rfl, _, _, _, rfl, _⟩
      · exact (elsewhere left rfl).elim
      · exact ⟨rfl, .inr ⟨Fate.noConfusion, id, key, .inr ⟨event, saving⟩⟩⟩
  | @merged ref _ _ _ waiting =>
      cases ref with
      | own failure => exact ⟨rfl, .inl (by rw [waiting]; rfl)⟩
      | published id => cases reports
  | @skipped ref | @saved ref => cases ref <;> cases reports
  | mapped | consumed =>
      exact (elsewhere rfl (afterYield_pc (Pc.reportsFailure · = false) rfl rfl rfl _ _)).elim
  | misdirected applying =>
      rw [applying] at reports
      cases reports
  | _ => cases reports

end Call

namespace State

variable {handler : Handler} {state next : State} {label : Label} {pid : Pid} {call after : Call}
  {effects : List Effect} {fate : Fate} {taskId : String}

/-- The row is `base` with the handled events, unless the call has reported a failure of its loop,
and then no event has ended it. -/
structure Replays (handler : Handler) (state : State) (taskId : String) (base : Option Task)
    (call : Call) : Prop where
  row : state.row (handler.scope call.context) taskId = call.replayed taskId base ∨
    call.pc = .finished ∧ call.stopped = false
  unstopped : call.pc.reportsFailure = true → call.stopped = false

variable {base : Option Task}

theorem Replays.carried (replays : state.Replays handler taskId base call) (pc : after.pc = call.pc)
    (handled : after.handled = call.handled) (context : after.context = call.context)
    (latest : after.resultManager.latestUserMessage = call.resultManager.latestUserMessage)
    (row : next.row (handler.scope call.context) taskId = state.row (handler.scope call.context) taskId) :
    next.Replays handler taskId base after where
  row := by
    simp only [Call.replayed, Call.stopped, pc, handled, context, latest, row]
    exact replays.row
  unstopped := by
    simp only [Call.stopped, pc, handled]
    exact replays.unstopped

/-- A call that has handled nothing starts from the row as it is. -/
theorem replays_blank (handled : call.handled = []) :
    state.Replays handler taskId (state.row (handler.scope call.context) taskId) call where
  row := .inl (by simp [Call.replayed, handled])
  unstopped _ := by simp [Call.stopped, handled]

/-- No event that a call is still working on has a predecessor that ends the queue. -/
theorem unstopped_working (wellFormed : call.WellFormed)
    (ordered : (call.inbox state.events).Ordered Item.stops) {id : EventId} {key : Option String}
    (working : call.pc = .lock (.published id) key ∨ ∃ event, call.pc = .save (.published id) key event) :
    call.stopped = false := by
  have counter : call.pc = .lock (.published id) key ∨
      ∃ event, call.pc = .save (.published id) key event := by
    rcases working with waiting | ⟨event, saves⟩
    · exact .inl waiting
    · exact .inr ⟨event, saves⟩
  have busy : ∃ rest, call.remaining state.events = some (id :: rest) :=
    Call.working wellFormed counter rfl
  obtain ⟨rest, waits⟩ := busy
  have calm := (ordered.reading _ (by simp only [Call.inbox, waits, Option.map_some]; rfl)).2
  simpa [Call.stopped, Call.inbox, List.any_map, Function.comp_def, Item.stops, itemOf] using calm

/-- A resumed call that has built its request context merges what it handles into the row, unless it
applies the failure of its own loop. -/
theorem replayed_resumed {start : Option Task} (wellFormed : state.WellFormed) (knows : state.Knows)
    (serial : Register.Serial (Write.Enabled taskId) Write.apply start
      (state.ownRegister handler pid (handler.scope call.context) taskId))
    (found : state.calls pid = some call) (asked : call.isSend = true) (route : call.pc.sends = true)
    (looping : call.pc.starts = false)
    (row : state.row (handler.scope call.context) taskId = call.replayed taskId base)
    (resumed : call.resume handler (state.view pid (handler.scope call.context)) pid fate =
      some (after, effects)) :
    (state.commit pid (after, effects)).row (handler.scope after.context) taskId =
        after.replayed taskId base ∨
      call.pc.reportsFailure = true ∧ after.pc = .finished ∧ after.handled = call.handled := by
  have own := wellFormed pid call found
  have known := knows pid call found
  have cases' := Call.resume_cases resumed
  have stepped : state.step handler ⟨pid, .resume fate⟩ = some (state.commit pid (after, effects)) := by
    simp [State.step, found, resumeCall, resumed]
  obtain ⟨_, context, latest⟩ := cases'.origin own
  have silent : ∀ {ref : EventRef} {key : Option String} {event : AgentExecutionEvent},
      call.pc = .save ref key event → (∃ own, ref = .own own) → after.handled = call.handled := by
    rintro _ key event saving ⟨failure, rfl⟩
    cases cases'.reads own known with
    | handled waits =>
        obtain ⟨_, _, waiting⟩ := Option.bind_eq_some_iff.mp waits
        simp [saving, Pc.waiting] at waiting
    | quiet _ _ same | attached _ _ _ same | finished _ _ _ _ same | lost _ _ _ same => exact same
  have kept : after.handled = call.handled →
      (fate = .ok → state.pending handler pid = none) →
      (state.commit pid (after, effects)).row (handler.scope after.context) taskId =
        after.replayed taskId base := by
    intro handled free
    rw [context, Call.replayed, handled, latest,
      row_kept (store_kept wellFormed stepped fun action => free (by cases action; rfl)).1]
    exact row
  cases saving : call.pc.saving with
  | false =>
      have free : state.pending handler pid = none := by
        rw [pending, found]
        exact Call.pending_none saving
      cases cases'.reads own known with
      | quiet _ _ same | attached _ _ _ same | finished _ _ _ _ same | lost _ _ _ same =>
          exact .inl (kept same fun _ => free)
      | @handled _ id rest event known waits seen core received handled _ _ handles =>
          refine .inl ?_
          rw [context, Call.replayed, handled, latest, List.foldl_append,
            row_kept (store_kept wellFormed stepped fun _ => free).1, row]
          change _ = replay _ _ (call.replayed taskId base) (id, event)
          rw [← row]
          cases handles with
          | saved saves => simp [saves, Pc.saving] at saving
          | skipped waiting resolved skips =>
              simp only [replay]
              split
              · rename_i target
                rw [target] at skips
                simp only [Write.apply]
                rw [show ResultManager.mergeInto call.resultManager.latestUserMessage
                  (event.loads (state.row (handler.scope call.context) taskId)) event = none from skips]
                rfl
              · rfl
          | message _ plain => simp [replay, plain]
          | forwarded _ subscribes =>
              simp only [Call.isResubscribe] at subscribes
              split at subscribes
              · rename_i subscribed
                simp [Call.isSend, subscribed] at asked
              · cases subscribes
  | true =>
      cases counter : call.pc with
      | save ref key event =>
          obtain ⟨task, current, target⟩ := own.merging ref key event counter
          have held : state.pending handler pid = some ⟨handler.scope call.context, task,
              .event call.resultManager.latestUserMessage event⟩ := by
            simp [pending, found, Call.pending, counter, current]
          cases fate with
          | fail error =>
              cases cases'.reads own known with
              | quiet _ _ same | attached _ _ _ same | finished _ _ _ _ same | lost _ _ _ same =>
                  exact .inl (kept same Fate.noConfusion)
          | ok =>
              have store := (pending_saves stepped rfl held).2.1
              cases ref with
              | own failure =>
                  refine .inr ⟨rfl, ?_, silent counter ⟨failure, rfl⟩⟩
                  simp only [Call.resume, Call.resumeOk, counter, Call.saveCurrentTask, current,
                    Option.some.injEq, Prod.mk.injEq] at resumed
                  rw [← resumed.1]
                  rfl
              | published id =>
                  have stores : call.pc.stores = true := by rw [counter]; rfl
                  cases cases'.reads own known with
                  | quiet calm | attached calm | finished calm => cases calm.symm.trans stores
                  | lost _ calm => cases (calm rfl).symm.trans stores
                  | @handled _ other rest merged _ _ _ _ _ handled _ _ handles =>
                      cases handles with
                      | skipped waiting | message waiting | forwarded waiting =>
                          cases counter.symm.trans waiting
                      | saved saves =>
                          cases counter.symm.trans saves
                          refine .inl ?_
                          rw [context, Call.replayed, handled, latest, List.foldl_append, row_saved store]
                          change _ = replay _ _ (call.replayed taskId base) (id, event)
                          rw [← row, replay]
                          simp only [true_and, target, Option.some.injEq]
                          split
                          · rename_i same
                            subst same
                            refine ((serial.hands () (some task) _ ?_).2).symm
                            simp only [ownRegister, register_hands held, and_self, if_true]
                          · rfl
      | saveHistory => simp [counter, Pc.starts] at looping
      | cancelSave => simp [counter, Pc.sends] at route
      | _ => simp [counter, Pc.saving] at saving

/-- The record of what the row is made of, over a resumed step. -/
theorem replays_resumed {start : Option Task} (wellFormed : state.WellFormed) (knows : state.Knows)
    (ordered : state.Ordered)
    (serial : Register.Serial (Write.Enabled taskId) Write.apply start
      (state.ownRegister handler pid (handler.scope call.context) taskId))
    (found : state.calls pid = some call) (asked : call.isSend = true) (route : call.pc.sends = true)
    (looping : call.pc.starts = false) (replays : state.Replays handler taskId base call)
    (resumed : call.resume handler (state.view pid (handler.scope call.context)) pid fate =
      some (after, effects)) :
    (state.commit pid (after, effects)).Replays handler taskId base after := by
  have own := wellFormed pid call found
  have row : state.row (handler.scope call.context) taskId = call.replayed taskId base := by
    refine replays.row.resolve_right fun left => ?_
    cases fate with
    | ok => simp [Call.resume, Call.resumeOk, left.1] at resumed
    | fail error => simp [Call.resume, Call.resumeFailed, left.1] at resumed
  refine ⟨?_, fun reports => ?_⟩
  · refine (replayed_resumed wellFormed knows serial found asked route looping row resumed).imp_right ?_
    rintro ⟨reports, finished, handled⟩
    exact ⟨finished, by rw [Call.stopped, handled]; exact replays.unstopped reports⟩
  · obtain ⟨handled, earlier | ⟨_, id, key, working⟩⟩ := (Call.resume_cases resumed).reporting own reports
    · rw [Call.stopped, handled]
      exact replays.unstopped earlier
    · rw [Call.stopped, handled]
      exact unstopped_working own (ordered pid _ (inbox_of found)) working

/-- What is known of every state of a run in which one call writes a task, the order and the
records of its events included. -/
structure Followed (handler : Handler) (start : Scope → Option Task) (pid : Pid) (taskId : String)
    (state : State) : Prop extends Tracked handler pid taskId state where
  ordered : state.Ordered
  recorded : state.Recorded pid taskId
  serial : ∀ scope, Register.Serial (Write.Enabled taskId) Write.apply (start scope)
    (state.ownRegister handler pid scope taskId)
  unstarted : ∀ call, state.calls pid = some call → call.pc.starts = true → call.handled = []

variable {start : Scope → Option Task}

theorem followed_initial (taskStore : InMemoryTaskStore)
    (pushNotificationStore : InMemoryPushNotificationStore) (taskIdToBus : String → Option BusId) :
    Followed handler (fun scope => taskStore.load scope taskId) pid taskId
      (.initial taskStore pushNotificationStore taskIdToBus) where
  toTracked := tracked_initial _ _ _
  ordered pid inbox found := by simp [State.inbox, initial] at found
  recorded := recorded_initial _ _ _
  serial scope := ownRegister_serial scope .refl
  unstarted call found := by simp [initial] at found

/-- A call on its way to its executor has handled nothing. -/
theorem unstarted_resumed (wellFormed : call.WellFormed) (knows : call.Knows state.events)
    (unstarted : call.pc.starts = true → call.handled = [])
    (resumed : call.resume handler (state.view pid (handler.scope call.context)) pid fate =
      some (after, effects)) (starts : call.pc.starts = true) : after.handled = [] := by
  cases (Call.resume_cases resumed).reads wellFormed knows with
  | quiet _ _ same | attached _ _ _ same | finished _ _ _ _ same | lost _ _ _ same =>
      exact same.trans (unstarted starts)
  | handled _ _ _ _ _ _ _ handles =>
      cases handles with
      | saved counter | skipped counter | message counter | forwarded counter =>
          simp [counter, Pc.starts] at starts

/-- The call's record after a step of its own, before the listeners, or of another call. -/
theorem handled_step (wellFormed : state.WellFormed) (knows : state.Knows)
    (stepped : state.step handler label = some next) (found : state.calls pid = some call)
    (later : next.calls pid = some after) (unstarted : call.pc.starts = true → call.handled = [])
    (starts : call.pc.starts = true) : after.handled = [] := by
  obtain ⟨record, effects, steppedTo, rfl⟩ := step_cases stepped
  rcases commit_overheard later with ⟨rfl, overheard⟩ | ⟨_, before, earlier, overheard⟩
  · rw [overheard.handled]
    cases steppedTo with
    | begun absent => cases absent.symm.trans found
    | resumed present resumed =>
        cases found.symm.trans present
        exact unstarted_resumed (wellFormed _ _ found) (knows _ _ found) unstarted resumed starts
    | published present | finishedBus present | executorReturned present | executorThrew present
    | reaped present =>
        cases found.symm.trans present
        exact unstarted starts
    | abandoned present abandoned =>
        cases found.symm.trans present
        obtain ⟨_, _, rfl⟩ := Call.abandon_cases abandoned
        exact unstarted starts
  · cases found.symm.trans earlier
    rw [overheard.handled]
    exact unstarted starts

/-- A call that begins has handled nothing. -/
theorem handled_begun (stepped : state.step handler label = some next) (absent : state.calls pid = none)
    (later : next.calls pid = some after) : after.handled = [] := by
  obtain ⟨record, effects, steppedTo, rfl⟩ := step_cases stepped
  rcases commit_overheard later with ⟨rfl, overheard⟩ | ⟨_, before, present, _⟩
  · rw [overheard.handled]
    cases steppedTo with
    | begun => exact (@begin_blank handler _ state.events _ _ _ _).2.2.1
    | resumed present | published present | finishedBus present | executorReturned present
    | executorThrew present | reaped present | abandoned present => cases absent.symm.trans present
  · cases absent.symm.trans present

/-- No call gets back on its way to its executor. -/
theorem starts_back (tracked : Tracked handler pid taskId state)
    (stepped : state.step handler label = some next) (later : next.calls pid = some after)
    (starts : after.pc.starts = true) :
    state.calls pid = none ∨ ∃ call, state.calls pid = some call ∧ call.pc.starts = true := by
  obtain ⟨record, effects, steppedTo, rfl⟩ := step_cases stepped
  rcases commit_overheard later with ⟨rfl, overheard⟩ | ⟨_, call, found, overheard⟩
  · rw [overheard.pc] at starts
    cases steppedTo with
    | begun absent => exact .inl absent
    | resumed found resumed =>
        have own := tracked.wellFormed _ _ found
        have cases' := Call.resume_cases resumed
        have asked := (own.resumed cases').starts starts
        have route := (tracked.synced _ found).route
          (by simpa only [Call.isSend, (cases'.origin own).1] using asked)
        refine .inr ⟨_, found, ?_⟩
        rcases (cases'.blank own (.inr starts)).1 with unattached | before
        · generalize Call.pc _ = pc at unattached route
          cases pc <;> simp_all [Pc.unattached, Pc.sends, Pc.starts]
        · exact before
    | published found | finishedBus found | executorReturned found | executorThrew found
    | reaped found => exact .inr ⟨_, found, starts⟩
    | abandoned found abandoned =>
        obtain ⟨_, _, rfl⟩ := Call.abandon_cases abandoned
        cases starts
  · exact .inr ⟨call, found, overheard.pc ▸ starts⟩

theorem Followed.step (followed : Followed handler start pid taskId state)
    (permitted : WrittenBy handler pid taskId state label)
    (stepped : state.step handler label = some next) : Followed handler start pid taskId next where
  toTracked := followed.toTracked.step permitted stepped
  ordered := ordered_step followed.wellFormed followed.knows followed.ordered stepped
  recorded := recorded_step followed.wellFormed followed.knows followed.ordered followed.spares
    followed.recorded stepped
  serial scope := (followed.serial scope).step (ownRegister_step followed.wellFormed permitted stepped)
  unstarted after later starts := by
    rcases starts_back followed.toTracked stepped later starts with absent | ⟨call, found, before⟩
    · exact handled_begun stepped absent later
    · exact handled_step followed.wellFormed followed.knows stepped found later
        (followed.unstarted _ found) before

/-- A step resumes the call, or it leaves alone the row and what the call has handled. -/
theorem Followed.steps (followed : Followed handler start pid taskId state)
    (permitted : WrittenBy handler pid taskId state label)
    (stepped : state.step handler label = some next) (found : state.calls pid = some call)
    (later : next.calls pid = some after) :
    (∃ fate record effects, label = ⟨pid, .resume fate⟩ ∧
      call.resume handler (state.view pid (handler.scope call.context)) pid fate =
        some (record, effects) ∧
      next = state.commit pid (record, effects) ∧ record.Overheard after) ∨
    (after.pc = call.pc ∨ label.action = .abandon ∧ ∃ last, call.pc = .suspended last ∧ after.pc = .finished) ∧
      after.handled = call.handled ∧ after.context = call.context ∧
      after.resultManager.latestUserMessage = call.resultManager.latestUserMessage ∧
      ∀ scope, next.row scope taskId = state.row scope taskId := by
  have other := fun scope differ => congrArg Register.content
    (@ownRegister_other handler state next label pid scope taskId followed.wellFormed permitted differ stepped)
  have calm : ∀ scope, label.action ≠ .resume .ok → next.row scope taskId = state.row scope taskId :=
    fun scope silent => row_kept (store_kept followed.wellFormed stepped fun resumed => absurd resumed silent).1
  obtain ⟨record, effects, steppedTo, rfl⟩ := step_cases stepped
  rcases commit_overheard later with ⟨rfl, overheard⟩ | ⟨differ, before, earlier, overheard⟩
  · have heard : record.pc = call.pc → record.handled = call.handled → record.context = call.context →
        record.resultManager = call.resultManager → (after.pc = call.pc ∨ label.action = .abandon ∧
          ∃ last, call.pc = .suspended last ∧ after.pc = .finished) ∧
        after.handled = call.handled ∧ after.context = call.context ∧
        after.resultManager.latestUserMessage = call.resultManager.latestUserMessage :=
      fun pc handled context manager => ⟨.inl (overheard.pc.trans pc), overheard.handled.trans handled,
        overheard.context.trans context, by rw [overheard.resultManager, manager]⟩
    cases steppedTo with
    | begun absent => cases absent.symm.trans found
    | resumed present resumed =>
        cases found.symm.trans present
        exact .inl ⟨_, record, effects, rfl, resumed, rfl, overheard⟩
    | published present | finishedBus present | executorReturned present | executorThrew present
    | reaped present =>
        cases found.symm.trans present
        obtain ⟨pc, handled, context, latest⟩ := heard rfl rfl rfl rfl
        exact .inr ⟨pc, handled, context, latest, fun scope => calm scope (by simp)⟩
    | abandoned present abandoned =>
        cases found.symm.trans present
        obtain ⟨last, suspended, rfl⟩ := Call.abandon_cases abandoned
        exact .inr ⟨.inr ⟨rfl, last, suspended, overheard.pc⟩, overheard.handled, overheard.context,
          congrArg _ overheard.resultManager, fun scope => calm scope (by simp)⟩
  · cases found.symm.trans earlier
    exact .inr ⟨.inl overheard.pc, overheard.handled, overheard.context,
      congrArg _ overheard.resultManager, fun scope => other scope (Ne.symm differ)⟩

/-- The row of the task stays what the handled events make of it. -/
theorem replays_step (followed : Followed handler start pid taskId state)
    (permitted : WrittenBy handler pid taskId state label)
    (stepped : state.step handler label = some next) (found : state.calls pid = some call)
    (asked : call.isSend = true) (looping : call.pc.starts = false)
    (replays : state.Replays handler taskId base call) (later : next.calls pid = some after) :
    next.Replays handler taskId base after := by
  rcases followed.steps permitted stepped found later with
    ⟨fate, record, effects, rfl, resumed, rfl, overheard⟩ | ⟨counter, handled, context, latest, row⟩
  · exact (replays_resumed followed.wellFormed followed.knows followed.ordered (followed.serial _) found
      asked ((followed.synced _ found).route asked) looping replays resumed).carried overheard.pc
        overheard.handled overheard.context (congrArg _ overheard.resultManager) rfl
  · rcases counter with same | ⟨_, last, suspended, finished⟩
    · exact replays.carried same handled context latest (row _)
    · refine ⟨.inl ?_, by simp [finished, Pc.reportsFailure]⟩
      rw [context, row, Call.replayed, handled, latest]
      exact replays.row.resolve_right fun left => by simp [suspended] at left

/-- The row is made of what the call has handled, whenever it started to. -/
theorem exists_replays {taskStore : InMemoryTaskStore}
    {pushNotificationStore : InMemoryPushNotificationStore} {taskIdToBus : String → Option BusId}
    {labels : List Label}
    (runs : (handlerSystem handler).Runs (WrittenBy handler pid taskId)
      (.initial taskStore pushNotificationStore taskIdToBus) labels state)
    (found : state.calls pid = some call) (asked : call.isSend = true) :
    ∃ base, (∀ task, base = some task → task.id = taskId) ∧ state.Replays handler taskId base call := by
  refine (runs.invariant (fun current =>
    Followed handler (fun scope => taskStore.load scope taskId) pid taskId current ∧
      ∀ call, current.calls pid = some call → call.isSend = true →
        ∃ base, (∀ task, base = some task → task.id = taskId) ∧
          current.Replays handler taskId base call) ⟨followed_initial _ _ _, ?_⟩ ?_).2 call found asked
  · intro call found
    simp [initial] at found
  · rintro current label next ⟨followed, holds⟩ permitted stepped
    refine ⟨followed.step permitted stepped, fun after later asked => ?_⟩
    cases earlier : current.calls pid with
    | none =>
        exact ⟨_, fun task => row_id, replays_blank (handled_begun stepped earlier later)⟩
    | some call =>
        have before : call.isSend = true := by
          simpa only [Call.isSend, (origin_step followed.wellFormed stepped earlier later).1] using asked
        cases starts : call.pc.starts with
        | true =>
            have blank := handled_step followed.wellFormed followed.knows stepped earlier later
              (followed.unstarted call earlier) starts
            exact ⟨_, fun task => row_id, replays_blank blank⟩
        | false =>
            obtain ⟨base, identified, replays⟩ := holds call earlier before
            exact ⟨base, identified, replays_step followed permitted stepped earlier before starts replays later⟩

end State

end A2A.Server
