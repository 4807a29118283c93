import A2A.Server.Properties.FailureRecords
import A2A.Server.Properties.ReturnedTasks

namespace A2A.Server

open Library

/-! What the consumer of a stream leaves undone when it goes away.

Events are merged by the consumer's own loop.  Two runs that part where the
consumer is waiting, one in which it leaves and one in which it goes on to the
end, store the same task only if the events in between change nothing.
-/

namespace State

variable {handler : Handler} {state next : State} {label : Label} {pid : Pid} {call after : Call}
  {labels : List Label} {taskId : String} {start : Scope → Option Task} {base : Option Task}

/-- The row of a task is as its only writer left it. -/
theorem finished_run (followed : Followed handler start pid taskId state)
    (runs : (handlerSystem handler).Runs (WrittenBy handler pid taskId) state labels next)
    (found : state.calls pid = some call) (finished : call.pc = .finished) (scope : Scope) :
    next.row scope taskId = state.row scope taskId := by
  refine (runs.invariant (fun current => Followed handler start pid taskId current ∧
    (∃ after, current.calls pid = some after ∧ after.pc = .finished) ∧
    current.row scope taskId = state.row scope taskId) ⟨followed, ⟨call, found, finished⟩, rfl⟩ ?_).2.2
  rintro current label next ⟨followed, ⟨before, present, left⟩, same⟩ permitted stepped
  obtain ⟨after, later⟩ := calls_kept stepped present
  refine ⟨followed.step permitted stepped, ?_⟩
  rcases followed.steps permitted stepped present later with
    ⟨fate, record, effects, rfl, resumed, rfl, _⟩ | ⟨counter, _, _, _, row⟩
  · cases fate with
    | ok => simp [Call.resume, Call.resumeOk, left] at resumed
    | fail error => simp [Call.resume, Call.resumeFailed, left] at resumed
  · refine ⟨⟨after, later, ?_⟩, (row scope).trans same⟩
    rcases counter with kept | ⟨_, last, suspended, _⟩
    · exact kept.trans left
    · cases left.symm.trans suspended

/-- A call that goes on merges the events that it had not handled yet into the row as it was. -/
theorem loop_run (consuming : Consuming handler start pid taskId state)
    (runs : (handlerSystem handler).Runs (ConsumedBy handler pid taskId) state labels next)
    (found : state.calls pid = some call) (asked : call.isSend = true) (looping : call.pc.starts = false)
    (merged : state.MergedInto handler taskId base call) :
    Consuming handler start pid taskId next ∧ ∃ after more, next.calls pid = some after ∧
      after.isSend = true ∧ after.handled = call.handled ++ more ∧
      next.row (handler.scope call.context) taskId = more.foldl
        (replay call.resultManager.latestUserMessage taskId)
        (state.row (handler.scope call.context) taskId) := by
  have holds := runs.invariant (fun current => Consuming handler start pid taskId current ∧
    ∃ after, current.calls pid = some after ∧ after.isSend = true ∧ after.pc.starts = false ∧
      after.context = call.context ∧
      after.resultManager.latestUserMessage = call.resultManager.latestUserMessage ∧
      call.handled <+: after.handled ∧ current.MergedInto handler taskId base after)
    ⟨consuming, call, found, asked, looping, rfl, rfl, List.prefix_rfl, merged⟩ ?_
  · obtain ⟨consuming, after, present, sends, _, context, latest, ⟨more, handled⟩, row⟩ := holds
    refine ⟨consuming, after, more, present, sends, handled.symm, ?_⟩
    rw [← context, row, Call.replayed, latest, ← handled, List.foldl_append, context, merged]
    rfl
  rintro current label next ⟨consuming, before, present, sends, looping, context, latest, grown, merged⟩
    permitted stepped
  obtain ⟨after, later⟩ := calls_kept stepped present
  obtain ⟨request, sameContext, sameLatest⟩ := origin_step consuming.wellFormed stepped present later
  refine ⟨consuming.step permitted stepped, after, later, by simpa only [Call.isSend, request] using sends,
    ?_, sameContext.trans context, sameLatest.trans latest, grown.trans ?_,
    merged.step consuming permitted.1 stepped present sends looping later⟩
  · cases starts : after.pc.starts with
    | false => rfl
    | true =>
        rcases starts_back consuming.toTracked stepped later starts with absent | ⟨other, known, started⟩
        · cases absent.symm.trans present
        · cases known.symm.trans present
          exact started.symm.trans looping
  · rcases consuming.steps permitted.1 stepped present later with
      ⟨fate, record, effects, rfl, resumed, rfl, overheard⟩ | ⟨_, handled, _⟩
    · rw [overheard.handled]
      exact ((Call.resume_cases resumed).reads (consuming.wellFormed _ _ present)
        (consuming.knows _ _ present)).handled_kept
    · exact handled ▸ List.prefix_rfl

/-- The stored tasks of two runs that part where a stream's consumer is waiting, one abandoned and one
consumed to the end, are equal exactly when the events from there on, up to the one that ends the queue,
change nothing of the task. -/
theorem abandoned_row_iff {taskStore : InMemoryTaskStore}
    {pushNotificationStore : InMemoryPushNotificationStore} {taskIdToBus : String → Option BusId}
    {earlier : List Label} {left abandoned consumed : State} {last : Option EventId}
    (first : (handlerSystem handler).Runs (ConsumedBy handler pid taskId)
      (.initial taskStore pushNotificationStore taskIdToBus) earlier state)
    (found : state.calls pid = some call) (streams : call.isStream = true)
    (waits : call.pc = .suspended last)
    (leaves : state.step handler ⟨pid, .abandon⟩ = some left)
    (without : (handlerSystem handler).Runs (WrittenBy handler pid taskId) left labels abandoned)
    {others : List Label}
    (whole : (handlerSystem handler).Runs (ConsumedBy handler pid taskId) state others consumed)
    (settled : consumed.calls pid = some after) (idle : after.idle = true)
    (read : ∀ last, after.pc ≠ .suspended last) :
    abandoned.row (handler.scope call.context) taskId =
        consumed.row (handler.scope call.context) taskId ↔
      ((takeThrough (fun item => item.2.endsQueue) after.received).drop call.handled.length).foldl
        (replay call.resultManager.latestUserMessage taskId)
        (state.row (handler.scope call.context) taskId) =
        state.row (handler.scope call.context) taskId := by
  have asked : call.isSend = true := by
    cases asks : call.request <;> simp_all [Call.isStream, Call.isSend]
  obtain ⟨consuming, base, _, _, merged⟩ := @exists_merged handler state pid call taskId (fun _ => True)
    taskStore pushNotificationStore taskIdToBus earlier (fun _ _ _ => trivial) first found asked trivial
  have looping : call.pc.starts = false := by rw [waits]; rfl
  -- One side: the row stays as the consumer has left it.
  have frozen : abandoned.row (handler.scope call.context) taskId =
      state.row (handler.scope call.context) taskId := by
    have permitted : WrittenBy handler pid taskId state ⟨pid, .abandon⟩ := fun differ => absurd rfl differ
    have followed := consuming.toFollowed.step permitted leaves
    simp only [State.step, found, Call.abandon, waits, Option.map_some, Option.some.injEq] at leaves
    subst leaves
    exact finished_run followed without setCall_self rfl _
  -- The other: what the consumer goes on to handle is merged into it.
  obtain ⟨reached, record, more, present, sends, handled, row⟩ :=
    loop_run consuming whole found asked looping merged
  cases settled.symm.trans present
  have merges : after.isResubscribe = false := by
    cases asks : after.request <;> simp_all [Call.isSend, Call.isResubscribe]
  have exact := reached.recorded after settled merges
  have all := Call.drained_handled (reached.wellFormed pid after settled)
    (reached.delivered _ (inbox_of settled)) idle read
  rw [handled, List.map_append] at all
  have rest : more.map itemOf = ((takeThrough (fun item => item.2.endsQueue) after.received).drop
      call.handled.length).map itemOf := by
    rw [List.map_drop, ← all, List.drop_left' (List.length_map _)]
  rw [frozen, row, eq_comm, Call.foldl_replay_congr _ rest]
  intro item member other among id target
  refine List.inj_on_of_nodup_map exact.distinct (exact.handled item ?_ target)
    ((takeThrough_sublist _).subset (List.mem_of_mem_drop among)) id
  rw [handled]
  exact List.mem_append_right _ member

end State

section

open Scenario

/-- A streamed new task up to a yield: that of its task event, or that of its last update. -/
def yieldingSchedule (done : Bool) : List Label :=
  [calls 0 (.sendMessageStream (params (message "m" "") false)) (context "tenant" "user") "T"] ++
    resumes 0 1 ++ [publishes 0 0 (taskEvent "T" .working)] ++ resumes 0 4 ++
    if done then resumes 0 1 ++ [publishes 0 1 (statusEvent "T" .completed)] ++ resumes 0 4 else []

/-- What two runs store that part at a yield, the consumer leaving in one of them. -/
def partingReport (others reading : List Label) (yielded : State) :
    Option (ServerCallContext × Bool × Bool × List Publication × List Publication ×
      Option TaskState × Option TaskState) :=
  (yielded.calls 0).bind fun call => (yielded.step (server false) ⟨0, .abandon⟩).bind fun left =>
    ((handlerSystem (server false)).checkedRun (fun _ label => label.pid == 0) left others).bind
      fun abandoned => ((handlerSystem (server false)).checkedRun (neverGivesUp 0) yielded
        (others ++ reading)).bind fun consumed => (abandoned.calls 0).bind fun gone =>
          (consumed.calls 0).bind fun after =>
            match call.pc, gone.pc, gone.executorDone, after.pc, after.executorDone with
            | .suspended _, .finished, true, .finished, true => some (call.context, call.isStream,
                decide ((takeThrough (fun item => item.2.endsQueue) after.received).length ≤
                  call.handled.length),
                abandoned.publications, consumed.publications,
                (abandoned.row ⟨"tenant", "user"⟩ "T").bind Task.state,
                (consumed.row ⟨"tenant", "user"⟩ "T").bind Task.state)
            | _, _, _, _, _ => none

theorem partingReport_cases {others reading : List Label} {yielded : State}
    {context : ServerCallContext} {streams spent : Bool} {published again : List Publication}
    {kept merged : Option TaskState}
    (reports : partingReport others reading yielded =
      some (context, streams, spent, published, again, kept, merged)) :
    ∃ call left abandoned consumed gone after last, yielded.calls 0 = some call ∧
      yielded.step (server false) ⟨0, .abandon⟩ = some left ∧
      (handlerSystem (server false)).checkedRun (fun _ label => label.pid == 0) left others =
        some abandoned ∧
      (handlerSystem (server false)).checkedRun (neverGivesUp 0) yielded (others ++ reading) =
        some consumed ∧
      abandoned.calls 0 = some gone ∧ consumed.calls 0 = some after ∧ call.pc = .suspended last ∧
      gone.pc = .finished ∧ gone.executorDone = true ∧ after.pc = .finished ∧
      after.executorDone = true ∧ call.context = context ∧ call.isStream = streams ∧
      decide ((takeThrough (fun item => item.2.endsQueue) after.received).length ≤
        call.handled.length) = spent ∧
      abandoned.publications = published ∧ consumed.publications = again ∧
      (abandoned.row ⟨"tenant", "user"⟩ "T").bind Task.state = kept ∧
      (consumed.row ⟨"tenant", "user"⟩ "T").bind Task.state = merged := by
  obtain ⟨call, found, rest⟩ := Option.bind_eq_some_iff.mp reports
  obtain ⟨left, leaves, rest⟩ := Option.bind_eq_some_iff.mp rest
  obtain ⟨abandoned, without, rest⟩ := Option.bind_eq_some_iff.mp rest
  obtain ⟨consumed, whole, rest⟩ := Option.bind_eq_some_iff.mp rest
  obtain ⟨gone, ended, rest⟩ := Option.bind_eq_some_iff.mp rest
  obtain ⟨after, settled, rest⟩ := Option.bind_eq_some_iff.mp rest
  split at rest
  · rename_i last waits away silent finished done
    simp only [Option.some.injEq, Prod.mk.injEq] at rest
    exact ⟨call, left, abandoned, consumed, gone, after, last, found, leaves, without, whole, ended,
      settled, waits, away, silent, finished, done, rest⟩
  · cases rest

theorem abandoned_row_iff_at_end :
    ∃ yielded abandoned consumed : State, (handlerSystem (server false)).Runs
        (ConsumedBy (server false) 0 "T") (.initial .empty .empty (fun _ => none))
        (yieldingSchedule true) yielded ∧
      abandoned.row ⟨"tenant", "user"⟩ "T" = consumed.row ⟨"tenant", "user"⟩ "T" ∧
      (abandoned.row ⟨"tenant", "user"⟩ "T").bind Task.state = some .completed := by
  have ran : ((handlerSystem (server false)).checkedRun (neverGivesUp 0)
      (.initial .empty .empty (fun _ => none)) (yieldingSchedule true)).bind
        (partingReport [returns 0, reaps 0 7 8] (resumes 0 1)) =
      some (context "tenant" "user", true, true,
        [⟨0, 0, 0, taskEvent "T" .working⟩, ⟨0, 0, 1, statusEvent "T" .completed⟩],
        [⟨0, 0, 0, taskEvent "T" .working⟩, ⟨0, 0, 1, statusEvent "T" .completed⟩],
        some .completed, some .completed) := rfl
  obtain ⟨yielded, ranAll, reports⟩ := Option.bind_eq_some_iff.mp ran
  obtain ⟨call, left, abandoned, consumed, gone, after, last, found, leaves, without, whole, _, settled,
    waits, _, _, finished, _, caller, streams, spent, _, _, kept, _⟩ := partingReport_cases reports
  have scope : (server false).scope call.context = ⟨"tenant", "user"⟩ := by rw [caller]; rfl
  have runs := consumedBy_alone "T" ranAll
  have same := (State.abandoned_row_iff runs found streams waits leaves (writtenBy_alone "T" without)
    (consumedBy_alone "T" whole) settled (by rw [Call.idle, finished])
    (fun last waits => by rw [finished] at waits; cases waits)).mpr (by
      rw [List.drop_eq_nil_of_le (of_decide_eq_true spent)]
      rfl)
  rw [scope] at same
  exact ⟨yielded, abandoned, consumed, runs, same, kept⟩

/-- A client that leaves after the first event leaves the task at `WORKING` for ever. -/
theorem abandoned_stream_loses_completion :
    ¬ ∀ (handler : Handler) (taskStore : InMemoryTaskStore)
      (pushNotificationStore : InMemoryPushNotificationStore) (taskIdToBus : String → Option BusId)
      (earlier others labels : List Label) (yielded left abandoned consumed : State) (pid : Pid)
      (call gone after : Call) (last : Option EventId) (taskId : String),
      (handlerSystem handler).Runs (ConsumedBy handler pid taskId)
        (.initial taskStore pushNotificationStore taskIdToBus) earlier yielded →
      yielded.calls pid = some call → call.isStream = true → call.pc = .suspended last →
      yielded.step handler ⟨pid, .abandon⟩ = some left →
      (handlerSystem handler).Runs (WrittenBy handler pid taskId) left others abandoned →
      abandoned.calls pid = some gone → gone.idle = true → gone.executorDone = true →
      (handlerSystem handler).Runs (ConsumedBy handler pid taskId) yielded labels consumed →
      consumed.calls pid = some after → after.idle = true → after.executorDone = true →
      (∀ last, after.pc ≠ .suspended last) → abandoned.publications = consumed.publications →
      abandoned.row (handler.scope call.context) taskId =
        consumed.row (handler.scope call.context) taskId := by
  intro sameRow
  have ran : ((handlerSystem (server false)).checkedRun (neverGivesUp 0)
      (.initial .empty .empty (fun _ => none)) (yieldingSchedule false)).bind
        (partingReport [publishes 0 1 (statusEvent "T" .completed), returns 0, reaps 0 7 8]
          (resumes 0 6)) =
      some (context "tenant" "user", true, false,
        [⟨0, 0, 0, taskEvent "T" .working⟩, ⟨0, 0, 1, statusEvent "T" .completed⟩],
        [⟨0, 0, 0, taskEvent "T" .working⟩, ⟨0, 0, 1, statusEvent "T" .completed⟩],
        some .working, some .completed) := rfl
  obtain ⟨yielded, ranAll, reports⟩ := Option.bind_eq_some_iff.mp ran
  obtain ⟨call, left, abandoned, consumed, gone, after, last, found, leaves, without, whole, ended, settled,
    waits, away, silent, finished, done, caller, streams, _, published, again, kept, merged⟩ :=
    partingReport_cases reports
  have scope : (server false).scope call.context = ⟨"tenant", "user"⟩ := by rw [caller]; rfl
  have same := sameRow _ _ _ _ _ _ _ _ _ _ _ _ _ _ _ _ _ (consumedBy_alone "T" ranAll) found streams waits
    leaves (writtenBy_alone "T" without) ended (by rw [Call.idle, away]) silent (consumedBy_alone "T" whole)
    settled (by rw [Call.idle, finished]) done (fun last waits => by rw [finished] at waits; cases waits)
    (published.trans again.symm)
  rw [scope] at same
  rw [same, merged] at kept
  cases kept

end

end A2A.Server
