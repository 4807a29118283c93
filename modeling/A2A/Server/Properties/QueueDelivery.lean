import A2A.Library.Inbox
import A2A.Server.ExecutionEventQueue

namespace A2A.Server

open Library

/-! The queue hands its consumer the published events, in order and without a gap. -/

namespace Generator

/-- A call of `next()` is being answered. -/
def running : Generator → Bool
  | .awaiting _ | .yielding _ => true
  | .suspendedStart | .suspendedYield _ | .completed => false

/-- Nothing more will be taken from the buffer. -/
def ended : Generator → Bool
  | .yielding event | .suspendedYield event => event.endsQueue
  | .completed => true
  | .suspendedStart | .awaiting _ => false

/-- Taken from the buffer, and not yet handed out. -/
def inFlight : Generator → List AgentExecutionEvent
  | .yielding event => [event]
  | .suspendedStart | .awaiting _ | .suspendedYield _ | .completed => []

variable (event : AgentExecutionEvent) (resolved : Bool)

@[simp] theorem ended_yielding : (yielding event).ended = event.endsQueue := rfl
@[simp] theorem ended_suspendedYield : (suspendedYield event).ended = event.endsQueue := rfl
@[simp] theorem ended_awaiting : (awaiting resolved).ended = false := rfl
@[simp] theorem ended_completed : completed.ended = true := rfl
@[simp] theorem inFlight_yielding : (yielding event).inFlight = [event] := rfl
@[simp] theorem inFlight_suspendedYield : (suspendedYield event).inFlight = [] := rfl
@[simp] theorem inFlight_awaiting : (awaiting resolved).inFlight = [] := rfl
@[simp] theorem inFlight_completed : completed.inFlight = [] := rfl

end Generator

namespace ExecutionEventQueue

variable {queue after : ExecutionEventQueue} {event : AgentExecutionEvent}

/-- The queue as a reader of what is published. -/
def inbox (queue : ExecutionEventQueue) : Inbox AgentExecutionEvent where
  received := queue.published
  handled := queue.yielded ++ queue.generator.inFlight
  waiting := if queue.generator.ended then none else some queue.eventQueue
  listening := queue.attached

structure Coherent (queue : ExecutionEventQueue) : Prop where
  listening : queue.attached = !queue.stopped
  resolver : queue.resolvePromise = true ↔ queue.generator = .awaiting false
  asleep : queue.generator = .awaiting false → queue.eventQueue = [] ∧ queue.stopped = false
  asked : queue.generator.running = true ↔ queue.pulls ≠ 0
  ended : queue.generator = .completed → queue.stopped = true
  reported : none ∈ queue.results → queue.generator = .completed

/-- A generator about to run, on behalf of at least one call. -/
structure Ready (queue : ExecutionEventQueue) : Prop where
  listening : queue.attached = !queue.stopped
  unresolved : queue.resolvePromise = false
  asked : queue.pulls ≠ 0
  reported : none ∉ queue.results

section Resolve

@[simp] theorem resolve_attached : queue.resolve.attached = queue.attached := by
  unfold resolve; split <;> rfl

@[simp] theorem resolve_eventQueue : queue.resolve.eventQueue = queue.eventQueue := by
  unfold resolve; split <;> rfl

@[simp] theorem resolve_stopped : queue.resolve.stopped = queue.stopped := by
  unfold resolve; split <;> rfl

@[simp] theorem resolve_pulls : queue.resolve.pulls = queue.pulls := by
  unfold resolve; split <;> rfl

@[simp] theorem resolve_results : queue.resolve.results = queue.results := by
  unfold resolve; split <;> rfl

@[simp] theorem resolve_published : queue.resolve.published = queue.published := by
  unfold resolve; split <;> rfl

/-- The resolver wakes a sleeping generator and changes no other. -/
theorem resolve_generator :
    queue.resolve.generator = queue.generator ∨
      ∃ resolved, queue.generator = .awaiting resolved ∧
        queue.resolve.generator = .awaiting true := by
  unfold resolve
  split
  · cases waits : queue.generator with
    | awaiting resolved => exact .inr ⟨resolved, rfl, by simp⟩
    | _ => exact .inl (by simp)
  · exact .inl rfl

@[simp] theorem resolve_running : queue.resolve.generator.running = queue.generator.running := by
  rcases @resolve_generator queue with same | ⟨_, waits, woken⟩
  · rw [same]
  · rw [waits, woken]; rfl

@[simp] theorem resolve_ended : queue.resolve.generator.ended = queue.generator.ended := by
  rcases @resolve_generator queue with same | ⟨_, waits, woken⟩
  · rw [same]
  · rw [waits, woken]; rfl

@[simp] theorem resolve_inFlight : queue.resolve.generator.inFlight = queue.generator.inFlight := by
  rcases @resolve_generator queue with same | ⟨_, waits, woken⟩
  · rw [same]
  · rw [waits, woken]; rfl

@[simp] theorem resolve_completed :
    queue.resolve.generator = .completed ↔ queue.generator = .completed := by
  rcases @resolve_generator queue with same | ⟨_, waits, woken⟩
  · rw [same]
  · simp [waits, woken]

/-- After the call no generator sleeps, whatever the resolver was for. -/
theorem resolve_awake
    (resolver : queue.resolvePromise = true ↔ queue.generator = .awaiting false) :
    queue.resolve.resolvePromise = false ∧ queue.resolve.generator ≠ .awaiting false := by
  unfold resolve
  split
  · rename_i sleeping
    simp [resolver.mp sleeping]
  · rename_i calm
    exact ⟨by simpa using calm, fun sleeps => calm (resolver.mpr sleeps)⟩

@[simp] theorem resolve_inbox : queue.resolve.inbox = queue.inbox := by
  simp [inbox, yielded]

end Resolve

theorem stop_coherent (coherent : queue.Coherent) : queue.stop.Coherent := by
  obtain ⟨calm, awake⟩ :=
    @resolve_awake { queue with stopped := true } coherent.resolver
  exact {
    listening := by simp [stop]
    resolver := by simp [stop, calm, awake]
    asleep := fun sleeps => absurd sleeps awake
    asked := by simpa [stop] using coherent.asked
    ended := by simp [stop]
    reported := by simpa [stop] using coherent.reported }

theorem stop_ready (ready : queue.Ready) : queue.stop.Ready := by
  have calm : (resolve { queue with stopped := true }).resolvePromise = false := by
    simp [resolve, ready.unresolved]
  exact ⟨by simp [stop], by simp [stop, calm], by simpa [stop] using ready.asked,
    by simpa [stop] using ready.reported⟩

theorem stop_stopped : queue.stop.stopped = true := by simp [stop]

/-- The queue once an event published before it stopped has been buffered. -/
def accept (queue : ExecutionEventQueue) (event : AgentExecutionEvent) : ExecutionEventQueue :=
  resolve { queue with
    eventQueue := queue.eventQueue ++ [event]
    published := queue.published ++ [event] }

/-- A publication is ignored or buffered, according to whether the queue has stopped. -/
theorem publish_cases (coherent : queue.Coherent) (event : AgentExecutionEvent) :
    queue.publish event = queue ∨
      queue.attached = true ∧ queue.publish event = queue.accept event := by
  cases stopped : queue.stopped with
  | true =>
      have silent : queue.attached = false := by simp [coherent.listening, stopped]
      cases queue
      cases silent
      cases stopped
      exact .inl rfl
  | false => exact .inr (by simp [publish, handleEvent, accept, coherent.listening, stopped])

theorem accept_coherent (coherent : queue.Coherent) (event : AgentExecutionEvent) :
    (queue.accept event).Coherent := by
  obtain ⟨calm, awake⟩ := @resolve_awake { queue with
    eventQueue := queue.eventQueue ++ [event]
    published := queue.published ++ [event] } coherent.resolver
  exact {
    listening := by simpa [accept] using coherent.listening
    resolver := by simp [accept, calm, awake]
    asleep := fun sleeps => absurd sleeps awake
    asked := by simpa [accept] using coherent.asked
    ended := by simpa [accept] using coherent.ended
    reported := by simpa [accept] using coherent.reported }

theorem complete_coherent (ready : queue.Ready) (stopped : queue.stopped = true) :
    queue.complete.Coherent where
  listening := ready.listening
  resolver := by simp [complete, ready.unresolved]
  asleep := nofun
  asked := by simp [complete, Generator.running]
  ended := fun _ => stopped
  reported := fun _ => rfl

theorem loop_coherent (ready : queue.Ready) : queue.loop.Coherent := by
  unfold loop
  split
  · exact {
      listening := ready.listening
      resolver := by simp [ready.unresolved]
      asleep := nofun
      asked := by simp [Generator.running, ready.asked]
      ended := nofun
      reported := fun done => absurd done ready.reported }
  · rename_i empty
    split
    · rename_i stopped
      exact complete_coherent ready stopped
    · rename_i goesOn
      exact {
        listening := ready.listening
        resolver := by simp
        asleep := fun _ => ⟨empty, by simpa using goesOn⟩
        asked := by simp [Generator.running, ready.asked]
        ended := nofun
        reported := fun done => absurd done ready.reported }

theorem afterYield_coherent (ready : queue.Ready) (event : AgentExecutionEvent) :
    (queue.afterYield event).Coherent := by
  unfold afterYield
  split
  · exact complete_coherent (stop_ready ready) stop_stopped
  · exact loop_coherent ready

/-- A generator that is not asleep has no resolver behind it. -/
theorem Coherent.unresolved (coherent : queue.Coherent)
    (awake : queue.generator ≠ .awaiting false) : queue.resolvePromise = false := by
  cases promise : queue.resolvePromise with
  | false => rfl
  | true => exact absurd (coherent.resolver.mp promise) awake

theorem next_coherent (coherent : queue.Coherent) : queue.next.Coherent := by
  have ready : queue.generator ≠ .completed → queue.generator ≠ .awaiting false →
      Ready { queue with pulls := queue.pulls + 1 } := fun unfinished awake =>
    ⟨coherent.listening, coherent.unresolved awake, Nat.succ_ne_zero _,
      fun done => unfinished (coherent.reported done)⟩
  unfold next
  split
  · rename_i start
    exact loop_coherent (ready (by simp [start]) (by simp [start]))
  · rename_i event suspended
    exact afterYield_coherent (ready (by simp [suspended]) (by simp [suspended])) event
  · rename_i completed
    exact {
      listening := coherent.listening
      resolver := by simp [complete, coherent.unresolved, completed]
      asleep := nofun
      asked := by simp [complete, Generator.running]
      ended := fun _ => coherent.ended completed
      reported := fun _ => rfl }
  all_goals
    rename_i running
    exact {
      listening := coherent.listening
      resolver := coherent.resolver
      asleep := coherent.asleep
      asked := by simp [running, Generator.running]
      ended := by simp [running]
      reported := coherent.reported }

theorem deliver_coherent {others : Nat} (coherent : queue.Coherent)
    (yielding : queue.generator = .yielding event) : (queue.deliver event others).Coherent := by
  have calm := coherent.unresolved (by simp [yielding])
  have unreported : none ∉ queue.results ++ [some event] := by
    simpa using fun done => absurd (coherent.reported done) (by simp [yielding])
  unfold deliver
  split
  · rename_i last
    exact {
      listening := coherent.listening
      resolver := by simp [calm]
      asleep := nofun
      asked := by simp [Generator.running, last]
      ended := nofun
      reported := fun done => absurd done unreported }
  · rename_i more
    have ready : Ready { queue with
        generator := .suspendedYield event
        pulls := others
        results := queue.results ++ [some event] } :=
      ⟨coherent.listening, calm, more, unreported⟩
    exact afterYield_coherent ready event

theorem job_cases (ran : queue.job = some after) :
    (queue.generator = .awaiting true ∧ after = queue.loop) ∨
      ∃ event others, queue.generator = .yielding event ∧ queue.pulls = others + 1 ∧
        after = queue.deliver event others := by
  unfold job at ran
  split at ran
  · rename_i woken
    exact .inl ⟨woken, (Option.some.inj ran).symm⟩
  · rename_i event others yielding asked
    exact .inr ⟨event, others, yielding, asked, (Option.some.inj ran).symm⟩
  · cases ran

theorem step_coherent {action : Action} (coherent : queue.Coherent)
    (stepped : queue.step action = some after) : after.Coherent := by
  cases action with
  | publish event =>
      cases stepped
      rcases publish_cases coherent event with same | ⟨_, same⟩ <;> rw [same]
      · exact coherent
      · exact accept_coherent coherent event
  | finished =>
      cases stepped
      unfold finished
      split
      · exact stop_coherent coherent
      · exact coherent
  | stop => cases stepped; exact stop_coherent coherent
  | next => cases stepped; exact next_coherent coherent
  | job =>
      rcases job_cases stepped with ⟨woken, rfl⟩ | ⟨event, others, yielding, _, rfl⟩
      · exact loop_coherent ⟨coherent.listening, coherent.unresolved (by simp [woken]),
          coherent.asked.mp (by rw [woken]; rfl),
          fun done => absurd (coherent.reported done) (by simp [woken])⟩
      · exact deliver_coherent coherent yielding

/-! Delivery: the queue simulates the reader of its inbox. -/

theorem stop_inbox : queue.stop.inbox = { queue.inbox with listening := false } := by
  simp [stop, inbox, yielded]

theorem complete_inbox (idle : queue.generator.inFlight = []) :
    queue.complete.inbox = { queue.inbox with waiting := none } := by
  have unsettled : queue.complete.yielded = queue.yielded := by
    simp [complete, yielded]
  rw [inbox, unsettled]
  simp [complete, inbox, idle]

theorem loop_inbox (listening : queue.attached = !queue.stopped)
    (goesOn : queue.generator.ended = false) (idle : queue.generator.inFlight = []) :
    Relation.ReflTransGen (Inbox.Step AgentExecutionEvent.endsQueue) queue.inbox
      queue.loop.inbox := by
  unfold loop
  split
  · rename_i event rest buffered
    have waits : queue.inbox.waiting = some (event :: rest) := by simp [inbox, goesOn, buffered]
    have handled := @Inbox.Step.handle _ AgentExecutionEvent.endsQueue _ _ _ queue.attached waits id
    refine .single ?_
    cases ends : event.endsQueue <;> simpa [inbox, idle, yielded, ends] using handled
  · rename_i empty
    have waits : queue.inbox.waiting = some [] := by simp [inbox, goesOn, empty]
    split
    · rename_i stopped
      have silent : queue.inbox.listening = false := by simp [inbox, listening, stopped]
      rw [complete_inbox idle]
      have finished := @Inbox.Step.finish _ AgentExecutionEvent.endsQueue _ waits silent
      rw [← silent] at finished
      exact .single finished
    · have same : inbox { queue with resolvePromise := true, generator := .awaiting false } =
          queue.inbox := by
        simp [inbox, goesOn, idle, yielded]
      rw [same]

theorem afterYield_inbox (listening : queue.attached = !queue.stopped)
    (suspended : queue.generator = .suspendedYield event) :
    Relation.ReflTransGen (Inbox.Step AgentExecutionEvent.endsQueue) queue.inbox
      (queue.afterYield event).inbox := by
  have idle : queue.generator.inFlight = [] := by simp [suspended]
  unfold afterYield
  split
  · rename_i ends
    have stopped : queue.handleFinished.generator.inFlight = [] := by
      simpa [handleFinished, stop] using idle
    have finished : queue.inbox.waiting = none := by simp [inbox, suspended, ends]
    rw [complete_inbox stopped, handleFinished, stop_inbox]
    refine .single ?_
    simpa [finished] using
      @Inbox.Step.quiet _ AgentExecutionEvent.endsQueue queue.inbox false nofun
  · rename_i goesOn
    exact loop_inbox listening (by simpa [suspended] using goesOn) idle

theorem next_inbox (coherent : queue.Coherent) :
    Relation.ReflTransGen (Inbox.Step AgentExecutionEvent.endsQueue) queue.inbox
      queue.next.inbox := by
  have asks : inbox { queue with pulls := queue.pulls + 1 } = queue.inbox := rfl
  unfold next
  rw [← asks]
  split
  · rename_i start
    exact loop_inbox coherent.listening (by simp [start, Generator.ended])
      (by simp [start, Generator.inFlight])
  · rename_i event suspended
    exact afterYield_inbox coherent.listening suspended
  · rename_i completed
    rw [complete_inbox (by simp [completed])]
    have finished : queue.inbox.waiting = none := by simp [inbox, completed]
    simp only [asks]
    rw [← finished]
  · exact .refl
  · exact .refl

theorem deliver_inbox {others : Nat} (coherent : queue.Coherent)
    (yielding : queue.generator = .yielding event) :
    Relation.ReflTransGen (Inbox.Step AgentExecutionEvent.endsQueue) queue.inbox
      (queue.deliver event others).inbox := by
  have hands : inbox { queue with
      generator := .suspendedYield event
      pulls := others
      results := queue.results ++ [some event] } = queue.inbox := by
    cases ends : event.endsQueue <;> simp [inbox, yielded, yielding, ends]
  unfold deliver
  rw [← hands]
  split
  · exact .refl
  · exact afterYield_inbox coherent.listening rfl

theorem step_inbox {action : Action} (coherent : queue.Coherent)
    (stepped : queue.step action = some after) :
    Relation.ReflTransGen (Inbox.Step AgentExecutionEvent.endsQueue) queue.inbox after.inbox := by
  have stops : Relation.ReflTransGen (Inbox.Step AgentExecutionEvent.endsQueue) queue.inbox
      queue.stop.inbox := by
    rw [stop_inbox]
    exact .single (.quiet nofun)
  cases action with
  | publish event =>
      cases stepped
      rcases publish_cases coherent event with same | ⟨listens, same⟩ <;> rw [same]
      have accepted : (queue.accept event).inbox = queue.inbox.receive event := by
        cases ended : queue.generator.ended <;>
          simp [accept, inbox, yielded, Inbox.receive, ended]
      rw [accepted]
      exact .single (.receive event listens)
  | finished =>
      cases stepped
      unfold finished
      split
      · exact stops
      · exact .refl
  | stop => cases stepped; exact stops
  | next => cases stepped; exact next_inbox coherent
  | job =>
      rcases job_cases stepped with ⟨woken, rfl⟩ | ⟨event, others, yielding, _, rfl⟩
      · exact loop_inbox coherent.listening (by simp [woken]) (by simp [woken])
      · exact deliver_inbox coherent yielding

theorem coherent_new : new.Coherent where
  listening := rfl
  resolver := by simp [new]
  asleep := nofun
  asked := by simp [new, Generator.running]
  ended := nofun
  reported := by simp [new]

theorem delivered_new : new.inbox.Delivered AgentExecutionEvent.endsQueue := by
  refine ⟨?_, nofun⟩
  rintro items ⟨⟩
  exact ⟨rfl, rfl⟩

theorem coherent_of_reaches {actions : List Action}
    (reaches : queueSystem.Reaches new actions queue) : queue.Coherent :=
  reaches.invariant Coherent coherent_new (fun coherent _ stepped => step_coherent coherent stepped)

theorem delivered_of_reaches {actions : List Action}
    (reaches : queueSystem.Reaches new actions queue) :
    queue.inbox.Delivered AgentExecutionEvent.endsQueue := by
  have both := reaches.invariant
    (fun queue => queue.Coherent ∧ queue.inbox.Delivered AgentExecutionEvent.endsQueue)
    ⟨coherent_new, delivered_new⟩
    (fun holds _ stepped =>
      ⟨step_coherent holds.1 stepped, holds.2.steps (step_inbox holds.1 stepped)⟩)
  exact both.2

/-! Wake-ups: jobs run until no call can be answered. -/

/-- How many jobs the generator can still run before the bus or the consumer acts again. -/
def work (queue : ExecutionEventQueue) : Nat :=
  queue.eventQueue.length +
    match queue.generator with
    | .awaiting true | .yielding _ => 1
    | .suspendedStart | .awaiting false | .suspendedYield _ | .completed => 0

theorem loop_work : queue.loop.work ≤ queue.eventQueue.length := by
  unfold loop
  split
  · rename_i event rest buffered
    simp [work, buffered]
  · split <;> simp [work, complete]

theorem afterYield_work : (queue.afterYield event).work ≤ queue.eventQueue.length := by
  unfold afterYield
  split
  · simp [work, complete, handleFinished, stop]
  · exact loop_work

theorem job_work (ran : queue.job = some after) : after.work < queue.work := by
  rcases job_cases ran with ⟨woken, rfl⟩ | ⟨event, others, yielding, _, rfl⟩
  · have bound := @loop_work queue
    simp only [work, woken] at bound ⊢
    omega
  · have measure : queue.work = queue.eventQueue.length + 1 := by simp [work, yielding]
    rw [measure, deliver]
    split
    · simp [work]
    · exact Nat.lt_succ_of_le afterYield_work

/-- No lost wake-up: a pending call of `next()` with something to answer it has a job. -/
theorem Coherent.wakes (coherent : queue.Coherent) (asked : queue.pulls ≠ 0)
    (answerable : queue.eventQueue ≠ [] ∨ queue.stopped = true) :
    ∃ after, queue.step .job = some after := by
  have running := coherent.asked.mpr asked
  cases where' : queue.generator with
  | awaiting resolved =>
      cases resolved with
      | true => exact ⟨queue.loop, by simp [step, job, where']⟩
      | false =>
          have asleep := coherent.asleep where'
          simp [asleep] at answerable
  | yielding event =>
      obtain ⟨others, more⟩ := Nat.exists_eq_succ_of_ne_zero asked
      exact ⟨queue.deliver event others, by simp [step, job, where', more]⟩
  | _ => simp [where', Generator.running] at running

theorem Coherent.settles (coherent : queue.Coherent) :
    ∃ jobs rested, jobs ≤ queue.work ∧
      queueSystem.run queue (List.replicate jobs .job) = some rested ∧
      (rested.pulls = 0 ∨ rested.eventQueue = [] ∧ rested.stopped = false) := by
  induction bound : queue.work using Nat.strongRecOn generalizing queue with
  | ind work ih =>
      cases ran : queue.job with
      | none =>
          refine ⟨0, queue, Nat.zero_le _, rfl, ?_⟩
          by_contra unsettled
          push Not at unsettled
          obtain ⟨after, steps⟩ := coherent.wakes unsettled.1 (by
            cases stopped : queue.stopped with
            | true => exact .inr rfl
            | false => exact .inl fun empty => absurd stopped (unsettled.2 empty))
          rw [step, ran] at steps
          cases steps
      | some after =>
          have less := job_work ran
          have steps : queue.step .job = some after := ran
          obtain ⟨jobs, rested, few, runs, settled⟩ :=
            ih after.work (bound ▸ less) (step_coherent coherent steps) rfl
          refine ⟨jobs + 1, rested, by omega, ?_, settled⟩
          rw [List.replicate_succ, System.run]
          exact Option.bind_eq_some_iff.mpr ⟨after, ran, runs⟩

/-- The generator yields the events published before the stop, up to the first that ends the
queue; `done` is reported only when all of them have been; and no call of `next()` stays
pending while an event is buffered or the queue has stopped. -/
theorem queue_delivers_prefix {actions : List Action}
    (reaches : queueSystem.Reaches new actions queue) :
    queue.yielded <+: queue.published ∧
      queue.yielded <+: takeThrough AgentExecutionEvent.endsQueue queue.published ∧
      (none ∈ queue.results → queue.generator = .completed) ∧
      (queue.generator = .completed →
        queue.stopped = true ∧
          queue.yielded = takeThrough AgentExecutionEvent.endsQueue queue.published) ∧
      (queue.pulls ≠ 0 → queue.eventQueue ≠ [] ∨ queue.stopped = true →
        ∃ after, queue.step .job = some after) ∧
      ∃ jobs rested,
        queueSystem.run queue (List.replicate jobs .job) = some rested ∧
          (rested.pulls = 0 ∨ rested.eventQueue = [] ∧ rested.stopped = false) := by
  have coherent := coherent_of_reaches reaches
  have delivered := delivered_of_reaches reaches
  have accounts := delivered.accounts
  have within : queue.yielded <+: takeThrough AgentExecutionEvent.endsQueue queue.published :=
    ⟨_, by rw [← List.append_assoc]; exact accounts.symm⟩
  obtain ⟨jobs, rested, _, runs, settled⟩ := coherent.settles
  refine ⟨within.trans (takeThrough_initial _), within, coherent.reported, fun completed => ?_,
    coherent.wakes, jobs, rested, runs, settled⟩
  have nothing : queue.inbox.waiting = none := by simp [inbox, completed]
  have all := (delivered.stopped nothing).1
  exact ⟨coherent.ended completed, by simpa [inbox, completed] using all⟩

/-- Two calls made before any event share the events published later. -/
theorem queue_delivers_early_pulls :
    let working : AgentExecutionEvent := .artifactUpdate ⟨"t", "ctx", none, true, false, none⟩
    let completed : AgentExecutionEvent :=
      .statusUpdate ⟨"t", "ctx", some ⟨.completed, none, none⟩, none⟩
    let actions : List Action := [.next, .next, .next, .publish working, .publish completed,
      .publish working, .job, .job, .job]
    ∃ queue, queueSystem.run new actions = some queue ∧
      queue.results = [some working, some completed, none] ∧
      queue.yielded = takeThrough AgentExecutionEvent.endsQueue queue.published := by
  intro working completed actions
  refine ⟨_, rfl, rfl, ?_⟩
  have reaches : queueSystem.Reaches new actions _ := System.reaches_of_run rfl
  have delivers := queue_delivers_prefix reaches
  exact (delivers.2.2.2.1 rfl).2

end ExecutionEventQueue

end A2A.Server
