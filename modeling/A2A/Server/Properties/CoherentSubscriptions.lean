import A2A.Server.Properties.MergedOnce
import A2A.Server.Semantics.Replicas

namespace A2A.Server

open Library

/-! Whether a resubscription shows the artifacts that the store holds.

The stream starts with the task as it is stored when the subscription loads it, and goes on with what
the queue of the subscription has accepted since it was attached.  The two meet without a gap or an
overlap if the events that are waiting at the load are those the store is still going to get.
-/

namespace State

/-- The step merges nothing twice and loses nothing, and it keeps the observer in step: the observer
resubscribes to the task in the scope; when it loads the task, what its queue holds is what the
consumers of the scope are still to merge; what is published for the task after that comes to its
queue, and nothing else does; and it does not leave while events are coming. -/
structure KeepsInStep (handler : Handler) (scope : Scope) (taskId : String) (buses : BusId → Bool)
    (observer : Pid) (state : State) (label : Label) : Prop
    extends MergesOnce handler scope taskId buses state label where
  opens : ∀ request context requestedExtensions fresh,
    label = ⟨observer, .call request context requestedExtensions fresh⟩ →
    request = .resubscribe taskId ∧ handler.scope context = scope
  caughtUp : label = ⟨observer, .resume .ok⟩ → ∀ call, state.calls observer = some call →
    call.pc = .resubscribeLoad → ∃ process,
      (∀ other, other ≠ process → state.coming handler scope taskId other = []) ∧
      state.coming handler scope taskId process = call.coming state.events taskId
  hears : ∀ bus event, Publishes handler state label bus event → event.bearsArtifacts taskId = true →
    ∀ call, state.calls observer = some call → call.yielded ≠ [] →
    (buses bus = true ↔ state.Hears bus observer)
  stays : label = ⟨observer, .abandon⟩ → ∀ call, state.calls observer = some call →
    call.coming state.events taskId = []

/-- With what it is still going to be shown, the observer has been shown what has been published. -/
structure InStep (handler : Handler) (scope : Scope) (taskId : String) (start : Option (List Artifact))
    (arrived : List AgentExecutionEvent) (sight : Sight) : Prop where
  request : sight.request = .resubscribe taskId
  scope : handler.scope sight.context = scope
  counter : sight.pc = .resubscribeLoad ∧ sight.yielded = [] ∨
    sight.pc.relays = true ∧ sight.yielded ≠ [] ∨ sight.pc = .finished
  told : sight.yielded ≠ [] →
    sight.ahead.foldl (AgentExecutionEvent.absorb taskId) (replica taskId sight.yielded) =
      arrived.foldl (AgentExecutionEvent.absorb taskId) start

def ObserverInStep (handler : Handler) (scope : Scope) (taskId : String) (start : Option (List Artifact))
    (buses : BusId → Bool) (observer : Pid) (state : State) : Prop :=
  ∀ sight, state.sight taskId observer = some sight →
    InStep handler scope taskId start (state.arrived taskId buses) sight

variable {handler : Handler} {state next current : State} {label : Label} {pid observer : Pid}
  {scope : Scope} {taskId : String} {start : Option (List Artifact)} {buses : BusId → Bool} {bus : BusId}
  {id : EventId} {event : AgentExecutionEvent} {call after : Call} {effects : List Effect} {fate : Fate}

theorem ObserverInStep.same (inStep : state.ObserverInStep handler scope taskId start buses observer)
    (sight : next.sight taskId observer = state.sight taskId observer)
    (arrived : next.arrived taskId buses = state.arrived taskId buses) :
    next.ObserverInStep handler scope taskId start buses observer := by
  intro shown found
  rw [arrived]
  exact inStep shown (sight ▸ found)

theorem publish_inStep_of_spares (knows : state.Knows) (unknown : state.events id = none)
    (spares : event.bearsArtifacts taskId = false)
    (inStep : state.ObserverInStep handler scope taskId start buses observer) :
    (state.apply pid (.publish bus id event)).ObserverInStep handler scope taskId start buses observer := by
  refine inStep.same (publish_sight_of_spares knows unknown spares) ?_
  have silent : [event.core].filter (AgentExecutionEvent.bearsArtifacts taskId) = [] := by
    simp [spares]
  rw [publish_arrived, silent, ite_self, List.append_nil]

theorem closes_inStep {effect : Effect} (closes : effect.closes = true)
    (inStep : state.ObserverInStep handler scope taskId start buses observer) :
    (state.apply pid effect).ObserverInStep handler scope taskId start buses observer :=
  inStep.same (closes_sight closes)
    (congrArg Feed.arrived (@closes_feed handler state pid scope taskId buses effect closes))

/-- A published event of the task comes to the observer, if it counts.  The state it is published in
may differ from `state` in what the observer does not see. -/
theorem publish_inStep (permitted : KeepsInStep handler scope taskId buses observer state label)
    (publishes : Publishes handler state label bus event) (knows : current.Knows)
    (unknown : current.events id = none)
    (same : current.sight taskId observer = state.sight taskId observer)
    (hearing : current.Hears bus observer ↔ state.Hears bus observer)
    (inStep : current.ObserverInStep handler scope taskId start buses observer) :
    (current.apply pid (.publish bus id event)).ObserverInStep handler scope taskId start buses observer := by
  cases bears : event.bearsArtifacts taskId with
  | false => exact publish_inStep_of_spares knows unknown bears inStep
  | true =>
      have kept : [event.core].filter (AgentExecutionEvent.bearsArtifacts taskId) = [event.core] := by
        simp [bears]
      have counted : ∀ shown, current.sight taskId observer = some shown → shown.yielded ≠ [] →
          (buses bus = true ↔ current.Hears bus observer) := by
        intro shown found told
        rw [same, sight] at found
        obtain ⟨call, present, rfl⟩ := Option.map_eq_some_iff.mp found
        rw [hearing]
        exact permitted.hears bus event publishes bears call present told
      intro shown found
      rw [publish_arrived, kept]
      by_cases hears : current.Hears bus observer
      · rw [publish_sight_of_hears knows unknown hears, kept] at found
        obtain ⟨before, earlier, rfl⟩ := Option.map_eq_some_iff.mp found
        have facts := inStep before earlier
        refine ⟨facts.request, facts.scope, facts.counter, fun told => ?_⟩
        rw [if_pos ((counted before earlier told).mpr hears), List.foldl_append, List.foldl_append,
          facts.told told]
      · rw [publish_sight_of_deaf knows unknown hears] at found
        have facts := inStep shown found
        refine ⟨facts.request, facts.scope, facts.counter, fun told => ?_⟩
        rw [if_neg fun counts => hears ((counted shown found told).mp counts), List.append_nil,
          facts.told told]

/-- A resumed step of the observer shows what the queue holds. -/
theorem resumed_inStep (wellFormed : state.WellFormed) (knows : state.Knows)
    (accounted : Feed.Accounted (AgentExecutionEvent.absorb taskId) start
      (state.feed handler scope taskId buses))
    (permitted : KeepsInStep handler scope taskId buses observer state ⟨pid, .resume fate⟩)
    (inStep : state.ObserverInStep handler scope taskId start buses observer)
    (found : state.calls pid = some call)
    (resumed : call.resume handler (state.view pid (handler.scope call.context)) pid fate =
      some (after, effects)) :
    (state.commit pid (after, effects)).ObserverInStep handler scope taskId start buses observer := by
  have arrived : (state.commit pid (after, effects)).arrived taskId buses = state.arrived taskId buses := by
    simp only [State.arrived, published, (commit_resumed (wellFormed pid call found) resumed).2.2]
  have seen := @resumed_sight handler state pid observer call after effects fate taskId wellFormed knows
    found resumed
  by_cases own : observer = pid
  · subst own
    rw [if_pos rfl] at seen
    intro shown present
    rw [seen] at present
    obtain rfl := Option.some.inj present
    have facts := inStep _ (sight_of found)
    have cases' := Call.resume_cases resumed
    obtain ⟨relayed, subscribes⟩ := Call.Subscribes.relayed ⟨facts.request, facts.counter⟩ cases'
    refine ⟨subscribes.request, ?_, subscribes.counter, fun told => ?_⟩
    · change handler.scope after.context = scope
      rw [(cases'.origin (wellFormed observer call found)).2.1]
      exact facts.scope
    · rw [arrived]
      change (after.coming state.events taskId).foldl _ (replica taskId after.yielded) = _
      have earlier : call.yielded ≠ [] → (call.coming state.events taskId).foldl
          (AgentExecutionEvent.absorb taskId) (replica taskId call.yielded) = _ := facts.told
      change after.yielded ≠ [] at told
      have unheard : call.pc = .resubscribeLoad → call.yielded = [] := by
        intro loading
        rcases facts.counter with ⟨_, empty⟩ | ⟨relays, _⟩ | finished
        · exact empty
        · rw [show (call.sight state.events taskId).pc = call.pc from rfl, loading] at relays
          cases relays
        · rw [show (call.sight state.events taskId).pc = call.pc from rfl, loading] at finished
          cases finished
      cases relayed with
      | silent same waiting =>
          rw [same] at told ⊢
          rw [show after.coming state.events taskId = call.coming state.events taskId from waiting]
          exact earlier told
      | refused loading same =>
          rw [same] at told
          exact (told (unheard loading)).elim
      | @loaded _ task loading loads yields waiting =>
          obtain ⟨process, others, comes⟩ := permitted.caughtUp rfl call found loading
          obtain ⟨owner, alone, folded⟩ := accounted
          have row : state.row scope taskId = some task := by
            rw [show scope = handler.scope call.context from facts.scope.symm]
            exact loads
          have shows : replica taskId after.yielded = (state.row scope taskId).map Task.artifacts := by
            rw [yields, unheard loading, row]
            simp [replica, AgentExecutionEvent.ofStreamResponse, AgentExecutionEvent.absorb, row_id row]
          have queue : state.coming handler scope taskId owner = call.coming state.events taskId := by
            by_cases same : owner = process
            · rw [same, comes]
            · have emptied : state.coming handler scope taskId process = [] := alone process (Ne.symm same)
              rw [others owner same, ← comes, emptied]
          rw [show after.coming state.events taskId = call.coming state.events taskId from waiting, shows,
            ← queue]
          exact folded
      | @forwarded _ _ event heard split yields =>
          rw [← earlier heard, show call.coming state.events taskId = _ from split, List.foldl_append]
          by_cases target : event.target = some taskId
          · rw [if_pos target] at yields
            rw [yields, replica_append]
            cases bears : event.bearsArtifacts taskId with
            | true => simp [bears, view]
            | false => simp [bears, view, AgentExecutionEvent.absorb_of_spares bears]
          · have spares : event.bearsArtifacts taskId = false := by
              rw [Bool.eq_false_iff]
              exact fun bears => target (AgentExecutionEvent.target_of_bearsArtifacts bears)
            rw [if_neg target] at yields
            rw [yields]
            simp [spares, view]
  · rw [if_neg own] at seen
    exact inStep.same seen arrived

theorem inStep_step (wellFormed : state.WellFormed) (knows : state.Knows)
    (accounted : Feed.Accounted (AgentExecutionEvent.absorb taskId) start
      (state.feed handler scope taskId buses))
    (permitted : KeepsInStep handler scope taskId buses observer state label)
    (inStep : state.ObserverInStep handler scope taskId start buses observer)
    (stepped : state.step handler label = some next) :
    next.ObserverInStep handler scope taskId start buses observer := by
  obtain ⟨after, effects, steppedTo, rfl⟩ := step_cases stepped
  cases steppedTo with
  | @begun pid request context requestedExtensions fresh absent =>
      rw [commit_nil]
      by_cases own : observer = pid
      · subst own
        obtain ⟨rfl, inScope⟩ := permitted.opens request context requestedExtensions fresh rfl
        intro shown found
        rw [sight_of setCall_self] at found
        obtain rfl := Option.some.inj found
        have started : ∀ {call : Call}, call.yielded = [] → call.request = .resubscribe taskId →
            call.context = context → call.pc = .resubscribeLoad ∨ call.pc = .finished →
            InStep handler scope taskId start (state.arrived taskId buses) (call.sight state.events taskId) := by
          intro call empty asked same counter
          refine ⟨asked, by rw [show (call.sight state.events taskId).context = _ from same, inScope], ?_,
            fun told => (told empty).elim⟩
          rcases counter with loading | finished
          · exact .inl ⟨loading, empty⟩
          · exact .inr (.inr finished)
        simp only [Handler.begin]
        split
        · split
          · exact started rfl rfl rfl (.inl rfl)
          · exact started rfl rfl rfl (.inl rfl)
        · exact started rfl rfl rfl (.inr rfl)
      · refine inStep.same ?_ rfl
        rw [sight, setCall_of_ne own]
        rfl
  | resumed found resumed => exact resumed_inStep wellFormed knows accounted permitted inStep found resumed
  | published found attached unknown =>
      rw [commit_cons, setCall_eq_self found]
      exact publish_inStep permitted (.published found attached) knows unknown rfl Iff.rfl inStep
  | finishedBus found =>
      rw [commit_cons, setCall_eq_self found]
      exact closes_inStep rfl inStep
  | executorReturned found | executorThrew found =>
      rw [commit_nil]
      exact inStep.same (@rephased_sight state _ observer _ taskId 0 _ found).1 rfl
  | @reaped pid call execution fresh changed effects found executing unknownTask unknownStatus differ
      reaped =>
      have known : (state.setCall pid { call with execution := some changed }).Knows := by
        have own := knows pid call found
        exact setCall_knows knows ⟨own.queued, own.current, own.saving, own.own, own.unqueued⟩
      have rephased : (state.setCall pid { call with execution := some changed }).ObserverInStep handler scope
          taskId start buses observer :=
        inStep.same (@rephased_sight state pid observer call taskId execution.eventBus _ found).1 rfl
      cases Execution.reap_settles reaped with
      | updated =>
          rw [commit_cons]
          exact publish_inStep_of_spares known unknownStatus rfl rephased
      | @announced _ task update =>
          have announces : Publishes handler state ⟨pid, .executorReaped fresh⟩ execution.eventBus (.task task) :=
            .reported found executing reaped List.mem_cons_self
          obtain ⟨same, hearing⟩ :=
            @rephased_sight state pid observer call taskId execution.eventBus (some _) found
          have announced := @publish_inStep handler state _ _ pid observer scope taskId start buses _
            fresh.taskEvent _ permitted announces known unknownTask same hearing rephased
          have still : ((state.setCall pid { call with execution := some _ }).apply pid
              (.publish execution.eventBus fresh.taskEvent (.task task))).Knows :=
            apply_knows known (by rintro _ _ _ ⟨⟩; exact unknownTask)
          rw [commit_cons, List.foldl_cons, List.foldl_nil]
          refine publish_inStep_of_spares still ?_ rfl announced
          simpa [apply, Function.update_of_ne differ.symm] using unknownStatus
      | keptAlive =>
          rw [commit_nil]
          exact rephased
      | closed =>
          rw [commit_cons, List.foldl_cons, List.foldl_nil]
          exact closes_inStep rfl (closes_inStep rfl rephased)
  | @abandoned pid call after found abandoned =>
      obtain ⟨last, suspended, rfl⟩ := Call.abandon_cases abandoned
      rw [commit_nil]
      by_cases own : observer = pid
      · subst own
        have nothing := permitted.stays rfl call found
        have facts := inStep _ (sight_of found)
        intro shown present
        rw [sight_of setCall_self] at present
        obtain rfl := Option.some.inj present
        refine ⟨facts.request, facts.scope, .inr (.inr rfl), fun told => ?_⟩
        have earlier := facts.told told
        change (call.coming state.events taskId).foldl _ _ = _ at earlier
        change ((call.stopQueue.finish .done).coming state.events taskId).foldl _ _ = _
        rw [nothing] at earlier
        rw [Call.coming_of_left rfl]
        exact earlier
      · refine inStep.same ?_ rfl
        rw [sight, setCall_of_ne own]
        rfl

end State

variable {handler : Handler} {state : State}

/-- Merging what a resubscription has yielded and is still to forward gives what merging the pending
events into the stored artifacts gives: at every moment once the stored task has been yielded.  With
nothing pending the client's replica is the stored artifacts. -/
theorem resubscription_coherent {taskStore : InMemoryTaskStore}
    {pushNotificationStore : InMemoryPushNotificationStore} {taskIdToBus : String → Option BusId}
    {labels : List Label} {scope : Scope} {taskId : String} {buses : BusId → Bool} {observer : Pid}
    {call : Call}
    (runs : (handlerSystem handler).Runs (State.KeepsInStep handler scope taskId buses observer)
      (.initial taskStore pushNotificationStore taskIdToBus) labels state)
    (found : state.calls observer = some call) (told : call.yielded ≠ []) :
    (∃ process, (∀ other, other ≠ process → state.coming handler scope taskId other = []) ∧
      (call.coming state.events taskId).foldl (AgentExecutionEvent.absorb taskId)
          (replica taskId call.yielded) =
        (state.coming handler scope taskId process).foldl (AgentExecutionEvent.absorb taskId)
          ((state.row scope taskId).map Task.artifacts)) ∧
    (call.coming state.events taskId = [] → (∀ pid, state.coming handler scope taskId pid = []) →
      replica taskId call.yielded = (state.row scope taskId).map Task.artifacts) := by
  have holds := runs.invariant (fun current =>
      (current.WellFormed ∧ current.Knows ∧ current.LocksHeld ∧ current.Forwards) ∧
      Register.Serial (Write.Enabled taskId) Write.apply (taskStore.load scope taskId)
        (current.register handler scope taskId) ∧
      Feed.Accounted (AgentExecutionEvent.absorb taskId) ((taskStore.load scope taskId).map Task.artifacts)
        (current.feed handler scope taskId buses) ∧
      current.ObserverInStep handler scope taskId ((taskStore.load scope taskId).map Task.artifacts) buses
        observer) ⟨⟨?_, ?_, ?_, ?_⟩, ?_, ?_, ?_⟩ ?_
  · obtain ⟨_, _, accounted, inStep⟩ := holds
    have shown : (call.coming state.events taskId).foldl (AgentExecutionEvent.absorb taskId)
        (replica taskId call.yielded) = _ := (inStep _ (State.sight_of found)).told told
    refine ⟨?_, fun quiet drained => ?_⟩
    · obtain ⟨process, others, folded⟩ := accounted
      exact ⟨process, others, shown.trans folded.symm⟩
    · rw [quiet] at shown
      exact Eq.trans shown (accounted.drained drained).symm
  · exact State.wellFormed_initial _ _ _
  · intro pid call found
    cases found
  · exact State.locksHeld_initial _ _ _
  · exact State.forwards_initial _ _ _
  · exact State.register_initial _ _ _ scope taskId
  · exact ⟨0, fun _ _ => rfl, rfl⟩
  · intro shown found
    cases found
  · intro current label next holds permitted stepped
    obtain ⟨⟨wellFormed, knows, locked, forwards⟩, serial, accounted, inStep⟩ := holds
    refine ⟨⟨State.wellFormed_step wellFormed stepped, State.knows_step wellFormed knows stepped,
      State.locksHeld_step wellFormed locked stepped, State.forwards_step wellFormed forwards stepped⟩,
      ?_, ?_, ?_⟩
    · exact serial.step (State.register_step wellFormed locked permitted.saves stepped)
    · exact accounted.step
        (State.feed_step wellFormed knows forwards serial.hands permitted.toMergesOnce stepped)
    · exact State.inStep_step wellFormed knows accounted permitted inStep stepped

section

open Scenario

/-- `State.Hears`, as a check. -/
def hearsBus (bus : BusId) (state : State) (observer : Pid) : Bool :=
  (state.calls observer).any fun call => call.listensOn bus &&
    (call.inbox state.events).waiting.any fun items => !items.any Item.stops

theorem hearsBus_iff {bus : BusId} {observer : Pid} :
    hearsBus bus state observer = true ↔ state.Hears bus observer := by
  constructor
  · intro passed
    cases found : state.calls observer with
    | none =>
        rw [hearsBus, found] at passed
        cases passed
    | some call =>
        simp only [hearsBus, found, Option.any_some, Bool.and_eq_true] at passed
        obtain ⟨listens, waiting⟩ := passed
        cases waits : (call.inbox state.events).waiting with
        | none =>
            rw [waits] at waiting
            cases waiting
        | some items =>
            rw [waits, Option.any_some, Bool.not_eq_true'] at waiting
            exact ⟨call, found, listens, Call.listensOn_listening listens, items, waits, waiting⟩
  · intro hears
    obtain ⟨call, found, listens, _, items, waits, calm⟩ := hears
    simp [hearsBus, found, listens, waits, calm]

/-- `State.KeepsInStep` for all buses, in a state whose calls are all among `pids`. -/
def keepsInStep (handler : Handler) (scope : Scope) (taskId : String) (pids : List Pid) (observer : Pid)
    (state : State) (label : Label) : Bool :=
  if label.pid = observer then
    savesExclusively handler pids state label &&
      match label.action, state.calls observer with
      | .call (.resubscribe id) context _ _, _ => id = taskId && handler.scope context = scope
      | .resume .ok, some call => call.isResubscribe && (call.pc.relays ||
          (call.coming state.events taskId).isEmpty &&
            pids.all fun other => (state.coming handler scope taskId other).isEmpty)
      | _, _ => false
  else
    mergesOnce handler scope taskId pids state label &&
      match label.action, state.calls label.pid, state.calls observer with
      | .publish _ _, some call, some watcher =>
          watcher.yielded.isEmpty || call.executorBus.all fun bus => hearsBus bus state observer
      | .executorReaped _, _, _ => false
      | _, _, _ => true

theorem keepsInStep_sound {scope : Scope} {taskId : String} {pids : List Pid} {observer : Pid}
    (state : State) (label : Label) (within : Within pids state)
    (passed : keepsInStep handler scope taskId pids observer state label = true) :
    State.KeepsInStep handler scope taskId (fun _ => true) observer state label := by
  simp only [keepsInStep] at passed
  split at passed
  · rename_i own
    rw [Bool.and_eq_true] at passed
    obtain ⟨saves, rest⟩ := passed
    obtain ⟨pid, action⟩ := label
    obtain rfl : pid = observer := own
    have unpublished : ∀ bus event, ¬ State.Publishes handler state ⟨pid, action⟩ bus event := by
      intro bus event publishes
      cases publishes <;> cases rest
    refine ⟨⟨(savesExclusively_sound state _ within saves).row scope taskId, ?_, ?_⟩, ?_, ?_, ?_, ?_⟩
    · intro bus event publishes
      exact (unpublished bus event publishes).elim
    · intro gives
      cases action with
      | resume fate =>
          obtain ⟨call, found, _⟩ := gives
          cases fate with
          | fail error =>
              rw [found] at rest
              cases rest
          | ok =>
              simp only [found, Bool.and_eq_true] at rest
              rw [State.coming_of found]
              simp [Call.consumes, rest.1]
      | abandon => cases rest
      | _ => exact gives.elim
    · intro request context requestedExtensions fresh same
      cases same
      cases request with
      | resubscribe id => simpa using rest
      | _ => cases rest
    · intro same call found loading
      cases same
      simp only [found, Bool.and_eq_true, Bool.or_eq_true, loading] at rest
      rcases rest.2 with relays | ⟨quiet, drained⟩
      · cases relays
      · have empty := coming_nil within drained
        exact ⟨pid, fun other _ => empty other, (empty pid).trans (List.isEmpty_iff.mp quiet).symm⟩
    · intro bus event publishes
      exact (unpublished bus event publishes).elim
    · intro same
      cases same
      cases rest
  · rename_i other
    rw [Bool.and_eq_true] at passed
    obtain ⟨merges, rest⟩ := passed
    refine ⟨mergesOnce_sound state label within merges, ?_, ?_, ?_, ?_⟩
    · intro request context requestedExtensions fresh same
      exact (other (congrArg Label.pid same)).elim
    · intro same
      exact (other (congrArg Label.pid same)).elim
    · intro bus event publishes bears call found told
      cases publishes with
      | published present attached =>
          simp only [present, found, attached, Option.all_some, Bool.or_eq_true] at rest
          rcases rest with empty | hears
          · exact (told (List.isEmpty_iff.mp empty)).elim
          · simp [hearsBus_iff.mp hears]
      | reported => cases rest
    · intro same
      exact (other (congrArg Label.pid same)).elim

/-- A subscription that starts with an artifact in the store and goes on with two updates. -/
def observedSchedule : List Label :=
  firstSchedule ([appendUpdate] ++ resumes 0 4) ++
    [calls 1 (.resubscribe "T") (context "tenant" "user") ""] ++ resumes 1 1 ++
    [publishes 0 2 (artifactEvent "T" "a" "y" true), publishes 0 3 (artifactEvent "T" "b" "z" false)] ++
    resumes 1 3 ++ resumes 0 8 ++ resumes 1 2

theorem resubscription_coherent_updates :
    ∃ state call, (handlerSystem (server false)).Runs
        (State.KeepsInStep (server false) ⟨"tenant", "user"⟩ "T" (fun _ => true) 1)
        (seeded ⟨"", ""⟩ []) observedSchedule state ∧
      state.calls 1 = some call ∧ call.yielded.length = 3 ∧
      (state.row ⟨"tenant", "user"⟩ "T").map artifactTexts = some [("a", ["x", "y"]), ("b", ["z"])] ∧
      replica "T" call.yielded = (state.row ⟨"tenant", "user"⟩ "T").map Task.artifacts := by
  have ran : ((handlerSystem (server false)).checkedRun
      (keepsInStep (server false) ⟨"tenant", "user"⟩ "T" [0, 1] 1) (seeded ⟨"", ""⟩ []) observedSchedule).map
      (fun state => ((state.row ⟨"tenant", "user"⟩ "T").map artifactTexts,
        (state.calls 1).map fun call => (call.yielded.length, (call.coming state.events "T").isEmpty),
        (observedSchedule.map Label.pid).all fun pid =>
          (state.coming (server false) ⟨"tenant", "user"⟩ "T" pid).isEmpty)) =
      some (some [("a", ["x", "y"]), ("b", ["z"])], some (3, true), true) := rfl
  obtain ⟨state, completed, facts⟩ := Option.map_eq_some_iff.mp ran
  simp only [Prod.mk.injEq] at facts
  obtain ⟨stored, shown, nothing⟩ := facts
  obtain ⟨call, found, shown⟩ := Option.map_eq_some_iff.mp shown
  simp only [Prod.mk.injEq] at shown
  obtain ⟨told, quiet⟩ := shown
  have listed : ∀ state label, keepsInStep (server false) ⟨"tenant", "user"⟩ "T" [0, 1] 1 state label = true →
      [0, 1].contains label.pid = true := by
    intro state label passed
    simp only [keepsInStep] at passed
    split at passed <;> simp only [mergesOnce, savesExclusively, Bool.and_eq_true] at passed
    · exact passed.1.1
    · exact passed.1.1.1
  have runs := System.runs_of_checkedRun keepsInStep_sound
    (fun within passed stepped => within_step within (listed _ _ passed) stepped) (within_seeded _ _ _) completed
  have drained := coming_nil (fun _ _ found => State.calls_labelled runs rfl found) nothing
  have heard : call.yielded ≠ [] := fun empty => by
    rw [empty] at told
    cases told
  exact ⟨state, call, runs, found, told, stored,
    (resubscription_coherent runs found heard).2 (List.isEmpty_iff.mp quiet) drained⟩

end

end A2A.Server
