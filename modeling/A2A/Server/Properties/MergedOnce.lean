import A2A.Server.Properties.LostUpdates
import A2A.Server.Semantics.Absorption

namespace A2A.Server

open Library

/-! Whether every artifact event of a task is merged once.

Each consumer of a bus has a queue and a manager of its own, and merges whatever its queue accepts.
The row is the published events replayed as long as each of them has one reader.
-/

namespace State

/-- The step publishes the event on the bus. -/
inductive Publishes (handler : Handler) (state : State) : Label → BusId → AgentExecutionEvent → Prop
  | published {pid call bus id event} : state.calls pid = some call → call.executorBus = some bus →
      Publishes handler state ⟨pid, .publish id event⟩ bus event
  | reported {pid call execution fresh after effects bus id event} :
      state.calls pid = some call → call.execution = some execution →
      execution.reap handler.keepBusAliveStates call.isStream (state.contextTask pid execution)
        fresh = some (after, effects) →
      .publish bus id event ∈ effects → Publishes handler state ⟨pid, .executorReaped fresh⟩ bus event

/-- The step merges nothing twice and loses nothing: it saves the row only while no other call holds
a copy of it; what it publishes for the task has one reader in the scope when the bus is one of the
task's, and none when it is not; and it does not keep its own call from merging what is coming. -/
structure MergesOnce (handler : Handler) (scope : Scope) (taskId : String) (buses : BusId → Bool)
    (state : State) (label : Label) : Prop where
  saves : SavesRowExclusively handler scope taskId state label
  reads : ∀ bus event, Publishes handler state label bus event → event.bearsArtifacts taskId = true →
    if buses bus then ∃ reader, state.SoleReader handler scope taskId bus reader
    else ∀ other, ¬ state.Reads handler scope bus other
  loyal : state.GivesUp handler label → state.coming handler scope taskId label.pid = []

variable {handler : Handler} {state next current : State} {label : Label} {pid : Pid} {scope : Scope}
  {taskId : String} {buses : BusId → Bool} {bus : BusId} {id : EventId} {event : AgentExecutionEvent}

/-- A published event goes to its one reader, if it matters at all.  The state it is published in may
differ from `state` in what the feed does not show. -/
theorem publish_feed (permitted : MergesOnce handler scope taskId buses state label)
    (publishes : Publishes handler state label bus event) (knows : current.Knows)
    (unknown : current.events id = none)
    (same : current.feed handler scope taskId buses = state.feed handler scope taskId buses)
    (alike : ∀ bus other, current.Reads handler scope bus other ↔ state.Reads handler scope bus other) :
    Feed.Step (AgentExecutionEvent.absorb taskId) (state.feed handler scope taskId buses)
      ((current.apply pid (.publish bus id event)).feed handler scope taskId buses) := by
  have queues : ∀ other, current.coming handler scope taskId other = state.coming handler scope taskId other :=
    congrFun (congrArg Feed.queues same)
  rw [← same]
  cases bears : event.bearsArtifacts taskId with
  | false =>
      rw [publish_feed_of_spares knows unknown bears]
      exact .idle
  | true =>
      have heard := permitted.reads bus event publishes bears
      cases counts : buses bus with
      | true =>
          rw [if_pos counts] at heard
          obtain ⟨reader, reads, others⟩ := heard
          refine @publish_feed_of_sole handler current pid scope taskId buses bus id event knows unknown
            bears counts reader ⟨(alike bus reader).mpr reads, fun other differ => ?_⟩
          exact ⟨fun reading => (others other differ).1 ((alike bus other).mp reading),
            (queues other).trans (others other differ).2⟩
      | false =>
          rw [if_neg (by simp [counts])] at heard
          rw [publish_feed_of_unread knows unknown counts fun other reading =>
            heard other ((alike bus other).mp reading)]
          exact .idle

theorem feed_step (wellFormed : state.WellFormed) (knows : state.Knows) (forwards : state.Forwards)
    (copies : state.Current handler scope taskId)
    (permitted : MergesOnce handler scope taskId buses state label)
    (stepped : state.step handler label = some next) :
    Feed.Step (AgentExecutionEvent.absorb taskId) (state.feed handler scope taskId buses)
      (next.feed handler scope taskId buses) := by
  obtain ⟨after, effects, steppedTo, rfl⟩ := step_cases stepped
  cases steppedTo with
  | @begun pid request context requestedExtensions fresh absent =>
      obtain ⟨_, _, _, remaining⟩ := @begin_blank handler (state.view pid (handler.scope context))
        state.events request context requestedExtensions fresh
      have nothing : state.coming handler scope taskId pid = [] := by rw [coming, absent]
      rw [commit_nil, setCall_feed ?_]
      · exact .idle
      · rw [nothing]
        split
        · refine Call.coming_of_nothing ?_
          rcases remaining with ⟨unstarted, _⟩ | empty
          · rw [unstarted]
            rfl
          · rw [empty]
            rfl
        · rfl
  | resumed found resumed =>
      exact resumed_feed wellFormed knows forwards copies found permitted.loyal resumed
  | published found attached unknown =>
      rw [commit_cons, setCall_eq_self found]
      exact publish_feed permitted (.published found attached) knows unknown rfl fun _ _ => Iff.rfl
  | finishedBus found =>
      rw [commit_cons, setCall_eq_self found, List.foldl_nil, closes_feed rfl]
      exact .idle
  | executorReturned found | executorThrew found =>
      rw [commit_nil, (rephased_feed found).1]
      exact .idle
  | @reaped pid call execution fresh changed effects found executing unknownTask unknownStatus differ
      reaped =>
      obtain ⟨same, alike⟩ := @rephased_feed handler state pid call scope taskId buses (some changed) found
      have known : (state.setCall pid { call with execution := some changed }).Knows := by
        have own := knows pid call found
        exact setCall_knows knows ⟨own.queued, own.current, own.saving, own.own, own.unqueued⟩
      cases Execution.reap_settles reaped with
      | updated =>
          rw [commit_cons, List.foldl_nil, publish_feed_of_spares known unknownStatus rfl, same]
          exact .idle
      | @announced _ task update =>
          have announces : Publishes handler state ⟨pid, .executorReaped fresh⟩ execution.eventBus (.task task) :=
            .reported found executing reaped List.mem_cons_self
          have announced := @publish_feed handler state _ _ pid scope taskId buses _ fresh.taskEvent _
            permitted announces known unknownTask same alike
          have still : ((state.setCall pid { call with execution := some _ }).apply pid
              (.publish execution.eventBus fresh.taskEvent (.task task))).Knows :=
            apply_knows known (by rintro _ _ _ ⟨⟩; exact unknownTask)
          rw [commit_cons, List.foldl_cons, List.foldl_nil, publish_feed_of_spares still ?_ rfl]
          · exact announced
          · simpa [apply, Function.update_of_ne differ.symm] using unknownStatus
      | keptAlive =>
          rw [commit_nil, same]
          exact .idle
      | closed =>
          rw [commit_cons, List.foldl_cons, List.foldl_nil, closes_feed rfl, closes_feed rfl, same]
          exact .idle
  | @abandoned pid call after found abandoned =>
      obtain ⟨_, _, rfl⟩ := Call.abandon_cases abandoned
      have nothing : state.coming handler scope taskId pid = [] := permitted.loyal trivial
      rw [commit_nil, setCall_feed ?_]
      · exact .idle
      · rw [nothing]
        split
        · refine Call.coming_of_nothing ?_
          rw [Call.left_remaining rfl]
          rfl
        · rfl

end State

variable {handler : Handler} {state : State}

/-- Once the consumers of a scope have nothing left to merge, the stored artifacts of a task are those
of the initial task with the published events merged into it, each of them once. -/
theorem artifacts_merged_once {taskStore : InMemoryTaskStore}
    {pushNotificationStore : InMemoryPushNotificationStore} {taskIdToBus : String → Option BusId}
    {labels : List Label} {scope : Scope} {taskId : String} {buses : BusId → Bool}
    (runs : (handlerSystem handler).Runs (State.MergesOnce handler scope taskId buses)
      (.initial taskStore pushNotificationStore taskIdToBus) labels state)
    (drained : ∀ pid, state.coming handler scope taskId pid = []) :
    (state.row scope taskId).map Task.artifacts =
      ((state.published buses).foldl (replay none taskId) (taskStore.load scope taskId)).map
        Task.artifacts := by
  have holds := runs.invariant (fun current =>
      (current.WellFormed ∧ current.Knows ∧ current.LocksHeld ∧ current.Forwards) ∧
      Register.Serial (Write.Enabled taskId) Write.apply (taskStore.load scope taskId)
        (current.register handler scope taskId) ∧
      Feed.Accounted (AgentExecutionEvent.absorb taskId) ((taskStore.load scope taskId).map Task.artifacts)
        (current.feed handler scope taskId buses)) ⟨⟨?_, ?_, ?_, ?_⟩, ?_, ?_⟩ ?_
  · have replayed := holds.2.2.drained drained
    rw [foldl_replay_artifacts fun task stored => taskStore.load_id stored]
    refine Eq.trans replayed ?_
    change (((state.published buses).map fun item => item.2.core).filter _).foldl _ _ = _
    rw [AgentExecutionEvent.foldl_absorb_filter, List.foldl_map, List.foldl_map]
    simp only [AgentExecutionEvent.absorb_core]
  · exact State.wellFormed_initial _ _ _
  · intro pid call found
    cases found
  · exact State.locksHeld_initial _ _ _
  · exact State.forwards_initial _ _ _
  · exact State.register_initial _ _ _ scope taskId
  · exact ⟨0, fun _ _ => rfl, rfl⟩
  · intro current label next holds permitted stepped
    obtain ⟨⟨wellFormed, knows, locked, forwards⟩, serial, accounted⟩ := holds
    refine ⟨⟨State.wellFormed_step wellFormed stepped, State.knows_step wellFormed knows stepped,
      State.locksHeld_step wellFormed locked stepped, State.forwards_step wellFormed forwards stepped⟩, ?_, ?_⟩
    · exact serial.step (State.register_step wellFormed locked permitted.saves stepped)
    · exact accounted.step (State.feed_step wellFormed knows forwards serial.hands permitted stepped)

section

open Scenario

/-- `State.Reads`, as a check. -/
def readsBus (handler : Handler) (scope : Scope) (bus : BusId) (state : State) (pid : Pid) : Bool :=
  (state.calls pid).any fun call => call.consumes handler scope && call.listensOn bus &&
    (call.inbox state.events).waiting.any fun items => !items.any Item.stops

theorem readsBus_iff {scope : Scope} {bus : BusId} {pid : Pid} :
    readsBus handler scope bus state pid = true ↔ state.Reads handler scope bus pid := by
  constructor
  · intro passed
    cases found : state.calls pid with
    | none =>
        rw [readsBus, found] at passed
        cases passed
    | some call =>
        simp only [readsBus, found, Option.any_some, Bool.and_eq_true] at passed
        obtain ⟨⟨consumes, listens⟩, waiting⟩ := passed
        cases waits : (call.inbox state.events).waiting with
        | none =>
            rw [waits] at waiting
            cases waiting
        | some items =>
            rw [waits, Option.any_some, Bool.not_eq_true'] at waiting
            exact ⟨call, found, consumes, listens, Call.listensOn_listening listens, items, waits, waiting⟩
  · intro reading
    obtain ⟨call, found, consumes, listens, _, items, waits, calm⟩ := reading
    simp [readsBus, found, consumes, listens, waits, calm]

/-- `State.MergesOnce` for all buses, in a state whose calls are all among `pids`. -/
def mergesOnce (handler : Handler) (scope : Scope) (taskId : String) (pids : List Pid) (state : State)
    (label : Label) : Bool :=
  savesExclusively handler pids state label &&
    match label.action, state.calls label.pid with
    | .abandon, _ | .resume (.fail _), _ => false
    | .resume .ok, some call => call.pc.sends && !call.isStream
    | .publish _ event, some call => !event.bearsArtifacts taskId || call.executorBus.all fun bus =>
        pids.any fun reader => readsBus handler scope bus state reader && pids.all fun other =>
          other = reader ||
            (!readsBus handler scope bus state other && (state.coming handler scope taskId other).isEmpty)
    | .executorReaped _, some call => call.execution.all fun execution =>
        match execution.phase with
        | .rejected _ => false
        | _ => true
    | _, _ => true

theorem coming_nil {scope : Scope} {taskId : String} {pids : List Pid} (within : Within pids state)
    (none : pids.all (fun pid => (state.coming handler scope taskId pid).isEmpty) = true) (pid : Pid) :
    state.coming handler scope taskId pid = [] := by
  cases found : state.calls pid with
  | none => rw [State.coming, found]
  | some call => exact List.isEmpty_iff.mp (List.all_eq_true.mp none pid (within pid call found))

theorem mergesOnce_sound {scope : Scope} {taskId : String} {pids : List Pid} (state : State) (label : Label)
    (within : Within pids state) (passed : mergesOnce handler scope taskId pids state label = true) :
    State.MergesOnce handler scope taskId (fun _ => true) state label := by
  rw [mergesOnce, Bool.and_eq_true] at passed
  obtain ⟨saves, rest⟩ := passed
  refine ⟨(savesExclusively_sound state label within saves).row scope taskId, ?_, ?_⟩
  · intro bus event publishes bears
    rw [if_pos rfl]
    cases publishes with
    | @published pid call _ id _ found attached =>
        simp only [found, bears, attached, Bool.not_true, Bool.false_or, Option.all_some, List.any_eq_true,
          Bool.and_eq_true, List.all_eq_true] at rest
        obtain ⟨reader, _, reading, others⟩ := rest
        refine ⟨reader, readsBus_iff.mp reading, fun other differ => ?_⟩
        cases present : state.calls other with
        | none =>
            refine ⟨fun reads => ?_, by rw [State.coming, present]⟩
            obtain ⟨record, exists', _⟩ := reads
            cases present.symm.trans exists'
        | some record =>
            have apart := others other (within other record present)
            simp only [differ, decide_false, Bool.false_or, Bool.and_eq_true, Bool.not_eq_true'] at apart
            refine ⟨fun reading => ?_, List.isEmpty_iff.mp apart.2⟩
            cases apart.1.symm.trans (readsBus_iff.mpr reading)
    | @reported pid call execution fresh after effects _ id _ found executing reaped member =>
        simp only [found, executing, Option.all_some] at rest
        cases Execution.reap_settles reaped with
        | updated rejected | announced rejected =>
            rw [rejected] at rest
            cases rest
        | keptAlive => cases member
        | closed => simp at member
  · intro gives
    obtain ⟨actor, action⟩ := label
    cases action with
    | resume fate =>
        obtain ⟨call, found, gives⟩ := gives
        rw [found] at rest
        cases fate with
        | fail error => cases rest
        | ok =>
            simp only [Bool.and_eq_true, Bool.not_eq_true'] at rest
            cases rest.2.symm.trans (gives.streams rest.1)
    | abandon => cases rest
    | _ => exact gives.elim

/-- What a part says. -/
def partText (part : Part) : String :=
  match part.content with
  | some (.text value) => value
  | _ => ""

/-- The artifacts by their ids, and what their parts say. -/
def artifactTexts (task : Task) : List (String × List String) :=
  task.artifacts.map fun artifact => (artifact.artifactId, artifact.parts.map partText)

/-- A first message and what its executor publishes at once. -/
def firstSchedule (events : List Label) : List Label :=
  [calls 0 (.sendMessage (params (message "m" "") false)) (context "tenant" "user") "T"] ++
    resumes 0 1 ++ [publishes 0 0 (taskEvent "T" .working)] ++ resumes 0 4 ++ events

/-- A follow-up that reads the same bus. -/
def secondSchedule : List Label :=
  [calls 1 (.sendMessage (params (message "n" "T") false)) (context "tenant" "user") ""] ++ resumes 1 3

def appendUpdate : Label := publishes 0 1 (artifactEvent "T" "a" "x" true)

def completedSchedule : List Label :=
  [publishes 0 2 (statusEvent "T" .completed)] ++ resumes 0 4 ++ resumes 1 4 ++
    [returns 0, reaps 0 10 11, returns 1, reaps 1 12 13]

/-- The update is merged before the follow-up attaches its queue; both calls merge the result. -/
def soleSchedule : List Label :=
  firstSchedule ([appendUpdate] ++ resumes 0 4) ++ secondSchedule ++ completedSchedule

theorem artifacts_merged_once_sole :
    ∃ state, (handlerSystem (server false)).Runs
        (State.MergesOnce (server false) ⟨"tenant", "user"⟩ "T" fun _ => true)
        (seeded ⟨"", ""⟩ []) soleSchedule state ∧
      (∀ pid, state.coming (server false) ⟨"tenant", "user"⟩ "T" pid = []) ∧
      ((state.published fun _ => true).foldl (replay none "T") none).map artifactTexts = some [("a", ["x"])] ∧
      (state.row ⟨"tenant", "user"⟩ "T").map Task.artifacts =
        ((state.published fun _ => true).foldl (replay none "T") none).map Task.artifacts := by
  have ran : ((handlerSystem (server false)).checkedRun
      (mergesOnce (server false) ⟨"tenant", "user"⟩ "T" [0, 1]) (seeded ⟨"", ""⟩ []) soleSchedule).map
      (fun state => (((state.published fun _ => true).foldl (replay none "T") none).map artifactTexts,
        (soleSchedule.map Label.pid).all fun pid =>
          (state.coming (server false) ⟨"tenant", "user"⟩ "T" pid).isEmpty)) =
      some (some [("a", ["x"])], true) := rfl
  obtain ⟨state, completed, facts⟩ := Option.map_eq_some_iff.mp ran
  simp only [Prod.mk.injEq] at facts
  obtain ⟨replayed, nothing⟩ := facts
  have runs := System.runs_of_checkedRun mergesOnce_sound
    (fun within passed stepped => within_step within (by
      simp only [mergesOnce, savesExclusively, Bool.and_eq_true] at passed
      exact passed.1.1) stepped) (within_seeded _ _ _) completed
  have drained := coming_nil (fun _ _ found => State.calls_labelled runs rfl found) nothing
  exact ⟨state, runs, drained, replayed, artifacts_merged_once runs drained⟩

/-- The update is published while both calls read the bus. -/
def sharedSchedule : List Label :=
  firstSchedule [] ++ secondSchedule ++ [appendUpdate] ++ resumes 0 4 ++ resumes 1 4 ++ completedSchedule

/-- Two readers of one bus merge the update twice. -/
theorem shared_bus_merges_append_twice :
    ∃ state, (handlerSystem (server false)).run (seeded ⟨"", ""⟩ []) sharedSchedule = some state ∧
      state.Quiescent ∧
      (∀ pid, state.coming (server false) ⟨"tenant", "user"⟩ "T" pid = []) ∧
      ((state.published fun _ => true).foldl (replay none "T") none).map artifactTexts = some [("a", ["x"])] ∧
      (state.row ⟨"tenant", "user"⟩ "T").map artifactTexts = some [("a", ["x", "x"])] := by
  have ran : ((handlerSystem (server false)).run (seeded ⟨"", ""⟩ []) sharedSchedule).map (fun state =>
      (settled (sharedSchedule.map Label.pid) state,
        (sharedSchedule.map Label.pid).all fun pid =>
          (state.coming (server false) ⟨"tenant", "user"⟩ "T" pid).isEmpty,
        ((state.published fun _ => true).foldl (replay none "T") none).map artifactTexts,
        (state.row ⟨"tenant", "user"⟩ "T").map artifactTexts)) =
      some (true, true, some [("a", ["x"])], some [("a", ["x", "x"])]) := rfl
  obtain ⟨state, completed, facts⟩ := Option.map_eq_some_iff.mp ran
  simp only [Prod.mk.injEq] at facts
  obtain ⟨rests, nothing, replayed, stored⟩ := facts
  have runs := System.reaches_of_run completed
  exact ⟨state, completed, quiescent_of_settled runs rfl rests,
    coming_nil (fun _ _ found => State.calls_labelled runs rfl found) nothing, replayed, stored⟩

end

end A2A.Server
