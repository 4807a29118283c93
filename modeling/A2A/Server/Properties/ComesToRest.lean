import A2A.Library.Exhaustion
import A2A.Server.Scenario
import A2A.Server.Semantics.Inboxes
import A2A.Server.Semantics.Workload

namespace A2A.Server

open Library

/-! The request handler neither deadlocks nor runs for ever.

Whatever has been asked of it and published, the steps it takes by itself come to an end, in any
order and with any outcome of the awaited operations; and where they do, every call has returned or
waits for something from outside.
-/

namespace State

variable {handler : Handler} {state next : State} {label : Label} {pids : Finset Pid}

/-- Every call has returned, is suspended at a yield or waits for an event; every executor runs or
has been settled; and no section of a lock is waited for. -/
structure Rests (state : State) : Prop where
  idle : ∀ pid call, state.calls pid = some call → call.idle = true
  settled : ∀ pid call execution, state.calls pid = some call → call.execution = some execution →
    execution.phase = .running ∨ execution.phase.done = true
  unlocked : ∀ key, state.locks key = []

/-- What the steps of the handler keep, for calls that are all among `pids`. -/
structure Orderly (pids : Finset Pid) (state : State) : Prop where
  wellFormed : state.WellFormed
  knows : state.Knows
  furnished : ∀ pid call, state.calls pid = some call → call.Furnished
  listed : state.LocksListed
  held : state.LocksHeld
  numbered : ∃ bound, ∀ number, bound ≤ number → state.events (.made number) = none
  within : ∀ pid call, state.calls pid = some call → pid ∈ pids

theorem stepped_furnished (wellFormed : state.WellFormed)
    (furnished : ∀ pid call, state.calls pid = some call → call.Furnished) {after : Call} {effects : List Effect}
    (stepped : Stepped handler state label after effects) : after.Furnished := by
  have rephased : ∀ {call : Call} {execution : Option Execution}, call.Furnished →
      ({ call with execution }).Furnished := fun furnished => ⟨furnished.references, furnished.configures⟩
  cases stepped with
  | begun => exact Call.begin_furnished _ _ _ _
  | resumed found resumed =>
      exact (Call.resume_cases resumed).furnished (wellFormed _ _ found) (furnished _ _ found)
  | published found | finishedBus found => exact furnished _ _ found
  | executorReturned found | executorThrew found | reaped found => exact rephased (furnished _ _ found)
  | abandoned found abandoned =>
      obtain ⟨_, _, rfl⟩ := Call.abandon_cases abandoned
      exact .of_pc rfl

theorem foldl_numbered {pid : Pid} {effects : List Effect}
    (numbered : ∃ bound, ∀ number, bound ≤ number → state.events (.made number) = none) :
    ∃ bound, ∀ number, bound ≤ number →
      (effects.foldl (apply pid) state).events (.made number) = none := by
  induction effects generalizing state with
  | nil => exact numbered
  | cons effect rest ih =>
      obtain ⟨bound, unused⟩ := numbered
      refine ih ?_
      cases effect with
      | publish bus id event =>
          have later : ∃ above, ∀ number, above ≤ number → EventId.made number ≠ id := by
            cases id with
            | made number => exact ⟨number + 1, fun other beyond => by simp; omega⟩
            | contextTask owner => exact ⟨0, fun other _ => by simp⟩
          obtain ⟨above, apart⟩ := later
          refine ⟨max bound above, fun other beyond => ?_⟩
          simp only [apply, mapCalls]
          rw [Function.update_of_ne (apart other (by omega))]
          exact unused other (by omega)
      | trim id historyLength =>
          refine ⟨bound, fun other beyond => ?_⟩
          by_cases same : .made other = id
          · subst same
            simp [apply, unused other beyond]
          · simp only [apply]
            rw [Function.update_of_ne same]
            exact unused other beyond
      | cleanup taskId =>
          refine ⟨bound, fun other beyond => ?_⟩
          simp only [apply]
          split <;> exact unused other beyond
      | _ => exact ⟨bound, unused⟩

theorem Orderly.step (orderly : state.Orderly pids)
    (present : ∀ request context requestedExtensions fresh,
      label.action = .call request context requestedExtensions fresh → label.pid ∈ pids)
    (stepped : state.step handler label = some next) : next.Orderly pids where
  wellFormed := wellFormed_step orderly.wellFormed stepped
  knows := knows_step orderly.wellFormed orderly.knows stepped
  furnished := by
    obtain ⟨after, effects, steppedTo, rfl⟩ := step_cases stepped
    intro pid call found
    rcases commit_overheard found with ⟨_, overheard⟩ | ⟨_, before, earlier, overheard⟩
    · exact (stepped_furnished orderly.wellFormed orderly.furnished steppedTo).overheard overheard
    · exact (orderly.furnished _ _ earlier).overheard overheard
  listed := locksListed_step orderly.wellFormed orderly.listed stepped
  held := locksHeld_step orderly.wellFormed orderly.held stepped
  numbered := by
    obtain ⟨after, effects, steppedTo, rfl⟩ := step_cases stepped
    exact foldl_numbered orderly.numbered
  within := by
    intro pid call found
    rcases calls_step stepped found with rfl | ⟨before, earlier⟩
    · obtain ⟨after, effects, steppedTo, rfl⟩ := step_cases stepped
      cases steppedTo with
      | begun => exact present _ _ _ _ rfl
      | resumed earlier | published earlier | finishedBus earlier | executorReturned earlier
      | executorThrew earlier | reaped earlier | abandoned earlier => exact orderly.within _ _ earlier
    · exact orderly.within pid before earlier

theorem orderly_initial (taskStore : InMemoryTaskStore) (pushNotificationStore : InMemoryPushNotificationStore)
    (taskIdToBus : String → Option BusId) :
    (State.initial taskStore pushNotificationStore taskIdToBus).Orderly pids where
  wellFormed := wellFormed_initial _ _ _
  knows := by
    intro pid call found
    cases found
  furnished := by
    intro pid call found
    cases found
  listed := locksListed_initial _ _ _
  held := locksHeld_initial _ _ _
  numbered := ⟨0, fun _ _ => rfl⟩
  within := by
    intro pid call found
    cases found

/-- A step of the handler's own leaves less to do. -/
theorem Orderly.works (orderly : state.Orderly pids) (works : state.Works label)
    (stepped : state.step handler label = some next) :
    next.Orderly pids ∧ next.workload pids < state.workload pids := by
  refine ⟨orderly.step (fun request context requestedExtensions fresh asks => ?_) stepped, ?_⟩
  · rw [Works, asks] at works
    exact works.elim
  obtain ⟨after, effects, steppedTo, rfl⟩ := step_cases stepped
  cases steppedTo with
  | begun | published | finishedBus | executorReturned | executorThrew | abandoned => exact works.elim
  | @resumed pid call fate after effects found resumed =>
      obtain ⟨record, present, active⟩ := works
      cases found.symm.trans present
      have wellFormed := orderly.wellFormed pid call found
      have quiet : effects.countP Effect.publishes = 0 := by
        have silent := ((Call.resume_cases resumed).busUse wellFormed).silent
        refine List.countP_eq_zero.mpr fun effect member => ?_
        have known := silent effect member
        cases effect <;> simp_all [Effect.publishes, Effect.silent]
      refine commit_workload (orderly.within pid call found) found ?_
      rw [quiet]
      have nearer := @Call.resume_workload _ _ _ _ _ _ _ pids.card wellFormed (orderly.furnished pid call found)
        active resumed
      omega
  | @reaped pid call execution fresh changed effects found executing _ _ _ reaped =>
      refine commit_workload (orderly.within pid call found) found ?_
      simp only [Call.workload, Call.backlog, Call.settlement, executing, Option.map_some, Option.getD_some]
      cases Execution.reap_settles reaped with
      | updated rejected | announced rejected =>
          simp only [rejected, Phase.workload, List.countP_cons, List.countP_nil, Effect.publishes]
          simp
          omega
      | keptAlive settling | closed settling =>
          simp [settling, Phase.workload, Effect.publishes]

/-- A handler that can take no step of its own is at rest. -/
theorem Orderly.rests (orderly : state.Orderly pids)
    (stuck : (handlerSystem handler).Stuck Works state) : state.Rests := by
  have idle : ∀ pid call, state.calls pid = some call → call.idle = true := by
    have goes : ∀ pid call, state.calls pid = some call → call.idle = false →
        (∀ key, call.pc.key = some key → (state.locks key).head? = some pid) → False := by
      intro pid call found active holds
      obtain ⟨result, resumed⟩ := @Call.resume_isSome handler (state.view pid (handler.scope call.context)) pid call
        (orderly.wellFormed pid call found) (orderly.knows pid call found) (orderly.furnished pid call found) active
        (fun key named => by simp [State.view, holds key named])
      have refused := stuck ⟨pid, .resume .ok⟩ ⟨call, found, active⟩
      simp [handlerSystem, State.step, found, resumeCall, resumed] at refused
    intro pid call found
    by_contra waits
    have active : call.idle = false := by simpa using waits
    cases named : call.pc.key with
    | none => exact goes pid call found active fun key other => by simp [named] at other
    | some key =>
        have own : state.lockKeyAt pid = some key := by rw [lockKeyAt, found, Option.bind_some, named]
        obtain ⟨first, leader, heads, present, same⟩ := orderly.listed.leader own
        have works : leader.idle = false := by
          cases counter : leader.pc <;> simp_all [Pc.key, Call.idle]
        refine goes first leader present works fun other its => ?_
        cases same.symm.trans its
        exact heads
  refine ⟨idle, ?_, ?_⟩
  · intro pid call execution found executing
    obtain ⟨bound, unused⟩ := orderly.numbered
    let fresh : FailureFresh := ⟨"", "", "", "", .made bound, .made (bound + 1)⟩
    have refused := stuck ⟨pid, .executorReaped fresh⟩ trivial
    have first : state.events (.made bound) = none := unused bound (Nat.le_refl _)
    have second : state.events (.made (bound + 1)) = none := unused (bound + 1) (by omega)
    have apart : EventId.made bound ≠ .made (bound + 1) := by simp
    simp only [handlerSystem, State.step, found, executorReaped, executing, fresh, first, second,
      Option.isNone_none, EventId.isMade, true_and, and_true] at refused
    rw [if_pos apart] at refused
    cases phase : execution.phase with
    | running => exact .inl rfl
    | settled => exact .inr rfl
    | rejected errorMessage =>
        simp only [Execution.reap, phase, Option.map_eq_none_iff] at refused
        split at refused <;> cases refused
    | settling failed => simp [Execution.reap, phase] at refused
  · intro key
    by_contra waiting
    obtain ⟨first, rest, chain⟩ := List.exists_cons_of_ne_nil waiting
    have counted := orderly.listed first key
    rw [chain, List.count_cons_self] at counted
    have named : state.lockKeyAt first = some key := by
      by_contra other
      rw [if_neg other] at counted
      omega
    obtain ⟨call, found, its⟩ := Option.bind_eq_some_iff.mp named
    have rested := idle first call found
    cases counter : call.pc <;> simp_all [Pc.key, Call.idle]

end State

/-- From every reachable state the handler's own steps come to an end, and where they do it is at rest. -/
theorem handler_comes_to_rest {handler : Handler} {taskStore : InMemoryTaskStore}
    {pushNotificationStore : InMemoryPushNotificationStore} {taskIdToBus : String → Option BusId}
    {labels : List Label} {state : State}
    (runs : (handlerSystem handler).Reaches (.initial taskStore pushNotificationStore taskIdToBus) labels state) :
    (∀ jobs after, (handlerSystem handler).Runs State.Works state jobs after →
        jobs.length ≤ state.workload (labels.map Label.pid).toFinset ∧
          ((handlerSystem handler).Stuck State.Works after → after.Rests)) ∧
      ∃ jobs after, (handlerSystem handler).Runs State.Works state jobs after ∧ after.Rests := by
  have orderly : state.Orderly (labels.map Label.pid).toFinset := by
    have along := runs.history (fun before current => ∀ pids : Finset Pid,
        (∀ label ∈ before, label.pid ∈ pids) → current.Orderly pids)
      (fun _ _ => State.orderly_initial _ _ _)
      (fun {before current label next} holds _ stepped pids within => by
        have earlier := holds pids fun other member => within other (List.mem_append_left _ member)
        exact earlier.step (fun _ _ _ _ _ => within label (by simp)) stepped)
    exact along _ fun label member => List.mem_toFinset.mpr (List.mem_map_of_mem member)
  have works : ∀ {current label next}, State.Orderly (labels.map Label.pid).toFinset current →
      current.Works label → (handlerSystem handler).step current label = some next →
      next.Orderly (labels.map Label.pid).toFinset ∧
        next.workload (labels.map Label.pid).toFinset < current.workload (labels.map Label.pid).toFinset :=
    fun holds permitted stepped => holds.works permitted stepped
  refine ⟨fun jobs after runs => ?_, ?_⟩
  · obtain ⟨kept, counted⟩ := runs.exhausts orderly works
    exact ⟨by omega, kept.rests⟩
  · obtain ⟨jobs, after, runs, stuck⟩ := System.exists_stuck orderly works
    exact ⟨jobs, after, runs, (runs.exhausts orderly works).1.rests stuck⟩

section

open Scenario

/-- An executor publishes a task and throws, and nothing of it has been handled yet. -/
def thrownSchedule : List Label :=
  [calls 0 (.sendMessage (params (message "m" "") false)) (context "tenant" "user") "T"] ++ resumes 0 1 ++
    [publishes 0 0 (taskEvent "T" .working), throws 0]

theorem thrown_executor_comes_to_rest :
    ∃ state, (handlerSystem (server false)).run (seeded ⟨"", ""⟩ []) thrownSchedule = some state ∧
      (state.calls 0).map Call.idle = some false ∧
      ∃ jobs after, (handlerSystem (server false)).Runs State.Works state jobs after ∧ after.Rests := by
  have ran : ((handlerSystem (server false)).run (seeded ⟨"", ""⟩ []) thrownSchedule).map (fun state =>
      (state.calls 0).map Call.idle) = some (some false) := rfl
  obtain ⟨state, completed, waiting⟩ := Option.map_eq_some_iff.mp ran
  exact ⟨state, completed, waiting, (handler_comes_to_rest (System.reaches_of_run completed)).2⟩

end

end A2A.Server
