import A2A.Server.System

namespace A2A.Server

open Library

/-! What a step does to each part of the system's state.

`Stepped` says once which call record and which effects a label produces; every
invariant is derived from it and from the lemmas below on the single effects.
-/

/-- The new record of the stepping call and the effects of the step. -/
inductive Stepped (handler : Handler) (state : State) : Label → Call → List Effect → Prop
  | begun {pid request context requestedExtensions fresh} :
      state.calls pid = none →
      Stepped handler state ⟨pid, .call request context requestedExtensions fresh⟩
        (handler.begin (state.view pid (handler.scope context)) request context
          requestedExtensions fresh) []
  | resumed {pid call fate after effects} :
      state.calls pid = some call →
      call.resume handler (state.view pid (handler.scope call.context)) pid fate =
        some (after, effects) →
      Stepped handler state ⟨pid, .resume fate⟩ after effects
  | published {pid call bus id event} :
      state.calls pid = some call → call.executorBus = some bus → state.events id = none →
      call.mayPublish pid id event = true →
      Stepped handler state ⟨pid, .publish id event⟩ call [.publish bus id event]
  | finishedBus {pid call bus} :
      state.calls pid = some call → call.executorBus = some bus →
      Stepped handler state ⟨pid, .finishBus⟩ call [.finished bus]
  | executorReturned {pid call execution} :
      state.calls pid = some call → call.execution = some execution →
      execution.phase = .running →
      Stepped handler state ⟨pid, .executorSettled (.ok ())⟩
        { call with execution := some { execution with phase := .settling false } } []
  | executorThrew {pid call execution errorMessage} :
      state.calls pid = some call → call.execution = some execution →
      execution.phase = .running →
      Stepped handler state ⟨pid, .executorSettled (.error errorMessage)⟩
        { call with execution := some { execution with phase := .rejected errorMessage } } []
  | reaped {pid call execution fresh after effects} :
      state.calls pid = some call → call.execution = some execution →
      state.events fresh.taskEvent = none → state.events fresh.statusEvent = none →
      fresh.taskEvent ≠ fresh.statusEvent →
      execution.reap handler.keepBusAliveStates call.isStream (state.contextTask pid execution)
        fresh = some (after, effects) →
      fresh.taskEvent.isMade = true → fresh.statusEvent.isMade = true →
      Stepped handler state ⟨pid, .executorReaped fresh⟩
        { call with execution := some after } effects
  | abandoned {pid call after} :
      state.calls pid = some call → call.abandon = some after →
      Stepped handler state ⟨pid, .abandon⟩ after []

theorem step_cases {handler : Handler} {state next : State} {label : Label}
    (stepped : state.step handler label = some next) :
    ∃ after effects, Stepped handler state label after effects ∧
      next = state.commit label.pid (after, effects) := by
  obtain ⟨pid, action⟩ := label
  cases action with
  | call request context requestedExtensions fresh =>
      simp only [State.step, State.beginCall] at stepped
      cases found : state.calls pid with
      | some call => simp [found] at stepped
      | none =>
          simp only [found, Option.some.injEq] at stepped
          exact ⟨_, _, .begun found, stepped.symm⟩
  | resume fate =>
      cases found : state.calls pid with
      | none => simp [State.step, found] at stepped
      | some call =>
          simp only [State.step, found, State.resumeCall, Option.map_eq_some_iff] at stepped
          obtain ⟨⟨after, effects⟩, resumed, rfl⟩ := stepped
          exact ⟨_, _, .resumed found resumed, rfl⟩
  | publish id event =>
      cases found : state.calls pid with
      | none => simp [State.step, found] at stepped
      | some call =>
          simp only [State.step, found, State.publish] at stepped
          cases bus : call.executorBus with
          | none => simp [bus] at stepped
          | some bus =>
              cases known : state.events id with
              | some old => simp [*] at stepped
              | none =>
                  simp only [*, Option.ite_none_right_eq_some, Option.some.injEq] at stepped
                  exact ⟨_, _, .published found ‹_› known stepped.1, stepped.2.symm⟩
  | finishBus =>
      cases found : state.calls pid with
      | none => simp [State.step, found] at stepped
      | some call =>
          simp only [State.step, found, State.finishBus, Option.map_eq_some_iff] at stepped
          obtain ⟨bus, holds, rfl⟩ := stepped
          exact ⟨_, _, .finishedBus found holds, rfl⟩
  | executorSettled result =>
      cases found : state.calls pid with
      | none => simp [State.step, found] at stepped
      | some call =>
          simp only [State.step, found, State.executorSettled] at stepped
          cases execution : call.execution with
          | none => simp [execution] at stepped
          | some execution =>
              simp only [*] at stepped
              split at stepped
              · rename_i running
                cases stepped
                cases result with
                | ok value => exact ⟨_, _, .executorReturned found ‹_› running, rfl⟩
                | error message => exact ⟨_, _, .executorThrew found ‹_› running, rfl⟩
              · contradiction
  | executorReaped fresh =>
      cases found : state.calls pid with
      | none => simp [State.step, found] at stepped
      | some call =>
          simp only [State.step, found, State.executorReaped] at stepped
          cases execution : call.execution with
          | none => simp [execution] at stepped
          | some execution =>
              simp only [*] at stepped
              split at stepped
              · rename_i unused
                simp only [Option.map_eq_some_iff] at stepped
                obtain ⟨⟨after, effects⟩, reaped, rfl⟩ := stepped
                exact ⟨_, _, .reaped found ‹_› (by simpa using unused.1)
                  (by simpa using unused.2.1) unused.2.2.1 reaped unused.2.2.2.1 unused.2.2.2.2, rfl⟩
              · contradiction
  | abandon =>
      cases found : state.calls pid with
      | none => simp [State.step, found] at stepped
      | some call =>
          simp only [State.step, found, Option.map_eq_some_iff] at stepped
          obtain ⟨after, abandoned, rfl⟩ := stepped
          exact ⟨_, _, .abandoned found abandoned, rfl⟩

namespace Effect

/-- What an effect makes the bus listeners of every call do. -/
def listen (taskIdToBus : String → Option BusId) : Effect → Call → Call
  | .publish bus id event => Call.receive bus id event
  | .finished bus => Call.receiveFinished bus
  | .cleanup taskId =>
      match taskIdToBus taskId with
      | some bus => Call.removeListeners bus
      | none => id
  | _ => id

/-- No listener runs. -/
def silent : Effect → Bool
  | .publish _ _ _ | .finished _ | .cleanup _ => false
  | _ => true

def saves : Effect → Bool
  | .saveTask _ _ _ => true
  | _ => false

def locks : Effect → Bool
  | .acquire _ | .release _ => true
  | _ => false

def registers : Effect → Bool
  | .register _ _ | .cleanup _ => true
  | _ => false

end Effect

namespace State

variable {state : State} {pid : Pid} {call : Call} {effect : Effect} {effects : List Effect}

@[simp] theorem commit_nil : state.commit pid (call, []) = state.setCall pid call := rfl

theorem commit_cons :
    state.commit pid (call, effect :: effects) =
      effects.foldl (apply pid) (apply pid (state.setCall pid call) effect) := rfl

@[simp] theorem setCall_self : (state.setCall pid call).calls pid = some call := by
  simp [setCall]

theorem setCall_of_ne {other : Pid} (differ : other ≠ pid) :
    (state.setCall pid call).calls other = state.calls other :=
  Function.update_of_ne differ _ _

theorem setCall_eq_self (found : state.calls pid = some call) : state.setCall pid call = state := by
  rw [setCall, ← found, Function.update_eq_self]

@[simp] theorem setCall_taskStore : (state.setCall pid call).taskStore = state.taskStore := rfl
@[simp] theorem setCall_pushStore :
    (state.setCall pid call).pushNotificationStore = state.pushNotificationStore := rfl
@[simp] theorem setCall_locks : (state.setCall pid call).locks = state.locks := rfl
@[simp] theorem setCall_taskIdToBus : (state.setCall pid call).taskIdToBus = state.taskIdToBus := rfl
@[simp] theorem setCall_events : (state.setCall pid call).events = state.events := rfl
@[simp] theorem setCall_writes : (state.setCall pid call).writes = state.writes := rfl
@[simp] theorem setCall_publications :
    (state.setCall pid call).publications = state.publications := rfl

theorem apply_calls (other : Pid) :
    (state.apply pid effect).calls other =
      (state.calls other).map (effect.listen state.taskIdToBus) := by
  cases effect with
  | cleanup taskId =>
      simp only [apply, Effect.listen]
      cases state.taskIdToBus taskId <;> simp [mapCalls]
  | publish bus id event => simp [apply, Effect.listen, mapCalls]
  | finished bus => simp [apply, Effect.listen, mapCalls]
  | _ => simp [apply, Effect.listen]

theorem apply_calls_silent (silent : effect.silent = true) :
    (state.apply pid effect).calls = state.calls := by
  cases effect <;> simp_all [Effect.silent, apply]

theorem apply_taskStore (quiet : effect.saves = false) :
    (state.apply pid effect).taskStore = state.taskStore ∧
      (state.apply pid effect).writes = state.writes := by
  cases effect with
  | cleanup taskId =>
      simp only [apply]
      cases state.taskIdToBus taskId <;> exact ⟨rfl, rfl⟩
  | saveTask => contradiction
  | _ => exact ⟨rfl, rfl⟩

theorem apply_publications_silent (silent : effect.silent = true) :
    (state.apply pid effect).publications = state.publications := by
  cases effect <;> first | rfl | contradiction

theorem apply_locks (free : effect.locks = false) :
    (state.apply pid effect).locks = state.locks := by
  cases effect with
  | cleanup taskId =>
      simp only [apply]
      cases state.taskIdToBus taskId <;> rfl
  | acquire | release => contradiction
  | _ => rfl

theorem apply_taskIdToBus (unrelated : effect.registers = false) :
    (state.apply pid effect).taskIdToBus = state.taskIdToBus := by
  cases effect <;> first | rfl | contradiction

theorem foldl_calls_silent (silent : ∀ effect ∈ effects, effect.silent = true) :
    (effects.foldl (apply pid) state).calls = state.calls := by
  induction effects generalizing state with
  | nil => rfl
  | cons effect rest ih =>
      simp only [List.forall_mem_cons] at silent
      rw [List.foldl_cons, ih silent.2, apply_calls_silent silent.1]

theorem foldl_taskStore (quiet : ∀ effect ∈ effects, effect.saves = false) :
    (effects.foldl (apply pid) state).taskStore = state.taskStore ∧
      (effects.foldl (apply pid) state).writes = state.writes := by
  induction effects generalizing state with
  | nil => exact ⟨rfl, rfl⟩
  | cons effect rest ih =>
      simp only [List.forall_mem_cons] at quiet
      have head := @apply_taskStore state pid effect quiet.1
      obtain ⟨store, writes⟩ := @ih (state.apply pid effect) quiet.2
      exact ⟨store.trans head.1, writes.trans head.2⟩

theorem foldl_publications_silent (silent : ∀ effect ∈ effects, effect.silent = true) :
    (effects.foldl (apply pid) state).publications = state.publications := by
  induction effects generalizing state with
  | nil => rfl
  | cons effect rest ih =>
      simp only [List.forall_mem_cons] at silent
      rw [List.foldl_cons, ih silent.2, apply_publications_silent silent.1]

theorem foldl_locks (free : ∀ effect ∈ effects, effect.locks = false) :
    (effects.foldl (apply pid) state).locks = state.locks := by
  induction effects generalizing state with
  | nil => rfl
  | cons effect rest ih =>
      simp only [List.forall_mem_cons] at free
      rw [List.foldl_cons, ih free.2, apply_locks free.1]

theorem foldl_taskIdToBus (unrelated : ∀ effect ∈ effects, effect.registers = false) :
    (effects.foldl (apply pid) state).taskIdToBus = state.taskIdToBus := by
  induction effects generalizing state with
  | nil => rfl
  | cons effect rest ih =>
      simp only [List.forall_mem_cons] at unrelated
      rw [List.foldl_cons, ih unrelated.2, apply_taskIdToBus unrelated.1]

/-- A step without listeners changes its own call's record and no other. -/
theorem commit_calls_silent (silent : ∀ effect ∈ effects, effect.silent = true) (other : Pid) :
    (state.commit pid (call, effects)).calls other =
      if other = pid then some call else state.calls other := by
  rw [commit, foldl_calls_silent silent]
  by_cases same : other = pid
  · subst same
    simp
  · simp [same, setCall_of_ne]

end State

end A2A.Server
