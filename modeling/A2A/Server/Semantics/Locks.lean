import A2A.Library.Register
import A2A.Server.Semantics.Rows

namespace A2A.Server

open Library

/-! `serializeByScope`: the sections chained under one key run one at a time. -/

namespace State

variable {handler : Handler} {state next : State} {label : Label} {pid other : Pid}
  {call after : Call} {effects : List Effect}

/-- A call between the load and the save of a locked section runs first in its key's chain. -/
def LocksHeld (state : State) : Prop :=
  ∀ pid call ref key event, state.calls pid = some call → call.pc = .save ref (some key) event →
    (state.locks key).head? = some pid

theorem apply_head (differ : other ≠ pid) {key : String} (effect : Effect)
    (heads : (state.locks key).head? = some other) :
    ((state.apply pid effect).locks key).head? = some other := by
  cases effect with
  | acquire name =>
      by_cases same : key = name
      · subst same
        cases chain : state.locks key with
        | nil => simp [chain] at heads
        | cons first rest => simpa [apply, chain] using heads
      · simpa [apply, Function.update_of_ne same] using heads
  | release name =>
      by_cases same : key = name
      · subst same
        cases chain : state.locks key with
        | nil => simp [chain] at heads
        | cons first rest =>
            rw [chain, List.head?_cons, Option.some.injEq] at heads
            subst heads
            simp [apply, chain, List.erase_cons_tail, differ]
      · simpa [apply, Function.update_of_ne same] using heads
  | _ => rwa [apply_locks rfl]

theorem foldl_head (differ : other ≠ pid) {key : String}
    (heads : (state.locks key).head? = some other) :
    ((effects.foldl (apply pid) state).locks key).head? = some other := by
  induction effects generalizing state with
  | nil => exact heads
  | cons effect rest ih => exact ih (apply_head differ effect heads)

theorem holds_saving {ref : EventRef} {key : Option String} {event : AgentExecutionEvent}
    (wellFormed : call.WellFormed) (saving : call.pc = .save ref key event) (handler : Handler) :
    ∃ task, call.pending handler = some ⟨handler.scope call.context, task,
      .event call.resultManager.latestUserMessage event⟩ := by
  obtain ⟨task, current, _⟩ := wellFormed.merging ref key event saving
  exact ⟨task, by simp [Call.pending, saving, current]⟩

/-- Only a merge that found its lock held reaches the save of a locked section. -/
theorem save_step {ref : EventRef} {key : Option String} {event : AgentExecutionEvent}
    (wellFormed : state.WellFormed) (stepped : Stepped handler state label after effects)
    (saving : after.pc = .save ref key event) :
    (∃ call, state.calls label.pid = some call ∧ effects = [] ∧
        key.all (state.view label.pid (handler.scope call.context)).holdsLock = true) ∨
      ∃ call, state.calls label.pid = some call ∧ call.pc = after.pc ∧
        ∀ effect ∈ effects, effect.locks = false := by
  obtain ⟨task, holds⟩ :=
    holds_saving (stepped_wellFormed wellFormed stepped) saving handler
  cases stepped with
  | begun new => cases (Call.begin_pending _ _ _ _).symm.trans holds
  | @resumed pid call fate after effects found resumed =>
      have keyed : ∀ taskId task,
          (state.view pid (handler.scope call.context)).load taskId = some task → task.id = taskId :=
        fun taskId task stored => row_id stored
      cases (Call.resume_cases resumed).storeUse (wellFormed pid call found) keyed with
      | saved _ freed => cases freed.symm.trans holds
      | accepted _ _ plain _ _ takes =>
          have same := Option.some.inj (takes.symm.trans holds)
          exact absurd (congrArg Pending.write same) (plain _ _)
      | merged waiting holdsLock _ reaches =>
          cases reaches.symm.trans saving
          exact .inl ⟨call, found, rfl, holdsLock⟩
      | quiet calm => cases calm.symm.trans holds
  | published found | finishedBus found => exact .inr ⟨_, found, rfl, by simp [Effect.locks]⟩
  | executorReturned found | executorThrew found => exact .inr ⟨_, found, rfl, by simp⟩
  | @reaped pid call execution fresh changed effects found _ _ _ _ reaped =>
      refine .inr ⟨call, found, rfl, ?_⟩
      cases Execution.reap_cases reaped with
      | failed | streamFailed =>
          intro effect member
          obtain ⟨entry, _, rfl⟩ := List.mem_map.mp member
          rfl
      | keptAlive => simp
      | closed => simp [Effect.locks]
  | @abandoned pid call _ found abandoned =>
      obtain ⟨_, _, rfl⟩ := Call.abandon_cases abandoned
      cases saving

theorem locksHeld_step (wellFormed : state.WellFormed) (held : state.LocksHeld)
    (stepped : state.step handler label = some next) : next.LocksHeld := by
  obtain ⟨after, effects, steppedTo, rfl⟩ := step_cases stepped
  intro other record ref key event found saving
  rcases commit_overheard found with ⟨rfl, overheard⟩ | ⟨differ, before, earlier, overheard⟩
  · rw [overheard.pc] at saving
    rcases save_step wellFormed steppedTo saving with ⟨call, present, rfl, holds⟩ |
      ⟨call, present, same, free⟩
    · simpa [view] using holds
    · have kept : (state.commit label.pid (after, effects)).locks = state.locks := foldl_locks free
      rw [kept]
      exact held _ call ref key event present (same.trans saving)
  · rw [overheard.pc] at saving
    exact foldl_head differ (held other before ref key event earlier saving)

theorem locksHeld_initial (taskStore : InMemoryTaskStore)
    (pushNotificationStore : InMemoryPushNotificationStore) (taskIdToBus : String → Option BusId) :
    (State.initial taskStore pushNotificationStore taskIdToBus).LocksHeld := by
  intro pid call ref key event found
  simp [initial] at found

/-- Mutual exclusion: two calls saving under one key are one call. -/
theorem LocksHeld.exclusive (held : state.LocksHeld) {first second : Call}
    {ref otherRef : EventRef} {key : String} {event otherEvent : AgentExecutionEvent}
    (one : state.calls pid = some first) (two : state.calls other = some second)
    (saving : first.pc = .save ref (some key) event)
    (alsoSaving : second.pc = .save otherRef (some key) otherEvent) : pid = other := by
  have same := (held pid first ref key event one saving).symm.trans
    (held other second otherRef key otherEvent two alsoSaving)
  exact Option.some.inj same

end State

end A2A.Server
