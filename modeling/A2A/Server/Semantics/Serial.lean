import A2A.Server.Semantics.Locks

namespace A2A.Server

open Library

/-! Each row is a register that calls write through copies.

The request handler's own load-append-save sequences do not take the lock of
`serializeByScope`; under `SavesExclusively` they behave as if they did, and
the row is the log of its writes replayed.
-/

/-- The write would save a task in the row `taskId`. -/
def Write.Enabled (taskId : String) (row : Option Task) : Write → Prop
  | .append _ | .cancel _ => row.isSome = true
  | .event latestUserMessage merged =>
      merged.target = some taskId ∧
        (ResultManager.mergeInto latestUserMessage (merged.loads row) merged).isSome = true

/-- The writes of one row, oldest first. -/
def rowWrites (writes : List SavedWrite) (scope : Scope) (taskId : String) : List Write :=
  (writes.filter (fun saved => saved.scope = scope ∧ saved.taskId = taskId)).map SavedWrite.write

theorem rowWrites_append (writes : List SavedWrite) (saved : SavedWrite) (scope : Scope)
    (taskId : String) :
    rowWrites (writes ++ [saved]) scope taskId =
      if saved.scope = scope ∧ saved.taskId = taskId then rowWrites writes scope taskId ++ [saved.write]
      else rowWrites writes scope taskId := by
  simp only [rowWrites, List.filter_append, List.map_append, List.filter_cons, List.filter_nil]
  split <;> simp_all

namespace State

/-- Two calls whose sections are chained under one key. -/
def Serialised (state : State) (first second : Pid) : Prop :=
  ∃ key one two, state.calls first = some one ∧ state.calls second = some two ∧
    one.pc.key = some key ∧ two.pc.key = some key

def register (handler : Handler) (state : State) (scope : Scope) (taskId : String) :
    Register (Option Task) Write Pid where
  content := state.row scope taskId
  hands := fun pid => (state.pending handler pid).bind fun held =>
    if held.scope = scope ∧ held.task.id = taskId then some (some held.task, held.write) else none
  log := rowWrites state.writes scope taskId

end State

/-- A call saves a row only while no other call holds a copy of it, unless the two are
serialised by the lock. -/
def SavesExclusively (handler : Handler) (state : State) (label : Label) : Prop :=
  label.action = .resume .ok → ∀ held, state.pending handler label.pid = some held →
    ∀ other lagging, other ≠ label.pid → state.pending handler other = some lagging →
      lagging.scope = held.scope → lagging.task.id = held.task.id →
      state.Serialised label.pid other

/-- The same for one row. -/
def SavesRowExclusively (handler : Handler) (scope : Scope) (taskId : String) (state : State)
    (label : Label) : Prop :=
  label.action = .resume .ok → ∀ held, state.pending handler label.pid = some held →
    held.scope = scope → held.task.id = taskId →
    ∀ other lagging, other ≠ label.pid → state.pending handler other = some lagging →
      lagging.scope = scope → lagging.task.id = taskId → state.Serialised label.pid other

theorem SavesExclusively.row {handler : Handler} {state : State} {label : Label}
    (exclusive : SavesExclusively handler state label) (scope : Scope) (taskId : String) :
    SavesRowExclusively handler scope taskId state label := by
  intro resumed held holds sameScope sameTask other lagging differ lags alsoScope alsoTask
  exact exclusive resumed held holds other lagging differ lags (alsoScope.trans sameScope.symm)
    (alsoTask.trans sameTask.symm)

namespace State

variable {handler : Handler} {state next : State} {label : Label} {pid other : Pid}
  {scope : Scope} {taskId : String}

/-- No two calls between load and save are serialised by one lock. -/
theorem LocksHeld.unserialised (held : state.LocksHeld) {first second : Pending}
    (differ : other ≠ pid) (one : state.pending handler pid = some first)
    (two : state.pending handler other = some second) : ¬ state.Serialised pid other := by
  rintro ⟨key, call, record, found, present, keyed, sameKey⟩
  have saving : ∀ {call : Call} {copy : Pending}, call.pending handler = some copy →
      call.pc.key = some key → ∃ ref event, call.pc = .save ref (some key) event := by
    intro call copy holds keyed
    cases counter : call.pc with
    | save ref name event =>
        rw [counter] at keyed
        cases keyed
        exact ⟨ref, event, rfl⟩
    | lock => simp [Call.pending, counter] at holds
    | _ => simp [counter, Pc.key] at keyed
  rw [pending, found] at one
  rw [pending, present] at two
  obtain ⟨ref, event, saves⟩ := saving one keyed
  obtain ⟨otherRef, otherEvent, alsoSaves⟩ := saving two sameKey
  exact differ (held.exclusive found present saves alsoSaves).symm

theorem register_hands {held : Pending} (holds : state.pending handler pid = some held) :
    (state.register handler scope taskId).hands pid =
      if held.scope = scope ∧ held.task.id = taskId then some (some held.task, held.write)
      else none := by
  simp [register, holds]

theorem register_free (free : state.pending handler pid = none) :
    (state.register handler scope taskId).hands pid = none := by
  simp [register, free]

/-- Another row's hands, or the same ones. -/
theorem register_idle (content : next.row scope taskId = state.row scope taskId)
    (log : rowWrites next.writes scope taskId = rowWrites state.writes scope taskId)
    (hands : (next.register handler scope taskId).hands = (state.register handler scope taskId).hands) :
    next.register handler scope taskId = state.register handler scope taskId := by
  simp only [register, content, log, Register.mk.injEq, true_and, and_true] at hands ⊢
  exact hands

theorem register_hands_step (stepped : state.step handler label = some next) :
    (next.register handler scope taskId).hands =
      Function.update (state.register handler scope taskId).hands label.pid
        ((next.register handler scope taskId).hands label.pid) := by
  funext other
  by_cases same : other = label.pid
  · subst same
    rw [Function.update_self]
  · rw [Function.update_of_ne same]
    simp only [register, pending_step_of_ne stepped same]

/-- A call that holds nothing for the row has dropped what it held. -/
theorem register_freed (stepped : state.step handler label = some next)
    (free : (next.register handler scope taskId).hands label.pid = none)
    (store : next.taskStore = state.taskStore) (writes : next.writes = state.writes) :
    Register.Step (Write.Enabled taskId) Write.apply (state.register handler scope taskId)
      (next.register handler scope taskId) := by
  have hands := @register_hands_step handler state next label scope taskId stepped
  have same : next.register handler scope taskId =
      { state.register handler scope taskId with
        hands := Function.update (state.register handler scope taskId).hands label.pid none } := by
    rw [free] at hands
    simp only [register, row_kept store, writes, Register.mk.injEq, true_and, and_true]
    exact hands
  rw [same]
  exact .drop

/-- A call that holds a task has taken it from the task's own row. -/
theorem register_taken (stepped : state.step handler label = some next) {held : Pending}
    (holds : next.pending handler label.pid = some held)
    (store : next.taskStore = state.taskStore) (writes : next.writes = state.writes)
    (enabled : held.write.Enabled held.task.id (state.row held.scope held.task.id))
    (applied : held.write.apply (state.row held.scope held.task.id) = some held.task) :
    Register.Step (Write.Enabled taskId) Write.apply (state.register handler scope taskId)
      (next.register handler scope taskId) := by
  have own := @register_hands handler next label.pid scope taskId held holds
  by_cases here : held.scope = scope ∧ held.task.id = taskId
  · obtain ⟨rfl, rfl⟩ := here
    rw [if_pos ⟨rfl, rfl⟩] at own
    have hands := @register_hands_step handler state next label held.scope held.task.id stepped
    have same : next.register handler held.scope held.task.id =
        { state.register handler held.scope held.task.id with
          hands := Function.update (state.register handler held.scope held.task.id).hands label.pid
            (some (held.write.apply (state.register handler held.scope held.task.id).content,
              held.write)) } := by
      rw [own] at hands
      change _ = Register.mk _ (Function.update _ _ (some (held.write.apply (state.row _ _), _))) _
      rw [applied, ← hands]
      simp only [register, row_kept store, writes]
    rw [same]
    exact .take enabled
  · rw [if_neg here] at own
    exact register_freed stepped own store writes

/-- The system refines the register of each row. -/
theorem register_step (wellFormed : state.WellFormed) (locked : state.LocksHeld)
    (exclusive : SavesRowExclusively handler scope taskId state label)
    (stepped : state.step handler label = some next) :
    Register.Step (Write.Enabled taskId) Write.apply (state.register handler scope taskId)
      (next.register handler scope taskId) := by
  have hands := @register_hands_step handler state next label scope taskId stepped
  cases rowStep wellFormed stepped with
  | @saved held resumed holds free store writes =>
      have nothing := @register_free handler next label.pid scope taskId free
      by_cases here : held.scope = scope ∧ held.task.id = taskId
      · obtain ⟨rfl, rfl⟩ := here
        have own := @register_hands handler state label.pid held.scope held.task.id held holds
        rw [if_pos ⟨rfl, rfl⟩] at own
        have alone : ∀ other, other ≠ label.pid →
            (state.register handler held.scope held.task.id).hands other = none := by
          intro other differ
          cases lags : state.pending handler other with
          | none => exact register_free lags
          | some lagging =>
              rw [register_hands lags]
              split
              · rename_i same
                exact absurd (exclusive resumed held holds rfl rfl other lagging differ lags same.1 same.2)
                  (locked.unserialised differ holds lags)
              · rfl
        have same : next.register handler held.scope held.task.id =
            { content := some held.task
              hands := Function.update (state.register handler held.scope held.task.id).hands
                label.pid none
              log := (state.register handler held.scope held.task.id).log ++ [held.write] } := by
          rw [nothing] at hands
          simp only [register, row_saved store, writes, rowWrites_append, and_self, if_true,
            Register.mk.injEq, true_and, and_true]
          exact hands
        rw [same]
        exact .put own alone
      · have same : next.register handler scope taskId =
            { state.register handler scope taskId with
              hands := Function.update (state.register handler scope taskId).hands label.pid none } := by
          rw [nothing] at hands
          simp only [register, row_saved store, writes, rowWrites_append, if_neg here,
            Register.mk.injEq, true_and, and_true]
          exact hands
        rw [same]
        exact .drop
  | @accepted scope stored task write _ present active plain applied same holds store writes =>
      refine register_taken stepped holds store writes ?_ ?_
      · cases write with
        | event latestUserMessage event => exact absurd rfl (plain latestUserMessage event)
        | _ => simp [Write.Enabled, same, present]
      · rw [same, present, applied]
  | @merged call ref key event task _ _ _ _ _ merges target holds store writes =>
      refine register_taken stepped holds store writes ⟨target, by rw [merges]; rfl⟩ ?_
      rw [Write.apply, merges]
      rfl
  | quiet calm store writes =>
      rcases calm with none | kept
      · exact register_freed stepped (register_free none) store writes
      · have same : next.register handler scope taskId = state.register handler scope taskId := by
          refine register_idle (row_kept store) (by rw [writes]) ?_
          rw [hands]
          have own : (next.register handler scope taskId).hands label.pid =
              (state.register handler scope taskId).hands label.pid := by
            simp only [register, kept]
          rw [own, Function.update_eq_self]
        rw [same]
        exact .idle

theorem register_initial (taskStore : InMemoryTaskStore)
    (pushNotificationStore : InMemoryPushNotificationStore) (taskIdToBus : String → Option BusId)
    (scope : Scope) (taskId : String) :
    Register.Serial (Write.Enabled taskId) Write.apply (taskStore.load scope taskId)
      ((initial taskStore pushNotificationStore taskIdToBus).register handler scope taskId) := by
  refine ⟨rfl, ?_, ?_⟩
  · intro before write after split
    simp [register, rowWrites, initial] at split
  · intro process value write held
    simp [register, pending, initial] at held

/-- Each row of a run that saves exclusively is the log of its writes replayed. -/
theorem register_serial {taskStore : InMemoryTaskStore}
    {pushNotificationStore : InMemoryPushNotificationStore} {taskIdToBus : String → Option BusId}
    {labels : List Label} (scope : Scope) (taskId : String)
    (runs : (handlerSystem handler).Runs (SavesExclusively handler)
      (.initial taskStore pushNotificationStore taskIdToBus) labels state) :
    Register.Serial (Write.Enabled taskId) Write.apply (taskStore.load scope taskId)
      (state.register handler scope taskId) := by
  have holds := runs.invariant (fun current => (current.WellFormed ∧ current.LocksHeld) ∧
      Register.Serial (Write.Enabled taskId) Write.apply (taskStore.load scope taskId)
        (current.register handler scope taskId))
    ⟨⟨wellFormed_initial _ _ _, locksHeld_initial _ _ _⟩, ?_⟩ ?_
  · exact holds.2
  · exact register_initial taskStore pushNotificationStore taskIdToBus scope taskId
  · rintro current label next ⟨⟨wellFormed, locked⟩, serial⟩ exclusive stepped
    exact ⟨⟨wellFormed_step wellFormed stepped, locksHeld_step wellFormed locked stepped⟩,
      serial.step (register_step wellFormed locked (exclusive.row scope taskId) stepped)⟩

end State

end A2A.Server
