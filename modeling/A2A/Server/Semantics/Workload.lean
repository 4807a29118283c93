import Mathlib.Algebra.Group.Action.Defs
import Mathlib.Algebra.Order.BigOperators.Group.Finset
import A2A.Server.Semantics.Consumers
import A2A.Server.Semantics.LockQueues

namespace A2A.Server

/-! The steps that the handler still takes when nothing comes from outside.

A call counts down from one `await` to the next; an event in its queue takes it through the loop once
more, and the report of a failed executor puts at most two events into every queue.
-/

/-- The steps up to the next pull from an empty queue, the next yield or the end. -/
def Pc.workload : Pc → Nat
  | .finished | .suspended _ => 0
  | .cancelReload | .resubscribeLoad | .getTaskLoad | .listTasks | .configApply | .save (.own _) _ _ => 1
  | .pull | .cancelSave _ | .configLoadTask | .lock (.own _) _ => 2
  | .map _ | .cancelExecute | .savePushConfig _ _ => 3
  | .save (.published _) _ _ | .cancelLoad | .getAgentCard _ _ _ _ => 4
  | .lock (.published _) _ => 5
  | .loadReferences _ _ _ pending _ => 4 + pending.length
  | .saveHistory message _ => 5 + message.referenceTaskIds.length
  | .loadTask message => 6 + message.referenceTaskIds.length

/-- The promise jobs of an execution, and the loops that their events cost so many calls. -/
def Phase.workload (calls : Nat) : Phase → Nat
  | .rejected _ => 2 + 8 * calls
  | .settling _ => 1
  | .running | .settled _ => 0

def Request.configures : Request → Bool
  | .createTaskPushNotificationConfig _ | .getTaskPushNotificationConfig _ _
  | .listTaskPushNotificationConfigs _ | .deleteTaskPushNotificationConfig _ _ => true
  | _ => false

namespace Pc

/-- The program counters that say something about the call beside themselves. -/
def furnished : Pc → Bool
  | .loadReferences _ _ _ _ _ | .configLoadTask | .configApply => true
  | _ => false

theorem workload_of_preparing {counter : Pc} (prepares : counter.preparing = true) : 0 < counter.workload := by
  cases counter <;> simp_all [preparing, workload]

theorem workload_of_locked {counter : Pc}
    (locked : (∃ ref key, counter = .lock ref key) ∨ ∃ ref key event, counter = .save ref key event) :
    0 < counter.workload := by
  rcases locked with ⟨ref, key, rfl⟩ | ⟨ref, key, event, rfl⟩ <;> cases ref <;> simp [workload]

end Pc

namespace Call

def backlog (call : Call) : Nat := ((call.eventQueue.map Queue.eventQueue).getD []).length

def settlement (calls : Nat) (call : Call) : Nat :=
  (call.execution.map fun execution => execution.phase.workload calls).getD 0

def workload (calls : Nat) (call : Call) : Nat := call.pc.workload + 4 * call.backlog + call.settlement calls

/-- The references still to be loaded are some, and the configuration methods are entered by their
own requests. -/
structure Furnished (call : Call) : Prop where
  references : ∀ message task taskId pending loaded,
    call.pc = .loadReferences message task taskId pending loaded → pending ≠ []
  configures : call.pc = .configLoadTask ∨ call.pc = .configApply → call.request.configures = true

variable {handler : Handler} {view : View} {pid : Pid} {fate : Fate} {call after : Call}
  {effects : List Effect} {calls : Nat}

theorem Furnished.of_pc (elsewhere : call.pc.furnished = false) : call.Furnished where
  references message task taskId pending loaded counter := by
    rw [counter] at elsewhere
    cases elsewhere
  configures counter := by
    rcases counter with counter | counter <;> rw [counter] at elsewhere <;> cases elsewhere

theorem Furnished.overheard (furnished : call.Furnished) (overheard : call.Overheard after) : after.Furnished where
  references message task taskId pending loaded counter :=
    furnished.references message task taskId pending loaded (overheard.pc ▸ counter)
  configures counter := by
    rw [overheard.request]
    exact furnished.configures (overheard.pc ▸ counter)

theorem resolveReferences_furnished (message : Message) (task : Option Task) (taskId : String) :
    (call.resolveReferences message task taskId).Furnished := by
  simp only [resolveReferences]
  split
  · exact .of_pc rfl
  · rename_i referring
    refine ⟨fun _ _ _ _ _ counter => ?_, fun counter => ?_⟩
    · cases counter
      exact fun empty => referring (by rw [empty]; rfl)
    · rcases counter with counter | counter <;> cases counter

theorem begin_furnished (request : Request) (context : ServerCallContext)
    (requestedExtensions : Option (List String)) (fresh : Fresh) :
    (handler.begin view request context requestedExtensions fresh).Furnished := by
  cases request with
  | sendMessage params | sendMessageStream params =>
      simp only [Handler.begin]
      split
      · split
        · exact .of_pc rfl
        · split
          · exact resolveReferences_furnished _ _ _
          · exact .of_pc rfl
      · exact .of_pc rfl
  | cancelTask | getTask => exact .of_pc rfl
  | resubscribe taskId =>
      simp only [Handler.begin]
      split
      · split <;> exact .of_pc rfl
      · exact .of_pc rfl
  | listTasks params =>
      simp only [Handler.begin]
      split
      · exact .of_pc rfl
      · split <;> exact .of_pc rfl
  | _ =>
      simp only [Handler.begin]
      split
      · exact ⟨fun _ _ _ _ _ counter => (by cases counter), fun _ => rfl⟩
      · exact .of_pc rfl

theorem Resumed.furnished (wellFormed : call.WellFormed) (furnished : call.Furnished)
    (resumed : Resumed handler view pid call fate after effects) : after.Furnished := by
  cases resumed with
  | historySaved => exact resolveReferences_furnished _ _ _
  | @referenceLoaded message task taskId reference pending loaded found counter =>
      cases pending with
      | nil => exact .of_pc rfl
      | cons next rest =>
          refine ⟨fun _ _ _ _ _ counter => ?_, fun counter => ?_⟩
          · cases counter
            exact List.cons_ne_nil _ _
          · rcases counter with counter | counter <;> cases counter
  | contextBuilt counter created =>
      cases wellFormed.contextBuilt counter created <;> exact .of_pc rfl
  | loopEnded => exact .of_pc (by rw [leaveLoop_pc]; exact leftPc_of (·.furnished = false) rfl rfl call)
  | forwarded => exact .of_pc (forward_pc (·.furnished = false) rfl rfl rfl _ rfl _ _ _)
  | taken _ _ _ _ _ _ took =>
      rcases takeEvent_cases took with ⟨_, rfl, _⟩ | ⟨_, _, rfl, _⟩ <;> exact .of_pc rfl
  | lockFailed _ _ _ _ failed | saveFailed _ _ failed =>
      exact .of_pc (processingFailed_pc (·.furnished = false) rfl (fun _ _ => rfl) failed)
  | @skipped ref | @saved ref => cases ref <;> exact .of_pc rfl
  | mapped | consumed => exact .of_pc (afterYield_pc (·.furnished = false) rfl rfl rfl _ _)
  | configTaskFound counter =>
      exact ⟨fun _ _ _ _ _ counter => (by cases counter), fun _ => furnished.configures (.inl counter)⟩
  | misdirected => exact furnished
  | _ => exact .of_pc rfl

theorem Frame.workload (frame : Frame call after) (nearer : after.pc.workload < call.pc.workload) :
    after.workload calls < call.workload calls := by
  simp only [Call.workload, backlog, settlement, frame.queued, frame.execution]
  omega

theorem shifted_backlog {queue : Queue} {id : EventId} {rest : List EventId}
    (attached : call.eventQueue = some queue) (waiting : queue.eventQueue = id :: rest) :
    (call.shifted queue rest).backlog + 1 = call.backlog := by
  simp [backlog, shifted, attached, waiting]

theorem workload_attached {bus : BusId} (queued : after.eventQueue = some (.new bus))
    (nearer : after.pc.workload + after.settlement calls < call.pc.workload) :
    after.workload calls < call.workload calls := by
  have empty : after.backlog = 0 := by
    rw [backlog, queued]
    rfl
  simp only [Call.workload, empty]
  omega

theorem workload_shifted {queue : Queue} {id : EventId} {rest : List EventId} {pattern : StreamPattern}
    (pulling : call.pc = .pull) (attached : call.eventQueue = some queue)
    (waiting : queue.eventQueue = id :: rest)
    (frame : Frame { call.shifted queue rest with streamPattern := pattern } after)
    (within : after.pc.workload ≤ 5) : after.workload calls < call.workload calls := by
  have taken : (call.shifted queue rest).backlog + 1 = call.backlog := shifted_backlog attached waiting
  have same : after.backlog = (call.shifted queue rest).backlog := by
    simp only [backlog, frame.queued]
  have settles : after.settlement calls = call.settlement calls := by
    simp only [settlement, frame.execution, shifted]
  have now : call.pc.workload = 2 := by rw [pulling, Pc.workload]
  simp only [Call.workload]
  omega

/-- Every resumed step of a call that has something to do brings it nearer to its rest. -/
theorem Resumed.workload (wellFormed : call.WellFormed) (active : call.idle = false)
    (directed : call.pc ≠ .configApply) (resumed : Resumed handler view pid call fate after effects) :
    after.workload calls < call.workload calls := by
  have yields : ∀ {last}, call.pc = .suspended last → False := by
    intro last counter
    rw [idle, counter] at active
    cases active
  have leaves : ∀ {counter : Pc}, call.pc = counter → ∀ other : Call,
      other.leftPc.workload < 2 := fun _ other => leftPc_of (·.workload < 2) (by decide) (by decide) other
  cases resumed with
  | answered prepares =>
      exact (finish_frame _).workload (Pc.workload_of_preparing prepares)
  | taskAccepted counter | cancelDirect counter | cancelExecuted counter | cancelSaved counter
  | resubscribed counter | configTaskFound counter =>
      refine Frame.advanced.workload ?_
      simp only [counter, Pc.workload]
      omega
  | historySaved counter =>
      refine Frame.advanced.workload ?_
      simp only [counter]
      split <;> simp only [Pc.workload] <;> omega
  | referenceLoaded counter =>
      refine Frame.advanced.workload ?_
      simp only [counter]
      split <;> simp only [Pc.workload, List.length_cons] <;> omega
  | contextBuilt counter created =>
      cases wellFormed.contextBuilt counter created with
      | configures => exact Frame.advanced.workload (by rw [counter]; exact (by decide : 3 < 4))
      | configuresStream =>
          have idle := wellFormed.idle (by rw [counter]; rfl)
          refine workload_attached rfl ?_
          simp [settlement, attachQueue, idle, counter, Pc.workload]
      | runs => exact workload_attached rfl (by rw [counter]; exact (by decide : 2 + 0 < 4))
  | @configSaved requestContext config queue counter attached =>
      have idle := wellFormed.idle (by rw [counter]; rfl)
      simp [Call.workload, backlog, settlement, runExecutor, counter, idle, Pc.workload, Phase.workload]
  | configSavedFirst counter => exact workload_attached rfl (by rw [counter]; exact (by decide : 2 + 0 < 3))
  | loopEnded counter =>
      refine leaveLoop_frame.workload ?_
      rw [leaveLoop_pc, counter]
      exact leaves counter call
  | @forwarded queue id rest event taskId counter attached waiting =>
      refine @workload_shifted call _ calls queue id rest call.streamPattern counter attached waiting
        (forward_frame _ _ _ _) ?_
      exact forward_pc (·.workload ≤ 5) (by decide) (by decide) (by decide) _ (by decide : 0 ≤ 5) _ _ _
  | @violated queue id rest event text counter attached waiting =>
      exact @workload_shifted call _ calls queue id rest call.streamPattern counter attached waiting
        (stopQueue_frame.trans (finish_frame _)) (by decide : 0 ≤ 5)
  | @taken queue id rest event pattern after effects counter attached waiting _ _ _ took =>
      have frame := takeEvent_frame { call.shifted queue rest with streamPattern := pattern } id event
      rw [took] at frame
      refine workload_shifted counter attached waiting frame ?_
      rcases takeEvent_cases took with ⟨_, rfl, _⟩ | ⟨_, _, rfl, _⟩ <;> simp [processed, Pc.workload]
  | lockFailed counter _ _ _ failed =>
      refine (processingFailed_frame failed).workload ?_
      rcases processingFailed_cases failed with ⟨left, _⟩ | ⟨_, _, rfl, _, _, _, rfl, _⟩
      · rw [left, counter]
        exact Pc.workload_of_locked (.inl ⟨_, _, rfl⟩)
      · rw [counter]
        exact (by decide : 2 < 5)
  | saveFailed counter _ failed =>
      refine (processingFailed_frame failed).workload ?_
      rcases processingFailed_cases failed with ⟨left, _⟩ | ⟨_, _, rfl, _, _, _, rfl, _⟩
      · rw [left, counter]
        exact Pc.workload_of_locked (.inr ⟨_, _, _, rfl⟩)
      · rw [counter]
        exact (by decide : 2 < 4)
  | @merged ref key event manager counter =>
      refine Frame.advanced.workload ?_
      rw [counter]
      cases ref with
      | published => exact (by decide : 4 < 5)
      | own => exact (by decide : 1 < 2)
  | @skipped ref key event manager counter =>
      have managed : Frame call { call with resultManager := manager } := .advanced
      refine (managed.trans (processed_frame _ ref event)).workload ?_
      rw [counter]
      cases ref with
      | published => exact (by decide : 3 < 5)
      | own => exact (by decide : 0 < 2)
  | @saved ref key event task counter =>
      refine (processed_frame call ref event).workload ?_
      rw [counter]
      cases ref with
      | published => exact (by decide : 3 < 4)
      | own => exact (by decide : 0 < 1)
  | yielded counter =>
      exact ((notify_frame handler call _).trans .advanced).workload
        (by rw [counter]; exact (by decide : 0 < 3))
  | mapped counter _ _ _ _ handedOut =>
      refine (((notify_frame handler call _).trans (handOutResults_frame handedOut)).trans
        (afterYield_frame _)).workload ?_
      rw [counter]
      exact afterYield_pc (·.workload < 3) (by decide) (by decide) (by decide) _ _
  | closed counter | continued counter | consumed counter => exact (yields counter).elim
  | cancelAttached counter => 
      have idle : call.execution = none := by
        by_contra running
        obtain ⟨execution, executing⟩ := Option.ne_none_iff_exists'.mp running
        have attached := (wellFormed.executes execution executing).2.1
        rw [bus, wellFormed.unattached (by rw [counter]; rfl)] at attached
        cases attached
      refine workload_attached rfl ?_
      simp [settlement, attachQueue, idle, counter, Pc.workload]
  | resubscribeRefused counter =>
      exact (stopQueue_frame.trans (finish_frame _)).workload
        (by rw [counter]; exact (by decide : 0 < 1))
  | misdirected counter => exact absurd counter directed

theorem configApply_finished (configures : call.request.configures = true) :
    (call.configApply handler view).1.pc = .finished ∧ Frame call (call.configApply handler view).1 := by
  have rejects : ∀ reason, (call.reject reason).pc = .finished ∧ Frame call (call.reject reason) :=
    fun _ => ⟨rfl, finish_frame _⟩
  simp only [Call.configApply]
  split
  · exact ⟨rfl, finish_frame _⟩
  · split
    · exact rejects _
    · split
      · exact ⟨rfl, finish_frame _⟩
      · exact rejects _
  · exact ⟨rfl, finish_frame _⟩
  · exact ⟨rfl, finish_frame _⟩
  · rename_i others
    cases request : call.request <;> simp_all [Request.configures]

theorem resume_workload (wellFormed : call.WellFormed) (furnished : call.Furnished) (active : call.idle = false)
    (resumed : call.resume handler view pid fate = some (after, effects)) :
    after.workload calls < call.workload calls := by
  by_cases applying : call.pc = .configApply
  · have ends : ∀ {last : Call}, last.pc = .finished → Frame call last → last.workload calls < call.workload calls := by
      intro last left frame
      refine frame.workload ?_
      rw [left, applying]
      exact (by decide : 0 < 1)
    cases fate with
    | ok =>
        obtain ⟨left, frame⟩ := @configApply_finished handler view call (furnished.configures (.inr applying))
        have same : call.configApply handler view = (after, effects) := by
          simpa [resume, resumeOk, applying] using resumed
        rw [same] at left frame
        exact ends left frame
    | fail error =>
        have same : call.reject (.external error) = after := by
          simp only [resume, resumeFailed, applying, Option.some.injEq, Prod.mk.injEq] at resumed
          exact resumed.1
        exact ends (by rw [← same]; rfl) (same ▸ finish_frame _)
  · exact (resume_cases resumed).workload wellFormed active applying

/-- A call that has something to do, and holds the lock it needs, goes on. -/
theorem resume_isSome (wellFormed : call.WellFormed) (knows : call.Knows view.event) (furnished : call.Furnished)
    (active : call.idle = false) (holds : ∀ key, call.pc.key = some key → view.holdsLock key = true) :
    ∃ result, call.resume handler view pid .ok = some result := by
  have known : ∀ id, call.pc.event = some id → ∃ event, view.event id = some event := fun id working =>
    Option.isSome_iff_exists.mp (knows.current id working)
  simp only [resume, resumeOk]
  cases counter : call.pc with
  | finished | suspended =>
      rw [idle, counter] at active
      cases active
  | loadReferences message task taskId pending loaded =>
      cases pending with
      | nil => exact absurd rfl (furnished.references _ _ _ _ _ counter)
      | cons reference rest => exact ⟨_, rfl⟩
  | savePushConfig requestContext config =>
      dsimp only
      split <;> exact ⟨_, rfl⟩
  | pull =>
      obtain ⟨queue, attached⟩ := Option.isSome_iff_exists.mp (wellFormed.listening (by rw [counter]; rfl))
      simp only [pull, attached]
      cases waiting : queue.eventQueue with
      | nil =>
          simp only [idle, counter, attached, waiting, List.isEmpty_nil, Bool.true_and, Bool.not_eq_false'] at active
          simp [active]
      | cons id rest =>
          obtain ⟨event, found⟩ := Option.isSome_iff_exists.mp (knows.queued queue attached id (by simp [waiting]))
          simp only [found]
          split
          · exact ⟨_, rfl⟩
          · split
            · exact ⟨_, rfl⟩
            · exact ⟨_, rfl⟩
          · exact ⟨_, rfl⟩
  | lock ref key =>
      have held : key.all view.holdsLock = true := by
        cases key with
        | none => rfl
        | some key => exact holds key (by rw [counter]; rfl)
      have resolved : ∃ event, ref.resolve view = some event := by
        cases ref with
        | own event => exact ⟨event, rfl⟩
        | published id => exact known id (by rw [counter]; rfl)
      obtain ⟨event, found⟩ := resolved
      simp only [enterLock, held, if_true, found]
      generalize call.resultManager.merge _ event = merged
      obtain ⟨manager, saves⟩ := merged
      cases saves <;> exact ⟨_, rfl⟩
  | save ref key event =>
      obtain ⟨task, current, _⟩ := wellFormed.merging ref key event counter
      simp only [saveCurrentTask, current]
      exact ⟨_, rfl⟩
  | map id =>
      obtain ⟨event, found⟩ := known id (by rw [counter]; rfl)
      simp only [mapEvent, found]
      split <;> exact ⟨_, rfl⟩
  | configLoadTask =>
      dsimp only
      split <;> exact ⟨_, rfl⟩
  | _ => exact ⟨_, rfl⟩

end Call

def Effect.publishes : Effect → Bool
  | .publish _ _ _ => true
  | _ => false

namespace Call

variable {call : Call} {calls : Nat}

theorem receive_backlog (bus : BusId) (id : EventId) (event : AgentExecutionEvent) :
    (call.receive bus id event).backlog ≤ call.backlog + 1 := by
  cases attached : call.eventQueue with
  | none => simp [backlog, receive, attached]
  | some queue =>
      simp only [backlog, receive, attached, Option.map_some, Option.getD_some, Queue.handleEvent]
      split <;> simp

theorem listen_backlog (taskIdToBus : String → Option BusId) (effect : Effect) :
    (effect.listen taskIdToBus call).backlog ≤ call.backlog + if effect.publishes then 1 else 0 := by
  cases effect with
  | publish bus id event => exact receive_backlog bus id event
  | finished bus =>
      refine Nat.le_of_eq ?_
      cases attached : call.eventQueue with
      | none => simp [backlog, Effect.listen, receiveFinished, attached, Effect.publishes]
      | some queue =>
          simp only [backlog, Effect.listen, receiveFinished, attached, Option.map_some, Queue.handleFinished]
          split <;> rfl
  | cleanup taskId =>
      refine Nat.le_of_eq ?_
      cases registered : taskIdToBus taskId with
      | none => simp [Effect.listen, registered, Effect.publishes]
      | some bus =>
          cases attached : call.eventQueue with
          | none => simp [backlog, Effect.listen, registered, removeListeners, attached, Effect.publishes]
          | some queue =>
              simp only [backlog, Effect.listen, registered, removeListeners, attached, Option.map_some,
                Queue.removeListeners]
              split <;> rfl
  | _ => exact Nat.le_refl _

theorem listen_workload (taskIdToBus : String → Option BusId) (effect : Effect) :
    (effect.listen taskIdToBus call).workload calls ≤
      call.workload calls + if effect.publishes then 4 else 0 := by
  have overheard : Overheard call (effect.listen taskIdToBus call) := listen_overheard taskIdToBus effect
  have backlogs := @listen_backlog call taskIdToBus effect
  have settles := congrArg (Option.map fun core => core.2.2.workload calls) overheard.execution
  rw [Option.map_map, Option.map_map] at settles
  have settled : (effect.listen taskIdToBus call).settlement calls = call.settlement calls := by
    rw [settlement, settlement]
    exact congrArg (Option.getD · 0) settles
  have counter := congrArg Pc.workload overheard.pc
  simp only [workload]
  split at backlogs <;> rename_i publishes <;> simp only [publishes, if_true, if_false, Bool.false_eq_true] <;> omega

end Call

namespace State

variable {handler : Handler} {state next : State} {label : Label} {pid other : Pid}
  {call after : Call} {effects : List Effect} {pids : Finset Pid} {calls : Nat}

def workloadAt (calls : Nat) (state : State) (pid : Pid) : Nat :=
  ((state.calls pid).map (Call.workload calls)).getD 0

def workload (pids : Finset Pid) (state : State) : Nat := ∑ pid ∈ pids, state.workloadAt pids.card pid

/-- A step that the handler takes by itself: a call goes on behind an `await`, or a promise job of an
executor that has returned is run. -/
def Works (state : State) (label : Label) : Prop :=
  match label.action with
  | .resume _ => ∃ call, state.calls label.pid = some call ∧ call.idle = false
  | .executorReaped _ => True
  | _ => False

theorem foldl_workloadAt : (effects.foldl (apply pid) state).workloadAt calls other ≤
    state.workloadAt calls other + 4 * effects.countP Effect.publishes := by
  induction effects generalizing state with
  | nil => simp
  | cons effect rest ih =>
      refine Nat.le_trans ih ?_
      have heard : (state.apply pid effect).workloadAt calls other ≤
          state.workloadAt calls other + if effect.publishes then 4 else 0 := by
        rw [workloadAt, workloadAt, apply_calls]
        cases state.calls other with
        | none => simp
        | some call => exact Call.listen_workload _ _
      rw [List.countP_cons]
      split at heard
      · rw [if_pos ‹_›]
        omega
      · rw [if_neg ‹_›]
        omega

theorem commit_workload (member : pid ∈ pids) (found : state.calls pid = some call)
    (fewer : after.workload pids.card + 4 * effects.countP Effect.publishes * pids.card < call.workload pids.card) :
    (state.commit pid (after, effects)).workload pids < state.workload pids := by
  have before : state.workloadAt pids.card pid = call.workload pids.card := by
    rw [workloadAt, found]
    rfl
  have own : (state.setCall pid after).workloadAt pids.card pid = after.workload pids.card := by
    rw [workloadAt, setCall_self]
    rfl
  have others : ∑ other ∈ pids.erase pid, (state.setCall pid after).workloadAt pids.card other =
      ∑ other ∈ pids.erase pid, state.workloadAt pids.card other :=
    Finset.sum_congr rfl fun other apart => by
      rw [workloadAt, setCall_of_ne (Finset.ne_of_mem_erase apart), workloadAt]
  have total : (state.commit pid (after, effects)).workload pids ≤
      ∑ other ∈ pids, ((state.setCall pid after).workloadAt pids.card other +
        4 * effects.countP Effect.publishes) :=
    Finset.sum_le_sum fun other _ => foldl_workloadAt
  rw [Finset.sum_add_distrib, Finset.sum_const, smul_eq_mul, Nat.mul_comm,
    ← Finset.add_sum_erase pids _ member, own, others] at total
  have start : state.workload pids = call.workload pids.card +
      ∑ other ∈ pids.erase pid, state.workloadAt pids.card other := by
    rw [workload, ← Finset.add_sum_erase pids _ member, before]
  omega

end State

end A2A.Server
