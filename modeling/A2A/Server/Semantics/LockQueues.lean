import A2A.Server.Semantics.Serial

namespace A2A.Server

/-! Who waits in the chains of the write locks.

A call is in the chain of the key that its program counter names, once, and in no other.
-/

/-- What a step does to the lock key of its own call. -/
inductive Effect.Locking : Option String → List Effect → Option String → Prop
  | done {key} : Locking key [] key
  | acquires {key rest last} : Locking (some key) rest last → Locking none (.acquire key :: rest) last
  | releases {key rest last} : Locking none rest last → Locking (some key) (.release key :: rest) last
  | others {held effect rest last} : effect.locks = false → Locking held rest last →
      Locking held (effect :: rest) last

namespace Effect.Locking

variable {held middle last : Option String} {effects more : List Effect}

theorem append (first : Locking held effects middle) (second : Locking middle more last) :
    Locking held (effects ++ more) last := by
  induction first with
  | done => exact second
  | acquires _ ih => exact .acquires (ih second)
  | releases _ ih => exact .releases (ih second)
  | others free _ ih => exact .others free (ih second)

theorem free (unlocked : ∀ effect ∈ effects, effect.locks = false) : Locking held effects held := by
  induction effects with
  | nil => exact .done
  | cons effect rest ih =>
      rw [List.forall_mem_cons] at unlocked
      exact .others unlocked.1 (ih unlocked.2)

theorem release (held : Option String) : Locking held (releaseEffects held) none := by
  cases held with
  | none => exact .done
  | some key => exact .releases .done

theorem acquire (last : Option String) : Locking none (last.toList.map Effect.acquire) last := by
  cases last with
  | none => exact .done
  | some key => exact .acquires .done

end Effect.Locking

namespace Call

variable {handler : Handler} {view : View} {pid : Pid} {fate : Fate} {call after : Call}
  {effects : List Effect}

theorem processed_key (ref : EventRef) (event : AgentExecutionEvent) :
    (call.processed ref event).pc.key = none := by
  cases ref <;> rfl

theorem processingFailed_locking {ref : EventRef} {error : String}
    (failed : call.processingFailed ref error = (after, effects)) :
    Effect.Locking none effects after.pc.key := by
  rcases processingFailed_cases failed with ⟨left, _, rfl, _⟩ | ⟨_, _, _, _, _, _, rfl, rfl⟩
  · rw [left]
    exact .done
  · exact .acquire _

/-- A resumed call is in the chain of its new key, and has left that of the old one. -/
theorem Resumed.locking (wellFormed : call.WellFormed)
    (resumed : Resumed handler view pid call fate after effects) :
    Effect.Locking call.pc.key effects after.pc.key := by
  have keyless : ∀ {counter : Pc}, call.pc = counter → counter.key = none → call.pc.key = none := by
    intro counter same none
    rw [same, none]
  cases resumed with
  | answered prepares configures =>
      have free : call.pc.key = none := by
        cases counter : call.pc <;> simp_all [Pc.preparing, Pc.key]
      rw [free]
      refine .free fun effect member => ?_
      have known := configures effect member
      cases effect <;> simp_all [Effect.configures, Effect.locks]
  | taskAccepted counter | cancelExecuted counter | cancelAttached counter | cancelDirect counter
  | resubscribed counter | resubscribeRefused counter | configTaskFound counter | continued counter
  | closed counter | violated counter =>
      rw [counter]
      exact .done
  | historySaved counter =>
      rw [counter]
      simp only [resolveReferences]
      split <;> exact .others rfl .done
  | referenceLoaded counter =>
      rw [counter]
      dsimp only
      split <;> exact .done
  | @contextBuilt _ _ _ _ extensions _ _ counter created =>
      rw [counter]
      cases wellFormed.contextBuilt counter created with
      | configures => exact .done
      | configuresStream _ joined | runs joined =>
          cases joined with
          | existing => exact .done
          | created => exact .others rfl .done
  | configSaved counter =>
      rw [counter]
      exact .others rfl .done
  | configSavedFirst counter _ created =>
      rw [counter]
      refine .others rfl ?_
      cases createOrGetBus_joined created with
      | existing => exact .done
      | created => exact .others rfl .done
  | loopEnded counter =>
      rw [counter, leaveLoop_pc, leftPc_of (·.key = none) rfl rfl call]
      exact .done
  | forwarded counter =>
      rw [counter, forward_pc (·.key = none) rfl rfl rfl _ rfl]
      exact .done
  | taken counter _ _ _ _ _ took =>
      rw [counter]
      rcases takeEvent_cases took with ⟨_, rfl, rfl⟩ | ⟨_, _, rfl, rfl⟩
      · exact .done
      · exact .acquire _
  | lockFailed counter _ _ _ failed =>
      rw [counter]
      exact (Effect.Locking.release _).append (processingFailed_locking failed)
  | saveFailed counter _ failed =>
      rw [counter]
      exact (Effect.Locking.release _).append (processingFailed_locking failed)
  | merged counter =>
      rw [counter]
      exact .done
  | skipped counter =>
      rw [counter, processed_key]
      exact .release _
  | saved counter =>
      rw [counter, processed_key]
      exact .others rfl (.release _)
  | yielded counter =>
      rw [counter]
      refine .free fun effect member => ?_
      split at member
      · cases member
      · rw [List.mem_singleton.mp member]
        rfl
  | mapped counter _ _ _ _ handedOut =>
      rw [counter, afterYield_pc (·.key = none) rfl rfl rfl]
      refine .free fun effect member => ?_
      rcases handOutResults_cases handedOut with ⟨_, rfl⟩ | ⟨_, _, _, _, _, _, rfl | ⟨_, rfl⟩⟩
      · cases member
      · cases member
      · rw [List.mem_singleton.mp member]
        rfl
  | consumed counter =>
      rw [counter, afterYield_pc (·.key = none) rfl rfl rfl]
      exact .done
  | cancelSaved counter =>
      rw [counter]
      exact .others rfl .done
  | misdirected => exact .done

end Call

namespace State

variable {handler : Handler} {state next : State} {label : Label} {pid other : Pid}
  {call after : Call} {effects : List Effect} {held last : Option String} {key : String}

/-- The key that a call waits under or works under. -/
def lockKeyAt (state : State) (pid : Pid) : Option String := (state.calls pid).bind fun call => call.pc.key

/-- A call is in the chain of its own key and in no other. -/
def LocksListed (state : State) : Prop :=
  ∀ pid key, (state.locks key).count pid = if state.lockKeyAt pid = some key then 1 else 0

theorem locksListed_initial (taskStore : InMemoryTaskStore)
    (pushNotificationStore : InMemoryPushNotificationStore) (taskIdToBus : String → Option BusId) :
    (State.initial taskStore pushNotificationStore taskIdToBus).LocksListed := by
  intro pid key
  rfl

theorem foldl_listed (locking : Effect.Locking held effects last)
    (listed : ∀ key, (state.locks key).count pid = if held = some key then 1 else 0) (key : String) :
    ((effects.foldl (apply pid) state).locks key).count pid = if last = some key then 1 else 0 := by
  induction locking generalizing state with
  | done => exact listed key
  | @acquires name rest last _ ih =>
      refine ih fun key => ?_
      have before := listed key
      simp only [reduceCtorEq, if_false] at before
      by_cases same : key = name
      · subst same
        simp [apply, before]
      · simp [apply, Function.update_of_ne same, before, Ne.symm same]
  | @releases name rest last _ ih =>
      refine ih fun key => ?_
      have before := listed key
      by_cases same : key = name
      · subst same
        simp [apply, before]
      · simp [apply, Function.update_of_ne same, before, Ne.symm same]
  | others free _ ih =>
      refine ih fun key => ?_
      rw [apply_locks free]
      exact listed key

theorem foldl_listed_of_ne (differ : other ≠ pid) (key : String) :
    ((effects.foldl (apply pid) state).locks key).count other = (state.locks key).count other := by
  induction effects generalizing state with
  | nil => rfl
  | cons effect rest ih =>
      rw [List.foldl_cons, ih]
      cases effect with
      | acquire name =>
          by_cases same : key = name
          · subst same
            simp [apply, Ne.symm differ]
          · simp [apply, Function.update_of_ne same]
      | release name =>
          by_cases same : key = name
          · subst same
            simp [apply, List.count_erase_of_ne differ]
          · simp [apply, Function.update_of_ne same]
      | _ => rw [apply_locks rfl]

theorem foldl_lockKeyAt : (effects.foldl (apply pid) state).lockKeyAt other = state.lockKeyAt other := by
  induction effects generalizing state with
  | nil => rfl
  | cons effect rest ih =>
      rw [List.foldl_cons, ih, lockKeyAt, lockKeyAt, apply_calls]
      cases state.calls other with
      | none => rfl
      | some call => exact congrArg Pc.key (Call.listen_overheard _ _).pc

theorem stepped_locking (wellFormed : state.WellFormed) (stepped : Stepped handler state label after effects) :
    Effect.Locking (state.lockKeyAt label.pid) effects after.pc.key := by
  have keyAt : ∀ {pid call}, state.calls pid = some call → state.lockKeyAt pid = call.pc.key := by
    intro pid call found
    rw [lockKeyAt, found, Option.bind_some]
  cases stepped with
  | @begun pid request context requestedExtensions fresh unused =>
      have idle : state.lockKeyAt pid = none := by rw [lockKeyAt, unused, Option.bind_none]
      have begun := @Call.begin_cases handler (state.view pid (handler.scope context)) request context
        requestedExtensions fresh
      generalize handler.begin _ _ _ _ _ = call at begun
      rw [idle]
      cases begun with
      | starts =>
          simp only [Call.resolveReferences]
          split <;> exact .done
      | loads counter => rcases counter with rfl | rfl | rfl | rfl <;> exact .done
      | _ => exact .done
  | resumed found resumed =>
      rw [keyAt found]
      exact (Call.resume_cases resumed).locking (wellFormed _ _ found)
  | published found | finishedBus found =>
      rw [keyAt found]
      exact .others rfl .done
  | executorReturned found | executorThrew found =>
      rw [keyAt found]
      exact .done
  | reaped found executing _ _ _ reaped =>
      rw [keyAt found]
      cases Execution.reap_settles reaped with
      | updated => exact .others rfl .done
      | announced => exact .others rfl (.others rfl .done)
      | keptAlive => exact .done
      | closed => exact .others rfl (.others rfl .done)
  | abandoned found abandoned =>
      obtain ⟨last, counter, rfl⟩ := Call.abandon_cases abandoned
      rw [keyAt found, counter]
      exact .done

theorem locksListed_step (wellFormed : state.WellFormed) (listed : state.LocksListed)
    (stepped : state.step handler label = some next) : next.LocksListed := by
  obtain ⟨after, effects, steppedTo, rfl⟩ := step_cases stepped
  intro other key
  have own : (state.commit label.pid (after, effects)).lockKeyAt other =
      (state.setCall label.pid after).lockKeyAt other := foldl_lockKeyAt
  rw [own]
  by_cases same : other = label.pid
  · subst same
    rw [lockKeyAt, setCall_self, Option.bind_some]
    exact @foldl_listed (state.setCall label.pid after) _ _ _ _ (stepped_locking wellFormed steppedTo)
      (fun key => listed label.pid key) key
  · rw [lockKeyAt, setCall_of_ne same, ← lockKeyAt, ← listed other key]
    exact foldl_listed_of_ne same key

/-- The first call of a chain is in a section of its key, or about to enter it. -/
theorem LocksListed.leader (listed : state.LocksListed) (waits : state.lockKeyAt pid = some key) :
    ∃ first call, (state.locks key).head? = some first ∧ state.calls first = some call ∧
      call.pc.key = some key := by
  have member : pid ∈ state.locks key := by
    have counted := listed pid key
    rw [if_pos waits] at counted
    exact List.count_pos_iff.mp (by omega)
  cases chain : state.locks key with
  | nil => simp [chain] at member
  | cons first rest =>
      have counted := listed first key
      have present : 0 < (state.locks key).count first := List.count_pos_iff.mpr (by simp [chain])
      have own : state.lockKeyAt first = some key := by
        by_contra other
        rw [if_neg other] at counted
        omega
      obtain ⟨call, found, named⟩ := Option.bind_eq_some_iff.mp own
      exact ⟨first, call, rfl, found, named⟩

end State

end A2A.Server
