import A2A.Server.Semantics.Records

namespace A2A.Server

open Library

/-! Where the stored push configurations come from, and which of them a call answers with.

Two awaits write the store: the last one of `createTaskPushNotificationConfig`, and
the one of a message whose own configuration is stored before the executor starts.
-/

namespace InMemoryPushNotificationStore

variable (store : InMemoryPushNotificationStore) (scope : Scope) (taskId : String)

theorem loadWithMetadata_set {entries : List StoredPushNotificationConfig} {other : Scope}
    {key : String} {entry : StoredPushNotificationConfig}
    (listed : entry ∈ (InMemoryPushNotificationStore.mk
      (store.scopedStore.set scope taskId entries)).loadWithMetadata other key) :
    scope = other ∧ taskId = key ∧ entry ∈ entries ∨ entry ∈ store.loadWithMetadata other key := by
  rw [loadWithMetadata, ScopedStore.get?_set] at listed
  split at listed
  · rename_i same
    exact .inl ⟨same.1, same.2, listed⟩
  · exact .inr listed

theorem loadWithMetadata_erase {other : Scope} {key : String} {entry : StoredPushNotificationConfig}
    (listed : entry ∈ (InMemoryPushNotificationStore.mk
      (store.scopedStore.erase scope taskId)).loadWithMetadata other key) :
    entry ∈ store.loadWithMetadata other key := by
  by_cases same : other = scope
  · subst same
    simp only [loadWithMetadata, ScopedStore.get?, ScopedStore.erase, Function.update_self] at listed ⊢
    cases found : ((store.scopedStore.bucket other).erase taskId).get? key with
    | none => simp [found] at listed
    | some entries =>
        rw [found] at listed
        rw [OrderedMap.get?_of_erase _ found]
        exact listed
  · simpa only [loadWithMetadata, ScopedStore.get?, ScopedStore.erase,
      Function.update_of_ne same] using listed

/-- Nothing comes into the store by a removal. -/
theorem mem_loadWithMetadata_delete {configId : Option String} {other : Scope} {key : String}
    {entry : StoredPushNotificationConfig}
    (listed : entry ∈ (store.delete scope taskId configId).loadWithMetadata other key) :
    entry ∈ store.loadWithMetadata other key := by
  unfold delete at listed
  split at listed
  · exact listed
  · rename_i entries found
    dsimp only at listed
    split at listed
    · exact store.loadWithMetadata_erase scope taskId listed
    · rcases store.loadWithMetadata_set scope taskId listed with ⟨rfl, rfl, among⟩ | kept
      · rw [loadWithMetadata, found]
        exact List.mem_of_mem_eraseP among
      · exact kept

end InMemoryPushNotificationStore

namespace Call

/-- The configuration that a call stores as it goes on, and the task that it stores it under. -/
inductive Registers (call : Call) : String → TaskPushNotificationConfig → Prop
  | created {params} : call.request = .createTaskPushNotificationConfig params →
      call.pc = .configApply → Registers call params.taskId params
  | inline {requestContext config} : call.pc = .savePushConfig requestContext config →
      Registers call requestContext.taskId config

/-- How a resumed step writes the stored configurations. -/
inductive ConfigUse (handler : Handler) (call : Call) : Fate → List Effect → Prop
  | stored {taskId config rest} : call.Registers taskId config →
      (∀ effect ∈ rest, effect.configures = false) →
      ConfigUse handler call .ok (.savePushConfig (handler.scope call.context) taskId
        call.context.requestedVersion config call.fresh.configUuid :: rest)
  | deleted {taskId id} : call.request = .deleteTaskPushNotificationConfig taskId id →
      call.pc = .configApply →
      ConfigUse handler call .ok [.deletePushConfig (handler.scope call.context) taskId id]
  | quiet {fate effects} : (∀ effect ∈ effects, effect.configures = false) →
      ConfigUse handler call fate effects

variable {handler : Handler} {view : View} {pid : Pid} {fate : Fate} {call after : Call}
  {effects : List Effect}

theorem acquire_configures (key : Option String) :
    ∀ effect ∈ key.toList.map Effect.acquire, effect.configures = false := by
  cases key <;> simp [Effect.configures]

theorem release_configures (key : Option String) :
    ∀ effect ∈ releaseEffects key, effect.configures = false := by
  cases key <;> simp [releaseEffects, Effect.configures]

theorem joined_configures {taskId : String} {bus : BusId} (joined : Joined view pid taskId bus effects) :
    ∀ effect ∈ effects, effect.configures = false := by
  cases joined <;> simp [Effect.configures]

theorem processingFailed_configures {ref : EventRef} {error : String}
    (failed : call.processingFailed ref error = (after, effects)) :
    ∀ effect ∈ effects, effect.configures = false := by
  rcases processingFailed_cases failed with ⟨_, _, rfl, _⟩ | ⟨_, _, _, _, _, _, _, rfl⟩
  · simp
  · exact acquire_configures _

theorem configApply_use (applying : call.pc = .configApply)
    (applied : call.configApply handler view = (after, effects)) :
    ConfigUse handler call .ok effects := by
  simp only [configApply] at applied
  split at applied
  · rename_i params asked
    cases applied
    exact .stored (.created asked applying) (by simp)
  · split at applied
    · cases applied
      exact .quiet (by simp)
    · split at applied
      · cases applied
        exact .quiet (by simp)
      · cases applied
        exact .quiet (by simp)
  · cases applied
    exact .quiet (by simp)
  · rename_i taskId id asked
    cases applied
    exact .deleted asked applying
  · cases applied
    exact .quiet (by simp)

theorem agentCardServed_use (wellFormed : call.WellFormed) {message : Message} {task : Option Task}
    {taskId : String} {referenceTasks : Option (List Task)}
    (loading : call.pc = .getAgentCard message task taskId referenceTasks)
    (served : agentCardServed handler view pid call message task taskId referenceTasks =
      (after, effects)) : ∀ effect ∈ effects, effect.configures = false := by
  simp only [agentCardServed] at served
  split at served
  · cases wellFormed.contextBuilt loading served with
    | configures => simp
    | configuresStream _ joined | runs joined => exact joined_configures joined
  · cases served
    simp

/-- Before its loop a call writes no configuration, unless that is what it waits to do. -/
theorem prepared_use (wellFormed : call.WellFormed) (prepares : call.pc.preparing = true)
    (resumed : call.resumeOk handler view pid = some (after, effects)) :
    ConfigUse handler call .ok effects := by
  cases counter : call.pc with
  | configApply => exact configApply_use counter (by simpa [resumeOk, counter] using resumed)
  | getAgentCard message task taskId referenceTasks =>
      exact .quiet (agentCardServed_use wellFormed counter (by simpa [resumeOk, counter] using resumed))
  | savePushConfig requestContext config =>
      simp only [resumeOk, counter] at resumed
      split at resumed
      · cases resumed
        exact .stored (.inline counter) (by simp)
      · cases joined : createOrGetBus view pid requestContext.taskId with
        | mk bus joinEffects =>
            simp only [joined, Option.some.injEq, Prod.mk.injEq] at resumed
            obtain ⟨_, rfl⟩ := resumed
            exact .stored (.inline counter) (joined_configures (createOrGetBus_joined joined))
  | loadReferences message task taskId pending loaded =>
      cases pending with
      | nil => simp [resumeOk, counter] at resumed
      | cons reference pending =>
          simp only [resumeOk, counter, Option.some.injEq, Prod.mk.injEq] at resumed
          obtain ⟨_, rfl⟩ := resumed
          exact .quiet (by simp)
  | configLoadTask =>
      simp only [resumeOk, counter] at resumed
      split at resumed <;> cases resumed <;> exact .quiet (by simp)
  | pull | lock | save | map | suspended | resubscribeLoad | finished => simp [counter, Pc.preparing] at prepares
  | _ =>
      simp only [resumeOk, counter, Option.some.injEq, Prod.mk.injEq] at resumed
      obtain ⟨_, rfl⟩ := resumed
      exact .quiet (by simp [Effect.configures])

theorem resume_configUse (wellFormed : call.WellFormed)
    (resumed : call.resume handler view pid fate = some (after, effects)) :
    ConfigUse handler call fate effects := by
  by_cases prepares : call.pc.preparing = true
  · cases fate with
    | ok => exact prepared_use wellFormed prepares resumed
    | fail error =>
        have silent : effects = [] := by
          cases counter : call.pc <;> simp_all [resume, resumeFailed, Pc.preparing]
        exact .quiet (by simp [silent])
  have calm : ∀ {pc : Pc}, call.pc = pc → pc.preparing = true → False := by
    rintro pc rfl
    exact prepares
  refine .quiet ?_
  cases resume_cases resumed with
  | answered preparing => exact absurd preparing prepares
  | contextBuilt loading | configSaved loading | configSavedFirst loading => exact (calm loading rfl).elim
  | @taken queue id rest event pattern after effects _ _ _ _ _ _ took =>
      rcases takeEvent_cases took with ⟨_, _, rfl⟩ | ⟨_, _, _, rfl⟩
      · simp
      · exact acquire_configures _
  | lockFailed _ _ _ _ failed | saveFailed _ _ failed =>
      exact List.forall_mem_append.mpr ⟨release_configures _, processingFailed_configures failed⟩
  | skipped => exact release_configures _
  | saved => exact List.forall_mem_cons.mpr ⟨rfl, release_configures _⟩
  | yielded => split <;> simp [Effect.configures]
  | mapped _ _ _ _ _ handedOut =>
      rcases handOutResults_cases handedOut with ⟨_, rfl⟩ | ⟨_, _, _, _, _, _, rfl | ⟨_, rfl⟩⟩ <;>
        simp [Effect.configures]
  | _ => simp [Effect.configures]

/-- What a call was made with. -/
theorem begin_origin (request : Request) (context : ServerCallContext)
    (requestedExtensions : Option (List String)) (fresh : Fresh) :
    (handler.begin view request context requestedExtensions fresh).request = request ∧
      (handler.begin view request context requestedExtensions fresh).context = context := by
  have begun := @begin_cases handler view request context requestedExtensions fresh
  generalize handler.begin view request context requestedExtensions fresh = call at begun ⊢
  cases begun with
  | refused | starts | follows | loads | subscribes | idles => exact ⟨rfl, rfl⟩

end Call

namespace State

/-- What a step does to the stored configurations: the stepping call stores one, removes one, or
does neither. -/
inductive ConfigStep (handler : Handler) (state : State) (label : Label) (next : State) : Prop
  | saved {call taskId config} : label.action = .resume .ok → state.calls label.pid = some call →
      call.Registers taskId config →
      next.pushNotificationStore = state.pushNotificationStore.save (handler.scope call.context)
        taskId call.context.requestedVersion config call.fresh.configUuid →
      ConfigStep handler state label next
  | deleted {scope taskId id} :
      next.pushNotificationStore = state.pushNotificationStore.delete scope taskId (some id) →
      ConfigStep handler state label next
  | kept : next.pushNotificationStore = state.pushNotificationStore → ConfigStep handler state label next

variable {handler : Handler} {state next : State} {label : Label} {pid : Pid} {call after : Call}
  {effects : List Effect}

theorem apply_configs {effect : Effect} (quiet : effect.configures = false) :
    (state.apply pid effect).pushNotificationStore = state.pushNotificationStore := by
  cases effect with
  | savePushConfig | deletePushConfig => exact nomatch quiet
  | cleanup taskId => simp only [apply]; split <;> rfl
  | _ => rfl

theorem foldl_configs (quiet : ∀ effect ∈ effects, effect.configures = false) :
    (effects.foldl (apply pid) state).pushNotificationStore = state.pushNotificationStore := by
  induction effects generalizing state with
  | nil => rfl
  | cons effect rest ih =>
      rw [List.forall_mem_cons] at quiet
      rw [List.foldl_cons, ih quiet.2, apply_configs quiet.1]

theorem configStep (wellFormed : state.WellFormed) (stepped : state.step handler label = some next) :
    ConfigStep handler state label next := by
  obtain ⟨after, effects, steppedTo, rfl⟩ := step_cases stepped
  cases steppedTo with
  | @resumed pid call fate after effects found resumed =>
      cases Call.resume_configUse (wellFormed pid call found) resumed with
      | stored registers quiet => exact .saved rfl found registers (foldl_configs quiet)
      | deleted => exact .deleted rfl
      | quiet quiet => exact .kept (foldl_configs quiet)
  | reaped _ _ _ _ _ reaped =>
      refine .kept (foldl_configs ?_)
      cases Execution.reap_cases reaped with
      | failed | streamFailed =>
          intro effect member
          obtain ⟨entry, _, rfl⟩ := List.mem_map.mp member
          rfl
      | keptAlive => simp
      | closed => simp [Effect.configures]
  | _ => exact .kept rfl

/-- A call that is about to store a configuration stores it. -/
theorem registers_saves {taskId : String} {config : TaskPushNotificationConfig}
    (found : state.calls pid = some call) (registers : call.Registers taskId config)
    (stepped : state.step handler ⟨pid, .resume .ok⟩ = some next) :
    next.pushNotificationStore = state.pushNotificationStore.save (handler.scope call.context) taskId
      call.context.requestedVersion config call.fresh.configUuid := by
  obtain ⟨after, effects, steppedTo, rfl⟩ := step_cases stepped
  cases steppedTo with
  | resumed present resumed =>
      cases found.symm.trans present
      cases registers with
      | created asked applying =>
          simp only [Call.resume, Call.resumeOk, applying, Call.configApply, asked, Option.some.injEq,
            Prod.mk.injEq] at resumed
          obtain ⟨_, rfl⟩ := resumed
          rfl
      | @inline requestContext _ saving =>
          simp only [Call.resume, Call.resumeOk, saving] at resumed
          split at resumed
          · cases resumed
            rfl
          · cases joined : Call.createOrGetBus
                (state.view pid (handler.scope call.context)) pid requestContext.taskId with
            | mk bus joinEffects =>
                simp only [joined, Option.some.injEq, Prod.mk.injEq] at resumed
                obtain ⟨_, rfl⟩ := resumed
                exact foldl_configs (Call.joined_configures (Call.createOrGetBus_joined joined))

end State

end A2A.Server
