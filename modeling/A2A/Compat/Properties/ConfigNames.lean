import A2A.Compat.PushNotifications
import A2A.Server.Scenario
import A2A.Server.Semantics.Configs

namespace A2A.Compat

open Library Server

/-! The task that a push configuration names, and the one that it is returned for. -/

/-- The configuration names the task, and its resource name leads back to both. -/
structure Named (taskId : String) (config : A2A.TaskPushNotificationConfig) : Prop where
  task : config.taskId = taskId
  id : config.id ≠ ""
  decodes : FromProto.extractTaskAndPushNotificationConfigId
    (ToProto.taskPushNotificationConfig (toCompatTaskPushNotificationConfig config)).name =
      .ok (taskId, config.id)

/-- A configuration that may be stored for the task: it names the task, and both ids can stand in a
resource name. -/
structure Nameable (taskId : String) (config : A2A.TaskPushNotificationConfig) (uuid : String) :
    Prop where
  task : config.taskId = taskId
  fits : FitsName taskId
  id : FitsName (if config.id = "" then uuid else config.id)

theorem name_toCompat {config : A2A.TaskPushNotificationConfig} (given : config.id ≠ "") :
    (ToProto.taskPushNotificationConfig (toCompatTaskPushNotificationConfig config)).name =
      ToProto.generatePushNotificationConfigName config.taskId config.id := by
  have kept : nonEmpty config.id = some config.id := by
    rw [nonEmpty, if_neg given]
  change ToProto.generatePushNotificationConfigName config.taskId ((nonEmpty config.id).getD "") = _
  rw [kept]
  rfl

theorem Nameable.named {taskId uuid : String} {config : A2A.TaskPushNotificationConfig}
    (nameable : Nameable taskId config uuid) :
    Named taskId (InMemoryPushNotificationStore.assignId config uuid) := by
  have assigned : (InMemoryPushNotificationStore.assignId config uuid).id =
      if config.id = "" then uuid else config.id := by
    unfold InMemoryPushNotificationStore.assignId
    split
    · rfl
    · rfl
  have task : (InMemoryPushNotificationStore.assignId config uuid).taskId = taskId := by
    rw [← nameable.task]
    unfold InMemoryPushNotificationStore.assignId
    split
    · rfl
    · rfl
  have fits : FitsName (InMemoryPushNotificationStore.assignId config uuid).id := by
    rw [assigned]
    exact nameable.id
  refine ⟨task, fits.1, ?_⟩
  rw [name_toCompat fits.1, task]
  exact extract_generate nameable.fits fits

section Calls

/-- The task that a request returns configurations for. -/
def configTask : Request → Option String
  | .createTaskPushNotificationConfig params => some params.taskId
  | .getTaskPushNotificationConfig taskId _ | .listTaskPushNotificationConfigs taskId => some taskId
  | _ => none

/-- The configurations that a call has returned. -/
def returnedConfigs (call : Call) : List A2A.TaskPushNotificationConfig :=
  match call.outcome with
  | some (.config value) => [value]
  | some (.configs values) => values
  | _ => []

/-- The awaits of the calls for configurations. -/
def configuring : Pc → Bool
  | .configLoadTask | .configApply | .finished => true
  | _ => false

/-- A call for the configurations of a task has returned none but those that name it. -/
structure NamesConfigs (call : Call) (taskId : String) : Prop where
  waits : configuring call.pc = true
  unanswered : call.pc ≠ .finished → call.outcome = none
  returned : ∀ config ∈ returnedConfigs call, Named taskId config

variable {handler : Server.Handler} {view : View} {pid : Pid} {fate : Fate} {call after : Call}
  {effects : List Effect} {taskId : String}

theorem NamesConfigs.answer (names : NamesConfigs call taskId) (open' : call.pc ≠ .finished)
    {outcome : Outcome}
    (named : ∀ config ∈ returnedConfigs { call with outcome := some outcome }, Named taskId config) :
    NamesConfigs (call.finish outcome) taskId := by
  have answered : (call.finish outcome).outcome = some outcome := by
    change (call.outcome <|> some outcome) = some outcome
    rw [names.unanswered open']
    rfl
  refine ⟨rfl, fun left => absurd rfl left, ?_⟩
  intro config listed
  refine named config ?_
  rw [returnedConfigs, answered] at listed
  exact listed

theorem NamesConfigs.overheard (names : NamesConfigs call taskId) (overheard : call.Overheard after) :
    NamesConfigs after taskId := by
  refine ⟨by rw [overheard.pc]; exact names.waits, ?_, ?_⟩
  · rw [overheard.pc, overheard.outcome]
    exact names.unanswered
  · rw [returnedConfigs, overheard.outcome]
    exact names.returned

theorem begin_namesConfigs {request : Request} (asked : configTask request = some taskId)
    (context : ServerCallContext) (requestedExtensions : Option (List String)) (fresh : Fresh) :
    NamesConfigs (handler.begin view request context requestedExtensions fresh) taskId := by
  have loads : ∀ {request : Request}, handler.begin view request context requestedExtensions fresh =
      (if handler.pushNotifications then
        { Call.blank request context requestedExtensions fresh with pc := .configLoadTask }
      else (Call.blank request context requestedExtensions fresh).reject .pushNotificationNotSupported) →
      NamesConfigs (handler.begin view request context requestedExtensions fresh) taskId := by
    intro request same
    rw [same]
    split
    · exact ⟨rfl, fun _ => rfl, fun _ listed => (nomatch listed)⟩
    · exact ⟨rfl, fun left => absurd rfl left, fun _ listed => (nomatch listed)⟩
  cases request with
  | createTaskPushNotificationConfig | getTaskPushNotificationConfig
  | listTaskPushNotificationConfigs => exact loads rfl
  | _ => exact nomatch asked

theorem configApply_namesConfigs (names : NamesConfigs call taskId)
    (asked : configTask call.request = some taskId) (applying : call.pc = .configApply)
    (stored : ∀ taskId, ∀ config ∈ view.pushConfigs taskId, Named taskId config)
    (nameable : ∀ taskId config, call.Registers taskId config → Nameable taskId config call.fresh.configUuid)
    (applied : call.configApply handler view = (after, effects)) : NamesConfigs after taskId := by
  have open' : call.pc ≠ .finished := by simp [applying]
  have refused : ∀ reason, NamesConfigs (call.reject reason) taskId :=
    fun reason => names.answer open' (fun _ listed => absurd listed List.not_mem_nil)
  cases request : call.request with
  | createTaskPushNotificationConfig params =>
      rw [request] at asked
      obtain rfl := Option.some.inj asked
      simp only [Call.configApply, request, Prod.mk.injEq] at applied
      obtain ⟨rfl, _⟩ := applied
      refine names.answer open' ?_
      intro config listed
      obtain rfl := List.mem_singleton.mp listed
      exact (nameable _ _ (.created request applying)).named
  | getTaskPushNotificationConfig task id =>
      rw [request] at asked
      obtain rfl := Option.some.inj asked
      simp only [Call.configApply, request] at applied
      split at applied
      · cases applied
        exact refused _
      · split at applied
        · rename_i config found
          cases applied
          refine names.answer open' ?_
          intro config' listed
          obtain rfl := List.mem_singleton.mp listed
          exact stored task _ (List.mem_of_find?_eq_some found)
        · cases applied
          exact refused _
  | listTaskPushNotificationConfigs task =>
      rw [request] at asked
      obtain rfl := Option.some.inj asked
      simp only [Call.configApply, request, Prod.mk.injEq] at applied
      obtain ⟨rfl, _⟩ := applied
      exact names.answer open' (stored task)
  | _ =>
      rw [request] at asked
      cases asked

theorem resume_namesConfigs (names : NamesConfigs call taskId)
    (asked : configTask call.request = some taskId)
    (stored : ∀ taskId, ∀ config ∈ view.pushConfigs taskId, Named taskId config)
    (nameable : fate = .ok → ∀ taskId config, call.Registers taskId config →
      Nameable taskId config call.fresh.configUuid)
    (resumed : call.resume handler view pid fate = some (after, effects)) : NamesConfigs after taskId := by
  have refused : ∀ reason, call.pc ≠ .finished → NamesConfigs (call.reject reason) taskId :=
    fun reason open' => names.answer open' (fun _ listed => absurd listed List.not_mem_nil)
  cases counter : call.pc with
  | configLoadTask =>
      have open' : call.pc ≠ .finished := by simp [counter]
      cases fate with
      | ok =>
          simp only [Call.resume, Call.resumeOk, counter] at resumed
          split at resumed
          · cases resumed
            exact refused _ open'
          · cases resumed
            exact ⟨rfl, fun _ => names.unanswered open', names.returned⟩
      | fail error =>
          simp only [Call.resume, Call.resumeFailed, counter] at resumed
          cases resumed
          exact refused _ open'
  | configApply =>
      have open' : call.pc ≠ .finished := by simp [counter]
      cases fate with
      | ok =>
          simp only [Call.resume, Call.resumeOk, counter, Option.some.injEq] at resumed
          exact configApply_namesConfigs names asked counter stored (nameable rfl) resumed
      | fail error =>
          simp only [Call.resume, Call.resumeFailed, counter] at resumed
          cases resumed
          exact refused _ open'
  | finished => cases fate <;> simp [Call.resume, Call.resumeOk, Call.resumeFailed, counter] at resumed
  | _ =>
      have waits := names.waits
      rw [counter] at waits
      cases waits

end Calls

section Runs

variable {handler : Server.Handler} {state next : State} {label : Label}

/-- A call that stores a configuration in this step stores one for the task that it names. -/
def StoresNameable (state : State) (label : Label) : Prop :=
  label.action = .resume .ok → ∀ call, state.calls label.pid = some call →
    ∀ taskId config, call.Registers taskId config → Nameable taskId config call.fresh.configUuid

/-- The stored configurations, and those that were returned, name their tasks. -/
structure ConfigsNamed (state : State) : Prop where
  stored : ∀ scope taskId, ∀ config ∈ state.pushNotificationStore.load scope taskId, Named taskId config
  returned : ∀ pid call taskId, state.calls pid = some call → configTask call.request = some taskId →
    NamesConfigs call taskId

theorem configsNamed_initial (taskStore : InMemoryTaskStore) (taskIdToBus : String → Option BusId) :
    ConfigsNamed (.initial taskStore .empty taskIdToBus) where
  stored := fun _ _ _ listed => (nomatch listed)
  returned := fun _ _ _ found => (nomatch found)

theorem stored_step (wellFormed : state.WellFormed) (named : ConfigsNamed state)
    (allowed : StoresNameable state label) (stepped : state.step handler label = some next)
    (scope : Scope) (taskId : String) :
    ∀ config ∈ next.pushNotificationStore.load scope taskId, Named taskId config := by
  intro config listed
  obtain ⟨entry, among, rfl⟩ := List.mem_map.mp listed
  have earlier : entry ∈ state.pushNotificationStore.loadWithMetadata scope taskId →
      Named taskId entry.config :=
    fun before => named.stored scope taskId _ (List.mem_map_of_mem before)
  cases State.configStep wellFormed stepped with
  | saved resumed found registers saves =>
      rw [saves, InMemoryPushNotificationStore.loadWithMetadata_save] at among
      split at among
      · rename_i same
        obtain ⟨rfl, rfl⟩ := same
        rcases List.mem_append.mp among with before | last
        · exact earlier (List.mem_of_mem_eraseP before)
        · obtain rfl := List.mem_singleton.mp last
          exact (allowed resumed _ found _ _ registers).named
      · exact earlier among
  | deleted deletes =>
      rw [deletes] at among
      exact earlier (InMemoryPushNotificationStore.mem_loadWithMetadata_delete _ _ _ among)
  | kept keeps =>
      rw [keeps] at among
      exact earlier among

theorem returned_step (wellFormed : state.WellFormed) (named : ConfigsNamed state)
    (allowed : StoresNameable state label) (stepped : state.step handler label = some next) {pid : Pid} {call : Call}
    {taskId : String} (found : next.calls pid = some call) (asked : configTask call.request = some taskId) :
    NamesConfigs call taskId := by
  obtain ⟨after, effects, steppedTo, rfl⟩ := step_cases stepped
  rcases State.commit_overheard found with ⟨rfl, overheard⟩ | ⟨_, before, earlier, overheard⟩
  · refine NamesConfigs.overheard ?_ overheard
    rw [overheard.request] at asked
    have same : ∀ {before : Call}, state.calls label.pid = some before →
        after.request = before.request → after.pc = before.pc → after.outcome = before.outcome →
        NamesConfigs after taskId := by
      intro before present request pc outcome
      rw [request] at asked
      have names := named.returned _ _ _ present asked
      refine ⟨by rw [pc]; exact names.waits, by rw [pc, outcome]; exact names.unanswered, ?_⟩
      rw [returnedConfigs, outcome]
      exact names.returned
    cases steppedTo with
    | begun =>
        refine begin_namesConfigs ?_ _ _ _
        rw [(Call.begin_origin ..).1] at asked
        exact asked
    | @resumed pid before fate after effects present resumed =>
        have kept := ((Call.resume_cases resumed).origin (wellFormed _ _ present)).1
        rw [kept] at asked
        refine resume_namesConfigs (named.returned _ _ _ present asked) asked ?_ ?_ resumed
        · exact fun taskId => named.stored _ taskId
        · rintro rfl
          exact allowed rfl _ present
    | published present | finishedBus present | executorReturned present | executorThrew present
    | reaped present => exact same present rfl rfl rfl
    | abandoned present abandoned =>
        obtain ⟨_, suspended, rfl⟩ := Call.abandon_cases abandoned
        have waits := (named.returned _ _ _ present asked).waits
        rw [suspended] at waits
        exact nomatch waits
  · rw [overheard.request] at asked
    exact (named.returned _ _ _ earlier asked).overheard overheard

/-- In a run that stores nothing but configurations for the tasks that they name, whatever is
returned for a task names it, and its resource name leads back. -/
theorem returned_configs_named {taskStore : InMemoryTaskStore} {taskIdToBus : String → Option BusId}
    {labels : List Label}
    (run : (handlerSystem handler).Runs StoresNameable (.initial taskStore .empty taskIdToBus) labels
      state)
    {pid : Pid} {call : Call} {taskId : String} (found : state.calls pid = some call)
    (asked : configTask call.request = some taskId) :
    ∀ config ∈ returnedConfigs call, Named taskId config := by
  have kept := run.invariant (fun state => state.WellFormed ∧ ConfigsNamed state)
    ⟨State.wellFormed_initial _ _ _, configsNamed_initial _ _⟩ ?_
  · exact (kept.2.returned _ _ _ found asked).returned
  · rintro state label next ⟨wellFormed, named⟩ allowed stepped
    refine ⟨State.wellFormed_step wellFormed stepped, stored_step wellFormed named allowed stepped, ?_⟩
    intro pid call taskId found asked
    exact returned_step wellFormed named allowed stepped found asked

end Runs

section Samples

instance (taskId uuid : String) (config : A2A.TaskPushNotificationConfig) :
    Decidable (Nameable taskId config uuid) :=
  decidable_of_iff (config.taskId = taskId ∧ (taskId ≠ "" ∧ '/' ∉ taskId.toList) ∧
      (if config.id = "" then uuid else config.id) ≠ "" ∧
        '/' ∉ (if config.id = "" then uuid else config.id).toList)
    ⟨fun parts => ⟨parts.1, parts.2.1, parts.2.2⟩, fun nameable => ⟨nameable.task, nameable.fits, nameable.id⟩⟩

/-- Whether the configuration that the stepping call waits to store may be stored. -/
def nameableCheck (state : State) (label : Label) : Bool :=
  match state.calls label.pid with
  | none => true
  | some call =>
      match call.pc, call.request with
      | .savePushConfig requestContext config, _ =>
          decide (Nameable requestContext.taskId config call.fresh.configUuid)
      | .configApply, .createTaskPushNotificationConfig params =>
          decide (Nameable params.taskId params call.fresh.configUuid)
      | _, _ => true

theorem storesNameable_of_check (state : State) (label : Label)
    (passed : nameableCheck state label = true) : StoresNameable state label := by
  intro _ call found taskId config registers
  rw [nameableCheck, found] at passed
  cases registers with
  | created asked applying =>
      simp only [applying, asked] at passed
      exact of_decide_eq_true passed
  | inline saving =>
      simp only [saving] at passed
      exact of_decide_eq_true passed

def sampleStart : State :=
  .initial (.save .empty Scenario.aliceScope (Scenario.task "t1" .working)) .empty (fun _ => none)

/-- A hook that names the task `taskId`. -/
def hookFor (taskId : String) : A2A.TaskPushNotificationConfig where
  tenant := ""
  id := ""
  taskId := taskId
  url := "https://example.com/hook"
  token := ""
  authentication := none

def callLabel (pid : Pid) (request : Request) : Label :=
  ⟨pid, .call request (Scenario.context "" "alice") none (Scenario.fresh "t2")⟩

def resumeLabel (pid : Pid) : Label := ⟨pid, .resume .ok⟩

def createLabels : List Label :=
  [callLabel 0 (.createTaskPushNotificationConfig (hookFor "t1")), resumeLabel 0, resumeLabel 0,
    callLabel 1 (.listTaskPushNotificationConfigs "t1"), resumeLabel 1, resumeLabel 1]

theorem returned_configs_named_listed :
    ∃ state call, (handlerSystem (Scenario.server true)).run sampleStart createLabels = some state ∧
      state.calls 1 = some call ∧ returnedConfigs call = [{ hookFor "t1" with id := "config" }] ∧
        ∀ config ∈ returnedConfigs call, Named "t1" config := by
  obtain ⟨state, call, completed, found, asked, returned⟩ : ∃ state call,
      (handlerSystem (Scenario.server true)).checkedRun nameableCheck sampleStart createLabels =
          some state ∧
        state.calls 1 = some call ∧ configTask call.request = some "t1" ∧
          returnedConfigs call = [{ hookFor "t1" with id := "config" }] := ⟨_, _, rfl, rfl, rfl, rfl⟩
  have run := @System.runs_of_checkedRun _ _ (handlerSystem (Scenario.server true)) StoresNameable _ _ _ _
    (fun _ => True) (fun state label _ => storesNameable_of_check state label) (fun _ _ _ => trivial) trivial completed
  exact ⟨state, call, run.to_run, found, returned, returned_configs_named run found asked⟩

/-- A message to `t1` with a configuration of its own, which names no task. -/
def inlineLabels : List Label :=
  let params := Scenario.params (Scenario.message "m1" "t1") false
  let configuration := params.configuration.map (fun configuration =>
    { configuration with taskPushNotificationConfig := some (hookFor "") })
  [callLabel 0 (.sendMessage { params with configuration }), resumeLabel 0, resumeLabel 0, resumeLabel 0,
    resumeLabel 0, callLabel 1 (.listTaskPushNotificationConfigs "t1"), resumeLabel 1, resumeLabel 1]

/-- What is listed for `t1` then names no task, and its resource name does not lead back. -/
theorem inline_config_unnamed :
    ∃ state call config,
      (handlerSystem (Scenario.server true)).Reaches sampleStart inlineLabels state ∧
        state.calls 1 = some call ∧ configTask call.request = some "t1" ∧
          config ∈ returnedConfigs call ∧ config.taskId = "" ∧ ¬ Named "t1" config := by
  obtain ⟨state, call, completed, found, asked, returned⟩ : ∃ state call,
      (handlerSystem (Scenario.server true)).run sampleStart inlineLabels = some state ∧
        state.calls 1 = some call ∧ configTask call.request = some "t1" ∧
          returnedConfigs call = [{ hookFor "" with id := "config" }] := ⟨_, _, rfl, rfl, rfl, rfl⟩
  refine ⟨state, call, _, System.reaches_of_run completed, found, asked,
    by rw [returned]; exact List.mem_singleton.mpr rfl, rfl, ?_⟩
  intro named
  exact absurd named.task (by decide)

end Samples

end A2A.Compat
