import A2A.Compat.JsonRpcHandler
import A2A.Library.Codec
import A2A.Server.PushNotificationSender
import A2A.Server.Scenario
import A2A.Server.Semantics.Configs

namespace A2A.Compat

open Library Errors Server

/-! The version that a push configuration is stored with, and the protocol that it was registered
over.
-/

section Calls

variable {ς π ρ σ : Type} {context : CallContext ς} {call : HandlerCall ς π}

theorem versionOr_requestedVersion (context : CallContext ς) :
    versionOr (some context.requestedVersion) = context.requestedVersion := by
  rw [versionOr, if_neg context.versioned]

theorem tenantContext_version {params : Option JsonValue} {fresh : CallContext ς}
    (made : tenantContext params context = some fresh) :
    fresh.requestedVersion = context.requestedVersion := by
  unfold tenantContext at made
  split at made
  · cases made
    exact versionOr_requestedVersion context
  · exact nomatch made

/-- A second context object has the version of the first. -/
theorem callHandler_version {handler : RequestHandler ς π ρ} {requestId : JsonValue}
    {method : HandlerMethod} {params : Option JsonValue} {decoded : π}
    (made : (callHandler handler requestId method params decoded context).call = some call) :
    call.context.requestedVersion = context.requestedVersion := by
  cases made
  dsimp only
  cases second : tenantContext params context with
  | none => rfl
  | some fresh => exact tenantContext_version second

theorem dispatch_version {handler : RequestHandler ς π ρ} {requestId : JsonValue} {methodName : String}
    {params : Option JsonValue}
    (made : (dispatch handler requestId methodName params context).call = some call) :
    call.context.requestedVersion = context.requestedVersion := by
  unfold dispatch at made
  dsimp only at made
  split at made
  · exact nomatch made
  · split at made
    · exact nomatch made
    · split at made
      · exact nomatch made
      · exact nomatch made
      · split at made
        · exact nomatch made
        · exact callHandler_version made

/-- The call of a request has the version that the transport was given, and the request is an
object or an array. -/
theorem handle_version {handler : RequestHandler ς π ρ} {value : JsonValue}
    (made : (handle handler (.value value) context).call = some call) :
    isObjectType value = true ∧ call.context.requestedVersion = context.requestedVersion := by
  have object : isObjectType value = true := by
    cases value with
    | object fields | array values => rfl
    | _ => exact nomatch made
  refine ⟨object, ?_⟩
  unfold handle at made
  split at made
  · exact nomatch made
  · exact nomatch made
  · dsimp only at made
    split at made
    · exact nomatch made
    · exact dispatch_version made

namespace LegacyJsonRpc

variable {handler : RequestHandler ς π ρ} {toCompat : HandlerMethod → ρ → Except Thrown σ}

theorem dispatch_made {requestId : JsonValue} {methodName : String} {params : Option JsonValue}
    (made : (dispatch handler toCompat requestId methodName params context).call = some call) :
    (ofLegacyName methodName).isSome = true ∧ call.context = context := by
  unfold dispatch at made
  dsimp only at made
  split at made
  · exact nomatch made
  · split at made
    · exact nomatch made
    · rename_i named
      refine ⟨by rw [named]; rfl, ?_⟩
      split at made
      · exact nomatch made
      · exact nomatch made
      · split at made
        · exact nomatch made
        · cases made
          rfl

/-- A request of v0.3 that leads to a call names one of its methods. -/
theorem handle_made {value : JsonValue}
    (made : (handle handler toCompat (.value value) context).call = some call) :
    (∃ name, field value "method" = some (.string name) ∧ (ofLegacyName name).isSome = true) ∧
      call.context = context := by
  unfold handle at made
  split at made
  · exact nomatch made
  · exact nomatch made
  · rename_i rpcRequest present read
    have same : rpcRequest = value := by
      cases value with
      | object fields | array values =>
          cases read
          rfl
      | _ => exact nomatch read
    subst same
    dsimp only at made
    split at made
    · exact nomatch made
    · rename_i name valid
      obtain ⟨known, context⟩ := dispatch_made made
      refine ⟨⟨name, ?_, known⟩, context⟩
      unfold validMethod at valid
      split at valid
      · rename_i method _ _ given
        split at valid
        · exact nomatch valid
        · cases valid
          exact given
      · exact nomatch valid

end LegacyJsonRpc

/-- The names of the two protocols have nothing in common. -/
theorem isV1JsonRpcMethod_legacy {name : String} (known : (ofLegacyName name).isSome = true) :
    isV1JsonRpcMethod (some (.string name)) = false := by
  unfold ofLegacyName at known
  split at known
  all_goals first
    | decide
    | exact nomatch known

end Calls

section Endpoint

variable {π ρ σ : Type} {server : JsonRpcServer π ρ σ} {request : JsonRpcRequest}

/-- Whether the request names a method of today's protocol. -/
def namesV1Method (request : JsonRpcRequest) : Bool :=
  isV1JsonRpcMethod (field request.body "method")

theorem buildContext_version {useLegacy : Bool} {context : CallContext Unit}
    (built : server.buildContext useLegacy request = .ok context) :
    context.requestedVersion = versionOr request.requestedVersion := by
  obtain ⟨user, _, built⟩ := bind_eq_ok.mp built
  obtain ⟨_, _, built⟩ := bind_eq_ok.mp built
  cases built
  change versionOr (orUndefined request.requestedVersion) = versionOr request.requestedVersion
  cases request.requestedVersion with
  | none => rfl
  | some version =>
      by_cases empty : version = ""
      · subst empty
        rfl
      · have given : decide (version ≠ "") = true := decide_eq_true empty
        rw [orUndefined, Option.filter_some, if_pos given]

/-- A request that leads to a call has its header's version in the context, and the transport
handler that its method belongs to. -/
theorem jsonRpcHandler_made {made : HandlerCall Unit π}
    (called : (jsonRpcHandler server true request).call = some made) :
    made.context.requestedVersion = versionOr request.requestedVersion ∧
      ((jsonRpcHandler server true request).isLegacy = true ↔ namesV1Method request = false) := by
  unfold jsonRpcHandler at called ⊢
  simp only [Bool.true_and] at called ⊢
  split at called
  · exact nomatch called
  · rename_i context built
    have version := buildContext_version built
    split at called
    · rename_i legacy
      obtain ⟨⟨name, given, known⟩, same⟩ := LegacyJsonRpc.handle_made called
      have other : namesV1Method request = false := by
        rw [namesV1Method, given]
        exact isV1JsonRpcMethod_legacy known
      refine ⟨by rw [same, version], ?_⟩
      rw [if_pos legacy]
      exact ⟨fun _ => other, fun _ => rfl⟩
    · rename_i current
      obtain ⟨object, same⟩ := handle_version called
      refine ⟨by rw [same, version], ?_⟩
      rw [if_neg current]
      rw [Bool.not_eq_true, Bool.or_eq_false_iff, shouldUseLegacyFallback, object] at current
      have named : namesV1Method request = true := by simpa [namesV1Method] using current.2
      rw [named]
      exact ⟨nofun, nofun⟩

end Endpoint

section Registrations

/-- The step of a call stores the configuration, as the last one of its task. -/
def Stores (handler : Server.Handler) (state next : State) (pid : Pid)
    (entry : StoredPushNotificationConfig) : Prop :=
  ∃ call taskId config, state.calls pid = some call ∧ call.Registers taskId config ∧
    state.step handler ⟨pid, .resume .ok⟩ = some next ∧
    (next.pushNotificationStore.loadWithMetadata (handler.scope call.context) taskId).getLast? =
      some entry

/-- The configuration is stored, and its webhook notified, in the protocol of its registration. -/
structure InItsDialect (options : SenderOptions) (legacy : Bool)
    (entry : StoredPushNotificationConfig) : Prop where
  stored : entry.wireVersion = "0.3" ↔ legacy = true
  notified : ∀ streamResponse task,
    (PushNotificationSender.dispatchNotification options streamResponse entry task).serializer = "0.3" ↔
      legacy = true

/-- The version header is that of the method's protocol, for which the sender has a serializer. -/
def DialectsAgree (options : SenderOptions) (request : JsonRpcRequest) : Prop :=
  (versionOr request.requestedVersion = "0.3" ↔ namesV1Method request = false) ∧
    (namesV1Method request = false → options.serializers.contains "0.3" = true)

variable {handler : Server.Handler} {state next : State} {pid : Pid} {entry : StoredPushNotificationConfig}

/-- What is stored has the version that the call was made with. -/
theorem stores_version {call : Call} (found : state.calls pid = some call)
    (versioned : call.context.requestedVersion ≠ "") (stores : Stores handler state next pid entry) :
    entry.wireVersion = call.context.requestedVersion := by
  obtain ⟨call', taskId, config, found', registers, stepped, last⟩ := stores
  cases found.symm.trans found'
  rw [State.registers_saves found registers stepped,
    InMemoryPushNotificationStore.loadWithMetadata_save, if_pos ⟨rfl, rfl⟩, List.getLast?_concat,
    if_neg versioned] at last
  cases last
  rfl

theorem begun_context {request : Request} {context : ServerCallContext}
    {requestedExtensions : Option (List String)} {fresh : Fresh}
    (stepped : state.step handler ⟨pid, .call request context requestedExtensions fresh⟩ = some next) :
    ∃ call, next.calls pid = some call ∧ call.context = context := by
  obtain ⟨after, effects, steppedTo, rfl⟩ := step_cases stepped
  cases steppedTo with
  | begun => exact ⟨_, State.setCall_self, (Call.begin_origin ..).2⟩

/-- A call keeps the context that it was made with, throughout a run. -/
theorem context_of_run {taskStore : InMemoryTaskStore}
    {pushNotificationStore : InMemoryPushNotificationStore} {taskIdToBus : String → Option BusId}
    {labels : List Label} {request : Request} {context : ServerCallContext}
    {requestedExtensions : Option (List String)} {fresh : Fresh}
    (run : (handlerSystem handler).Reaches
      (State.initial taskStore pushNotificationStore taskIdToBus) labels state)
    (begun : ⟨pid, .call request context requestedExtensions fresh⟩ ∈ labels) :
    ∃ call, state.calls pid = some call ∧ call.context = context := by
  have kept := run.history (fun labels state => state.WellFormed ∧
    ∀ pid request context requestedExtensions fresh,
      ⟨pid, .call request context requestedExtensions fresh⟩ ∈ labels →
        ∃ call, state.calls pid = some call ∧ call.context = context)
    ⟨State.wellFormed_initial _ _ _, fun _ _ _ _ _ listed => (nomatch listed)⟩ ?_
  · exact kept.2 _ _ _ _ _ begun
  · rintro labels state label next ⟨wellFormed, earlier⟩ _ stepped
    refine ⟨State.wellFormed_step wellFormed stepped, ?_⟩
    intro pid request context requestedExtensions fresh listed
    rcases List.mem_append.mp listed with before | last
    · obtain ⟨call, found, same⟩ := earlier _ _ _ _ _ before
      obtain ⟨after, later⟩ := State.calls_kept stepped found
      exact ⟨after, later, ((State.origin_step wellFormed stepped found later).2.1).trans same⟩
    · obtain rfl := List.mem_singleton.mp last
      obtain ⟨call, found, same⟩ := begun_context stepped
      exact ⟨call, found, same⟩

theorem serializer_eq (options : SenderOptions) (streamResponse : StreamResponse) (task : Option Task) :
    (PushNotificationSender.dispatchNotification options streamResponse entry task).serializer = "0.3" ↔
      entry.wireVersion = "0.3" ∧ options.serializers.contains "0.3" = true := by
  change PushNotificationSender.resolveSerializer options entry.wireVersion = "0.3" ↔ _
  unfold PushNotificationSender.resolveSerializer
  split
  · rename_i registered
    constructor
    · intro same
      exact ⟨same, same ▸ registered⟩
    · exact And.left
  · rename_i missing
    constructor
    · exact fun fallback => absurd fallback (by decide)
    · rintro ⟨same, registered⟩
      exact absurd (same ▸ registered) missing

/-- A registration over JSON-RPC is kept and notified in its own protocol exactly if its header says
so and the sender knows it. -/
theorem registration_keeps_dialect {ρ σ : Type} {server : JsonRpcServer Request ρ σ}
    {request : JsonRpcRequest} {made : HandlerCall Unit Request}
    (called : (jsonRpcHandler server true request).call = some made) {taskStore : InMemoryTaskStore}
    {pushNotificationStore : InMemoryPushNotificationStore} {taskIdToBus : String → Option BusId}
    {labels : List Label} {fresh : Fresh}
    (run : (handlerSystem handler).Reaches
      (State.initial taskStore pushNotificationStore taskIdToBus) labels state)
    (begun : ⟨pid, .call made.params made.context.toServerCallContext
      made.context.requestedExtensions fresh⟩ ∈ labels)
    (stores : Stores handler state next pid entry) (options : SenderOptions) :
    InItsDialect options (jsonRpcHandler server true request).isLegacy entry ↔
      DialectsAgree options request := by
  obtain ⟨version, routed⟩ := jsonRpcHandler_made called
  obtain ⟨call, found, same⟩ := context_of_run run begun
  have stored : entry.wireVersion = versionOr request.requestedVersion := by
    rw [← version, ← same]
    refine stores_version found ?_ stores
    rw [same]
    exact made.context.versioned
  constructor
  · rintro ⟨agrees, notified⟩
    rw [stored, routed] at agrees
    refine ⟨agrees, ?_⟩
    intro other
    have sent := (notified (.task (Scenario.task "" .working)) none).mpr (routed.mpr other)
    exact ((serializer_eq options _ none).mp sent).2
  · rintro ⟨agrees, registered⟩
    refine ⟨by rw [stored, routed]; exact agrees, ?_⟩
    intro streamResponse task
    rw [serializer_eq, stored, routed, agrees]
    exact ⟨And.left, fun other => ⟨other, registered other⟩⟩

end Registrations

section Samples

def hookConfig : TaskPushNotificationConfig where
  tenant := ""
  id := ""
  taskId := "t1"
  url := "https://example.com/hook"
  token := ""
  authentication := none

/-- A server that speaks both versions, and reads the one configuration below. -/
def hookServer : JsonRpcServer Request Unit Unit where
  userBuilder := fun _ => .ok none
  supportedVersions := .ok ["1.0", "0.3"]
  requestHandler := {
    streaming := .ok true
    fromJSON := fun _ _ => .ok (.createTaskPushNotificationConfig hookConfig)
    serve := fun _ => ([], .ok ()) }
  legacyFromJSON := fun _ _ => .ok (.createTaskPushNotificationConfig hookConfig)
  toCompat := fun _ _ => .ok ()

def hookRequest (requestedVersion : Option String) : JsonRpcRequest where
  body := .object [("jsonrpc", .string "2.0"), ("id", .number 1),
    ("method", .string "CreateTaskPushNotificationConfig"),
    ("params", .object [("taskId", .string "t1"), ("url", .string "https://example.com/hook")])]
  requestedVersion := requestedVersion
  extensions := []
  legacyExtensions := none
  headers := .object []

def hookCall (requestedVersion : Option String) : HandlerCall Unit Request where
  method := .createTaskPushNotificationConfig
  tenant := none
  params := .createTaskPushNotificationConfig hookConfig
  context := .build (some []) none (.object []) (orUndefined requestedVersion) none

def hookStart : State :=
  .initial (.save .empty ⟨"", "unknown"⟩ (Scenario.task "t1" .working)) .empty (fun _ => none)

def hookLabels (requestedVersion : Option String) : List Label :=
  let context := (hookCall requestedVersion).context
  [⟨0, .call (.createTaskPushNotificationConfig hookConfig) context.toServerCallContext
      context.requestedExtensions (Scenario.fresh "")⟩, ⟨0, .resume .ok⟩]

/-- The request is dispatched, and its call stores the configuration. -/
theorem hook_registers {requestedVersion : Option String}
    (either : requestedVersion = some "1.0" ∨ requestedVersion = none) :
    (jsonRpcHandler hookServer true (hookRequest requestedVersion)).call =
        some (hookCall requestedVersion) ∧
      ∃ state next, (handlerSystem (Scenario.server true)).Reaches hookStart
          (hookLabels requestedVersion) state ∧
        Stores (Scenario.server true) state next 0
          ⟨{ hookConfig with id := "config" }, versionOr requestedVersion⟩ := by
  rcases either with rfl | rfl
  · refine ⟨rfl, ?_⟩
    exact ⟨_, _, System.reaches_of_run rfl, _, hookConfig.taskId, hookConfig, rfl, .created rfl rfl, rfl, rfl⟩
  · refine ⟨rfl, ?_⟩
    exact ⟨_, _, System.reaches_of_run rfl, _, hookConfig.taskId, hookConfig, rfl, .created rfl rfl, rfl, rfl⟩

/-- The sender of `createLegacyAwarePushNotificationSender`. -/
def legacyAware : SenderOptions := ⟨"X-A2A-Notification-Token", ["1.0", "0.3"]⟩

theorem registration_keeps_dialect_current :
    ∃ state next entry, Stores (Scenario.server true) state next 0 entry ∧
      InItsDialect legacyAware (jsonRpcHandler hookServer true (hookRequest (some "1.0"))).isLegacy
        entry := by
  obtain ⟨called, state, next, run, stores⟩ := hook_registers (.inl rfl)
  have agree : DialectsAgree legacyAware (hookRequest (some "1.0")) := by
    unfold DialectsAgree
    decide
  exact ⟨state, next, _, stores,
    (registration_keeps_dialect called run List.mem_cons_self stores legacyAware).mpr agree⟩

/-- Without a version header, a registration of today's protocol is kept as one of v0.3. -/
theorem registration_loses_dialect :
    (jsonRpcHandler hookServer true (hookRequest none)).isLegacy = false ∧
      ∃ state next entry, (handlerSystem (Scenario.server true)).Reaches hookStart (hookLabels none) state ∧
        Stores (Scenario.server true) state next 0 entry ∧ entry.wireVersion = "0.3" ∧
          ¬ InItsDialect legacyAware (jsonRpcHandler hookServer true (hookRequest none)).isLegacy entry := by
  obtain ⟨_, state, next, run, stores⟩ := hook_registers (.inr rfl)
  have current : (jsonRpcHandler hookServer true (hookRequest none)).isLegacy = false := rfl
  refine ⟨current, state, next, _, run, stores, rfl, ?_⟩
  intro kept
  rw [current] at kept
  exact nomatch kept.stored.mp rfl

end Samples

end A2A.Compat
