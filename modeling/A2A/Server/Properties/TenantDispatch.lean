import A2A.Server.Transports.JsonRpc

namespace A2A.Server

open Library Errors

/-! A JSON-RPC request with and without a tenant among its parameters.

The transport answers a tenant with a second context object, made of four
fields of the first.  The rest of the first object does not reach the request
handler, and what the request handler activates does not reach the first
object, off which the response header is read.
-/

variable {ς π ρ : Type} {handler : RequestHandler ς π ρ} {asText : Bool}
  {envelope fields : List (String × JsonValue)} {context : CallContext ς} {method : HandlerMethod}
  {decoded : π} {tenant : String}

/-- A request body with the given parameters, parsed by the web framework or by the transport. -/
def requestOf (asText : Bool) (envelope params : List (String × JsonValue)) : RequestBody :=
  let rpcRequest := .object (("params", .object params) :: envelope)
  if asText then .text (.ok rpcRequest) else .value rpcRequest

def withTenant (tenant : String) (fields : List (String × JsonValue)) : List (String × JsonValue) :=
  ("tenant", .string tenant) :: fields

/-- The request passes the transport's checks, and the request handler is called. -/
structure Reaches (handler : RequestHandler ς π ρ) (envelope params : List (String × JsonValue))
    (method : HandlerMethod) (decoded : π) : Prop where
  requested : ∃ methodName,
    validMethod (.object (("params", .object params) :: envelope)) = some methodName ∧
      HandlerMethod.ofName methodName = some method ∧
      (methodName = "GetExtendedAgentCard" ∨ paramsAreValid (some (.object params)) = true)
  capable : method.streams = true → handler.streaming = .ok true
  decodes : handler.fromJSON method (some (withoutTenant (.object params))) = .ok decoded

theorem validMethod_params (envelope params others : List (String × JsonValue)) :
    validMethod (.object (("params", .object params) :: envelope)) =
      validMethod (.object (("params", .object others) :: envelope)) := by
  simp [validMethod, field, OrderedMap.lookup]

/-- A tenant makes no difference to the checks. -/
theorem reaches_withTenant :
    Reaches handler envelope (withTenant tenant fields) method decoded ↔
      Reaches handler envelope fields method decoded := by
  have valid : paramsAreValid (some (.object (withTenant tenant fields))) =
      paramsAreValid (some (.object fields)) := by
    simp [paramsAreValid, withTenant]
  have rest : withoutTenant (.object (withTenant tenant fields)) = withoutTenant (.object fields) := by
    simp [withoutTenant, withTenant]
  have name := validMethod_params envelope (withTenant tenant fields) fields
  constructor
  · rintro ⟨requested, capable, decodes⟩
    rw [name, valid] at requested
    exact ⟨requested, capable, rest ▸ decodes⟩
  · rintro ⟨requested, capable, decodes⟩
    rw [← name, ← valid] at requested
    exact ⟨requested, capable, rest ▸ decodes⟩

theorem readRequest_requestOf (asText : Bool) (envelope params : List (String × JsonValue)) :
    readRequest (requestOf asText envelope params) =
      .ok (.object (("params", .object params) :: envelope)) := by
  cases asText <;> rfl

section Handle

variable {params : List (String × JsonValue)}

/-- A request that passes the checks is a call of the request handler. -/
theorem handle_reaches (reaches : Reaches handler envelope params method decoded) (asText : Bool)
    (context : CallContext ς) :
    ∃ requestId, handle handler (requestOf asText envelope params) context =
      callHandler handler requestId method (some (.object params)) decoded context := by
  obtain ⟨⟨methodName, valid, named, passed⟩, capable, decodes⟩ := reaches
  refine ⟨(field (.object (("params", .object params) :: envelope)) "id").getD .null, ?_⟩
  have checked : ¬ ((methodName ≠ "GetExtendedAgentCard" &&
      !paramsAreValid (some (.object params))) = true) := by
    rcases passed with same | accepted
    · simp [same]
    · simp [accepted]
  have streaming : (if method.streams then handler.streaming else .ok true) = .ok true := by
    split
    · rename_i streams
      exact capable streams
    · rfl
  have given : field (.object (("params", .object params) :: envelope)) "params" =
      some (.object params) := by
    simp [field, OrderedMap.lookup]
  simp only [handle, readRequest_requestOf, valid, given, dispatch, if_neg checked, named, streaming,
    Option.map_some, decodes]

/-- A request that fails a check is answered without a call. -/
theorem handle_uncalled (never : ∀ method decoded, ¬ Reaches handler envelope params method decoded)
    (asText : Bool) (context : CallContext ς) :
    (handle handler (requestOf asText envelope params) context).call = none ∧
      (handle handler (requestOf asText envelope params) context).updates = [] := by
  have given : field (.object (("params", .object params) :: envelope)) "params" =
      some (.object params) := by
    simp [field, OrderedMap.lookup]
  simp only [handle, readRequest_requestOf]
  cases valid : validMethod (.object (("params", .object params) :: envelope)) with
  | none => exact ⟨rfl, rfl⟩
  | some methodName =>
      simp only [given, dispatch]
      split
      · exact ⟨rfl, rfl⟩
      · rename_i checked
        cases named : HandlerMethod.ofName methodName with
        | none => exact ⟨rfl, rfl⟩
        | some method =>
            simp only
            cases streaming : (if method.streams then handler.streaming else .ok true) with
            | error thrown => exact ⟨rfl, rfl⟩
            | ok streams =>
                cases streams with
                | false => exact ⟨rfl, rfl⟩
                | true =>
                    simp only [Option.map_some]
                    cases decodes : handler.fromJSON method (some (withoutTenant (.object params))) with
                    | error thrown => exact ⟨rfl, rfl⟩
                    | ok decoded =>
                        refine absurd (Reaches.mk ⟨methodName, valid, named, ?_⟩ ?_ decodes)
                          (never method decoded)
                        · simpa [or_iff_not_imp_left] using checked
                        · intro streams
                          simpa [streams] using streaming

end Handle

/-- What the two runs of a request have in common, and where the second shows its extensions. -/
structure AddsOnlyTenant (plain tenanted : Dispatched ς π ρ) : Prop where
  called : tenanted.call.isSome = plain.call.isSome
  context : ∀ call ∈ tenanted.call, ∀ other ∈ plain.call, call.method = other.method ∧
    call.params = other.params ∧ call.context = { other.context with tenant := call.context.tenant }
  visible : ∀ uri ∈ activations tenanted.updates,
    uri ∈ tenanted.transportContext.activatedExtensions.getD []

/-- The second context object has everything of the first but its tenant. -/
def KeepsContext (context : CallContext ς) : Prop :=
  context.subclass = none ∧ context.state = .empty ∧ context.activatedExtensions = none

/-- The call that a tenant leads to, when the context has none. -/
def tenantCall (method : HandlerMethod) (decoded : π) (tenant : String) (context : CallContext ς) :
    HandlerCall ς π where
  method := method
  tenant := some (.string tenant)
  params := decoded
  context := .new {
    requestedExtensions := context.requestedExtensions
    user := context.user
    requestedVersion := some context.requestedVersion
    tenant := some tenant
    state := none }

theorem tenantCall_context_iff (method : HandlerMethod) (decoded : π) (tenant : String)
    (context : CallContext ς) :
    (tenantCall method decoded tenant context).context = { context with tenant := some tenant } ↔
      KeepsContext context := by
  obtain ⟨⟨_, user, requestedVersion, state⟩, requestedExtensions, activatedExtensions, subclass,
    versioned⟩ := context
  have version : versionOr (some requestedVersion) = requestedVersion := by
    rw [versionOr, if_neg versioned]
  simp only [tenantCall, KeepsContext, CallContext.new, CallContext.mk.injEq,
    ServerCallContext.mk.injEq, Option.getD_none, version, true_and]
  constructor
  · rintro ⟨sameState, sameActivated, sameSubclass⟩
    exact ⟨sameSubclass.symm, sameState.symm, sameActivated.symm⟩
  · rintro ⟨sameSubclass, sameState, sameActivated⟩
    exact ⟨sameState.symm, sameActivated.symm, sameSubclass.symm⟩

section CallHandler

variable {requestId : JsonValue} {params : Option JsonValue}

/-- Without a second context object the call gets the transport's own, and all it activates shows. -/
theorem callHandler_own (own : tenantContext params context = none) :
    ∃ call, (callHandler handler requestId method params decoded context).call = some call ∧
      call.method = method ∧ call.params = decoded ∧ call.context = context ∧
      ∀ uri ∈ activations (callHandler handler requestId method params decoded context).updates,
        uri ∈ (callHandler handler requestId method params decoded
          context).transportContext.activatedExtensions.getD [] := by
  refine ⟨_, rfl, rfl, rfl, by rw [own]; rfl, fun uri activated => ?_⟩
  have shown := CallContext.updateAll_activatedExtensions context
    (callHandler handler requestId method params decoded context).updates
  have transported : (callHandler handler requestId method params decoded context).transportContext =
      context.updateAll (callHandler handler requestId method params decoded context).updates := by
    simp only [callHandler, own, Option.isSome_none, Bool.false_eq_true, if_false]
  rw [transported, shown, Extensions.mem_createFromAll]
  exact .inr activated

/-- With a second context object the transport's own stays as it was. -/
theorem callHandler_tenant (decoded : π) (given : tenant ≠ "")
    (untenanted : truthy context.tenant = false) (method : HandlerMethod) (requestId : JsonValue) :
    (callHandler handler requestId method (some (.object (withTenant tenant fields))) decoded
        context).call = some (tenantCall method decoded tenant context) ∧
      (callHandler handler requestId method (some (.object (withTenant tenant fields))) decoded
        context).updates = (handler.serve (tenantCall method decoded tenant context)).1 ∧
      (callHandler handler requestId method (some (.object (withTenant tenant fields))) decoded
        context).transportContext = context := by
  have named : paramsTenant (some (.object (withTenant tenant fields))) = some tenant := by
    simp [paramsTenant, withTenant, field, OrderedMap.lookup]
  have filled : truthy (some tenant) = true := by
    simp [truthy, given]
  have fresh : tenantContext (some (.object (withTenant tenant fields))) context =
      some (tenantCall method decoded tenant context).context := by
    simp [tenantContext, named, untenanted, filled, tenantCall]
  have sent : (some (JsonValue.object (withTenant tenant fields))).bind
      (fun params => field params "tenant") = some (.string tenant) := by
    simp [withTenant, field, OrderedMap.lookup]
  have call : (callHandler handler requestId method (some (.object (withTenant tenant fields))) decoded
      context).call = some (tenantCall method decoded tenant context) := by
    simp only [callHandler, fresh, sent, Option.getD_some]
    rfl
  refine ⟨call, ?_, ?_⟩
  · simp only [callHandler, fresh, sent, Option.getD_some]
    rfl
  · simp only [callHandler, fresh, Option.isSome_some, if_true]

end CallHandler

theorem tenantContext_untenanted (untenanted : OrderedMap.lookup fields "tenant" = none)
    (context : CallContext ς) : tenantContext (some (.object fields)) context = none := by
  simp [tenantContext, paramsTenant, field, untenanted, truthy]

theorem tenantContext_unneeded (unneeded : tenant = "" ∨ truthy context.tenant = true) :
    tenantContext (some (.object (withTenant tenant fields))) context = none := by
  have named : paramsTenant (some (.object (withTenant tenant fields))) = some tenant := by
    simp [paramsTenant, withTenant, field, OrderedMap.lookup]
  rcases unneeded with empty | present
  · subst empty
    simp [tenantContext, named, truthy]
  · simp [tenantContext, present]

/-- Neither request reaches the request handler. -/
theorem adds_of_unreached (never : ∀ method decoded, ¬ Reaches handler envelope fields method decoded)
    (asText : Bool) (context : CallContext ς) (tenant : String) :
    AddsOnlyTenant (handle handler (requestOf asText envelope fields) context)
      (handle handler (requestOf asText envelope (withTenant tenant fields)) context) := by
  obtain ⟨call, _⟩ := handle_uncalled never asText context
  obtain ⟨call', updates'⟩ := handle_uncalled
    (fun method decoded reaches => never method decoded (reaches_withTenant.mp reaches)) asText context
  constructor
  · rw [call, call']
  · rw [call']
    simp
  · rw [updates']
    simp [activations]

/-- A tenant adds nothing else to a call if and only if no second context object is made, or the
request reaches no handler, or the second object loses nothing: the first is a plain one without
state and activated extensions, and the call activates none. -/
theorem tenant_adds_nothing_iff (handler : RequestHandler ς π ρ) (asText : Bool)
    (envelope fields : List (String × JsonValue)) (context : CallContext ς) (tenant : String)
    (untenanted : OrderedMap.lookup fields "tenant" = none) :
    AddsOnlyTenant (handle handler (requestOf asText envelope fields) context)
        (handle handler (requestOf asText envelope (withTenant tenant fields)) context) ↔
      tenant = "" ∨ truthy context.tenant = true ∨
        ∀ method decoded, Reaches handler envelope fields method decoded →
          KeepsContext context ∧
            activations (handler.serve (tenantCall method decoded tenant context)).1 = [] := by
  by_cases reached : ∃ method decoded, Reaches handler envelope fields method decoded
  swap
  · have never : ∀ method decoded, ¬ Reaches handler envelope fields method decoded :=
      fun method decoded reaches => reached ⟨method, decoded, reaches⟩
    exact iff_of_true (adds_of_unreached never asText context tenant)
      (.inr (.inr fun method decoded reaches => absurd reaches (never method decoded)))
  have plain : ∀ {method decoded}, Reaches handler envelope fields method decoded →
      ∃ call, (handle handler (requestOf asText envelope fields) context).call = some call ∧
        call.method = method ∧ call.params = decoded ∧ call.context = context := by
    intro method decoded reaches
    obtain ⟨requestId, handled⟩ := handle_reaches reaches asText context
    obtain ⟨call, made, sameMethod, sameParams, sameContext, _⟩ := callHandler_own
      (tenantContext_untenanted untenanted context)
    exact ⟨call, handled ▸ made, sameMethod, sameParams, sameContext⟩
  by_cases unneeded : tenant = "" ∨ truthy context.tenant = true
  · refine iff_of_true ?_ (unneeded.imp_right .inl)
    obtain ⟨method, decoded, reaches⟩ := reached
    obtain ⟨other, made, sameMethod, sameParams, sameContext⟩ := plain reaches
    obtain ⟨requestId, handled⟩ := handle_reaches (reaches_withTenant.mpr reaches) asText context
    obtain ⟨call, made', sameMethod', sameParams', sameContext', shows⟩ := callHandler_own
      (tenantContext_unneeded unneeded)
    rw [← handled] at made' shows
    constructor
    · rw [made, made']
      rfl
    · rw [made, made']
      rintro _ ⟨⟩ _ ⟨⟩
      rw [sameMethod, sameMethod', sameParams, sameParams', sameContext, sameContext']
      exact ⟨rfl, rfl, rfl⟩
    · exact shows
  · obtain ⟨given, uncontexted⟩ := not_or.mp unneeded
    have uncontexted : truthy context.tenant = false := by simpa using uncontexted
    have tenanted : ∀ {method decoded}, Reaches handler envelope fields method decoded →
        (handle handler (requestOf asText envelope (withTenant tenant fields)) context).call =
            some (tenantCall method decoded tenant context) ∧
          (handle handler (requestOf asText envelope (withTenant tenant fields)) context).updates =
            (handler.serve (tenantCall method decoded tenant context)).1 ∧
          (handle handler (requestOf asText envelope (withTenant tenant fields))
            context).transportContext = context := by
      intro method decoded reaches
      obtain ⟨requestId, handled⟩ := handle_reaches (reaches_withTenant.mpr reaches) asText context
      rw [handled]
      exact callHandler_tenant decoded given uncontexted method requestId
    constructor
    · intro adds
      refine .inr (.inr fun method decoded reaches => ?_)
      obtain ⟨other, made, _, _, sameContext⟩ := plain reaches
      obtain ⟨made', updates', transported'⟩ := tenanted reaches
      obtain ⟨_, _, contexts⟩ := adds.context _ made' _ made
      rw [sameContext] at contexts
      have keeps := (tenantCall_context_iff method decoded tenant context).mp contexts
      have shows := adds.visible
      rw [updates', transported', keeps.2.2] at shows
      exact ⟨keeps, List.eq_nil_iff_forall_not_mem.mpr fun uri activated =>
        absurd (shows uri activated) (by simp)⟩
    · rintro (empty | contexted | keeps)
      · exact absurd empty given
      · rw [contexted] at uncontexted
        cases uncontexted
      · obtain ⟨method, decoded, reaches⟩ := reached
        obtain ⟨other, made, sameMethod, sameParams, sameContext⟩ := plain reaches
        obtain ⟨made', updates', _⟩ := tenanted reaches
        obtain ⟨kept, silent⟩ := keeps method decoded reaches
        constructor
        · rw [made, made']
          rfl
        · rw [made, made']
          rintro _ ⟨⟩ _ ⟨⟩
          rw [sameMethod, sameParams, sameContext]
          exact ⟨rfl, rfl, (tenantCall_context_iff method decoded tenant context).mpr kept⟩
        · rw [updates', silent]
          simp

section Examples

/-- A request handler that activates the given extensions in every call. -/
def activating (uris : List String) : RequestHandler Unit Unit Unit where
  streaming := .ok true
  fromJSON := fun _ _ => .ok ()
  serve := fun _ => (uris.map .addActivatedExtension, .ok ())

def sendEnvelope : List (String × JsonValue) :=
  [("jsonrpc", .string "2.0"), ("id", .string "1"), ("method", .string "SendMessage")]

/-- A context without state loses nothing in a call that activates nothing. -/
theorem tenant_adds_nothing_plain :
    AddsOnlyTenant
      (handle (activating []) (requestOf false sendEnvelope [("message", .object [])])
        (.new ⟨none, none, none, none, none⟩))
      (handle (activating [])
        (requestOf false sendEnvelope (withTenant "acme" [("message", .object [])]))
        (.new ⟨none, none, none, none, none⟩)) :=
  (tenant_adds_nothing_iff (activating []) false sendEnvelope [("message", .object [])]
    (.new ⟨none, none, none, none, none⟩) "acme" rfl).mpr
      (.inr (.inr fun _ _ _ => ⟨⟨rfl, rfl, rfl⟩, rfl⟩))

/-- The default builder puts the headers into the state, and the tenant takes them out; what the
call activates is not on the object that the response header is read off. -/
theorem tenant_loses_headers_and_extensions :
    ¬ AddsOnlyTenant
      (handle (activating ["urn:echo"]) (requestOf false sendEnvelope [("message", .object [])])
        (.build (some ["urn:echo"]) none (.object [("host", .string "example.org")]) (some "1.0") none))
      (handle (activating ["urn:echo"])
        (requestOf false sendEnvelope (withTenant "acme" [("message", .object [])]))
        (.build (some ["urn:echo"]) none (.object [("host", .string "example.org")]) (some "1.0")
          none)) := by
  intro adds
  have lost := adds.visible "urn:echo" (by decide)
  revert lost
  decide

end Examples

end A2A.Server
