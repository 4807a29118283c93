import A2A.Client.JsonRpcTransport
import A2A.Types.Properties.CodecRoundTrips
import A2A.Errors.Properties.RoundTrips
import A2A.Library.ListedIteration
import A2A.Compat.Properties.ClosedStreams

namespace A2A.Client

open Library Errors Server

/-! A call of the JSON-RPC client, from its parameters to what it resolves with.

It does what a call of the server's request handler would do in its place: it is made once, with the
parameters and the tenant that were given, and ends as that call ends.  Data parts that hold nothing are the
one thing that gets lost on the way, in either direction.
-/

section Requests

theorem withoutTenant_ofEntries (tenant : Option JsonValue) {rest : List (String × Option JsonValue)}
    (absent : "tenant" ∉ rest.map Prod.fst) :
    withoutTenant (.ofEntries (("tenant", tenant) :: rest)) = .ofEntries (("tenant", none) :: rest) := by
  have others : ∀ entry ∈ rest.filterMap (fun entry => entry.2.map (entry.1, ·)), entry.1 ≠ "tenant" := by
    intro entry member same
    obtain ⟨source, listed, given⟩ := List.mem_filterMap.mp member
    obtain ⟨value, -, rfl⟩ := Option.map_eq_some_iff.mp given
    exact absent (List.mem_map.mpr ⟨source, listed, same⟩)
  have kept : (rest.filterMap fun entry => entry.2.map (entry.1, ·)).filter (fun entry => entry.1 ≠ "tenant") =
      rest.filterMap fun entry => entry.2.map (entry.1, ·) :=
    List.filter_eq_self.mpr fun entry member => decide_eq_true (others entry member)
  cases tenant with
  | none =>
      rw [JsonValue.ofEntries, List.filterMap_cons_none rfl, withoutTenant, kept]
  | some tenant =>
      have first : (("tenant", some tenant) :: rest).filterMap (fun entry => entry.2.map (entry.1, ·)) =
          ("tenant", tenant) :: rest.filterMap (fun entry => entry.2.map (entry.1, ·)) := rfl
      rw [JsonValue.ofEntries, first, withoutTenant, List.filter_cons_of_neg (by simp), kept]
      rfl

theorem paramsAreValid_ofEntries {entries : List (String × Option JsonValue)}
    (named : "" ∉ entries.map Prod.fst) : paramsAreValid (some (.ofEntries entries)) = true := by
  refine List.all_eq_true.mpr fun entry member => decide_eq_true fun empty => ?_
  obtain ⟨source, listed, given⟩ := List.mem_filterMap.mp member
  obtain ⟨value, -, rfl⟩ := Option.map_eq_some_iff.mp given
  exact named (List.mem_map.mpr ⟨source, listed, empty⟩)

end Requests

end A2A.Client

namespace A2A.Server.RpcParams

open Library Errors Client

/-- The parameters on the other side. -/
def relayed : RpcParams → RpcParams
  | sendMessage params => sendMessage params.relayed
  | sendMessageStream params => sendMessageStream params.relayed
  | params => params

/-- What the caller gets of what the request handler resolves with. -/
def delivered : (params : RpcParams) → params.relayed.Result → params.Result
  | sendMessage _, result => SendMessageResult.relayed result
  | sendMessageStream _, _ | resubscribe _, _ | deleteTaskPushNotificationConfig _, _ => ()
  | getTask _, task | cancelTask _, task => Task.relayed task
  | listTasks _, response => ListTasksResponse.relayed response
  | createTaskPushNotificationConfig _, config | getTaskPushNotificationConfig _, config => config
  | listTaskPushNotificationConfigs _, response => response

theorem paramsAreValid_toJSON (params : RpcParams) : paramsAreValid (some params.toJSON) = true := by
  cases params <;> exact paramsAreValid_ofEntries (by simp)

/-- Parameters without their tenant are those with an empty one. -/
theorem decodes {α : Type} {decode : JsonValue → Except Thrown α} {params encoded : JsonValue} {value : α}
    (taken : withoutTenant params = encoded) (read : decode encoded = .ok value) (wrap : α → RpcParams) :
    (decode (withoutTenant params)).map wrap = .ok (wrap value) := by
  rw [taken, read]
  rfl

/-- The parameters, as the decoder of their method reads them on the other side. -/
theorem fromJSON_withoutTenant (conversions : Conversions) (params : RpcParams) :
    fromJSON conversions params.method (some (withoutTenant params.toJSON)) = .ok (params.relayed.withTenant "") := by
  cases params with
  | sendMessage params =>
      exact decodes (withoutTenant_ofEntries _ (by simp))
        (SendMessageRequest.fromJSON_toJSON conversions { params with tenant := "" }) sendMessage
  | sendMessageStream params =>
      exact decodes (withoutTenant_ofEntries _ (by simp))
        (SendMessageRequest.fromJSON_toJSON conversions { params with tenant := "" }) sendMessageStream
  | resubscribe params =>
      exact decodes (withoutTenant_ofEntries _ (by simp))
        (SubscribeToTaskRequest.fromJSON_toJSON conversions { params with tenant := "" }) resubscribe
  | getTask params =>
      exact decodes (withoutTenant_ofEntries _ (by simp))
        (GetTaskRequest.fromJSON_toJSON conversions { params with tenant := "" }) getTask
  | listTasks params =>
      exact decodes (withoutTenant_ofEntries _ (by simp))
        (ListTasksRequest.fromJSON_toJSON conversions { params with tenant := "" }) listTasks
  | cancelTask params =>
      exact decodes (withoutTenant_ofEntries _ (by simp))
        (CancelTaskRequest.fromJSON_toJSON conversions { params with tenant := "" }) cancelTask
  | createTaskPushNotificationConfig params =>
      exact decodes (withoutTenant_ofEntries _ (by simp))
        (TaskPushNotificationConfig.fromJSON_toJSON conversions { params with tenant := "" })
        createTaskPushNotificationConfig
  | getTaskPushNotificationConfig params =>
      exact decodes (withoutTenant_ofEntries _ (by simp))
        (TaskPushNotificationConfigRequest.fromJSON_toJSON conversions { params with tenant := "" })
        getTaskPushNotificationConfig
  | deleteTaskPushNotificationConfig params =>
      exact decodes (withoutTenant_ofEntries _ (by simp))
        (TaskPushNotificationConfigRequest.fromJSON_toJSON conversions { params with tenant := "" })
        deleteTaskPushNotificationConfig
  | listTaskPushNotificationConfigs params =>
      exact decodes (withoutTenant_ofEntries _ (by simp))
        (ListTaskPushNotificationConfigsRequest.fromJSON_toJSON conversions { params with tenant := "" })
        listTaskPushNotificationConfigs

/-- The tenant, as the decoder of every method reads it. -/
theorem readText_tenant (conversions : Conversions) (params : RpcParams) :
    ∃ tenant, readText conversions.printer [field params.toJSON "tenant"] = .ok tenant ∧
      (params.relayed.withTenant "").withTenant tenant = params.relayed := by
  cases params <;>
    exact ⟨_, (congrArg (fun value => readText conversions.printer [value]) (field_ofEntries (by simp) _)).trans
      (readText_present _), rfl⟩

/-- The result, as the client's method reads it. -/
theorem decodeResult_encoded (conversions : Conversions) (params : RpcParams) (result : params.relayed.Result) :
    decodeResult conversions (some (params.relayed.encodeResult result)) params =
      .ok (params.delivered result) := by
  cases params with
  | sendMessage params =>
      have encoded : (sendMessage params).relayed.encodeResult result =
          SendMessageResponse.toJSON ⟨some result⟩ := by
        cases result <;> rfl
      have read := SendMessageResponse.fromJSON_toJSON conversions result
      rw [encoded, decodeResult, readResult, read]
      rfl
  | sendMessageStream | resubscribe | deleteTaskPushNotificationConfig => rfl
  | getTask | cancelTask =>
      exact congrArg (Except.mapError thrownBy) (Task.fromJSON_toJSON conversions result)
  | listTasks params =>
      exact congrArg (Except.mapError thrownBy)
        (ListTasksResponse.fromJSON_serialized conversions result params.includeArtifacts)
  | createTaskPushNotificationConfig | getTaskPushNotificationConfig =>
      exact congrArg (Except.mapError thrownBy) (TaskPushNotificationConfig.fromJSON_toJSON conversions result)
  | listTaskPushNotificationConfigs =>
      exact congrArg (Except.mapError thrownBy)
        (ListTaskPushNotificationConfigsResponse.fromJSON_toJSON conversions result)

end A2A.Server.RpcParams

namespace A2A.Client

open Library Errors Server

section Calls

variable {format : NumberFormat} (parser : JsonParser format) (conversions : Conversions)

/-- The call of the request handler that these parameters make in this context. -/
def callOf (params : RpcParams) (context : CallContext Unit) : HandlerCall Unit RpcParams where
  method := params.method
  tenant := field params.toJSON "tenant"
  params := params.relayed.withTenant ""
  context := (tenantContext (some params.toJSON) context).getD context

/-- What an error of the server is on the other side. -/
def receivedError (thrown : Thrown) : ClientError :=
  mapJsonRpcErrorToSdkError conversions.printer (toJsonRpcError thrown).toJson

/-- The call as it would end without a wire in between, but for what the wire does not carry. -/
def callDirectly (agent : RpcAgent) (params : RpcParams) :
    Except Thrown (CallContext Unit) → Except ClientError params.Result
  | .error thrown => .error (receivedError conversions thrown)
  | .ok context =>
      match (agent params.relayed (callOf params context).context).2 with
      | .ok result => .ok (params.delivered result)
      | .error thrown => .error (receivedError conversions thrown)

section Dispatch

variable (legacyCompat : Bool)

theorem methodName_current (method : HandlerMethod) :
    Compat.isLegacyJsonRpcMethod (some (.string (methodName method))) = false ∧
      Compat.isV1JsonRpcMethod (some (.string (methodName method))) = true := by
  cases method <;> decide +kernel

/-- A request of this client is none for the layer of v0.3. -/
theorem usesLegacy_rpcRequest (method : HandlerMethod) (params : JsonValue) (requestId : Nat) :
    usesLegacy legacyCompat (rpcRequest (methodName method) params requestId) = false := by
  have named : field (rpcRequest (methodName method) params requestId) "method" =
      some (.string (methodName method)) := rfl
  obtain ⟨notLegacy, current⟩ := methodName_current method
  rw [usesLegacy, Compat.isLegacyRequest, Compat.shouldUseLegacyFallback, named, notLegacy, current, Bool.not_true,
    Bool.and_false, Bool.or_false, Bool.and_false]

theorem ofName_methodName (method : HandlerMethod) : HandlerMethod.ofName (methodName method) = some method := by
  cases method <;> rfl

theorem validMethod_rpcRequest (method : HandlerMethod) (params : JsonValue) (requestId : Nat) :
    validMethod (rpcRequest (methodName method) params requestId) = some (methodName method) := by
  cases method <;> rfl

/-- What `handle` throws where the agent does not stream. -/
def streamingRefused (methodName : String) : Thrown :=
  raised .unsupportedOperation ("Method " ++ methodName ++ " requires streaming capability.")

/-- What the transport handler makes of a call of this client: it calls the request handler, unless it has to
refuse a stream. -/
def dispatched (agent : RpcAgent) (streaming : Except Thrown Bool) (params : RpcParams) (requestId : Nat)
    (context : CallContext Unit) : Dispatched Unit RpcParams JsonValue :=
  match if params.method.streams then streaming else .ok true with
  | .error thrown => uncalled context (.failed (.number requestId) (toJsonRpcError thrown))
  | .ok false =>
      uncalled context (.failed (.number requestId) (toJsonRpcError (streamingRefused (methodName params.method))))
  | .ok true =>
      callHandler (agent.requestHandler streaming conversions) (.number requestId) params.method
        (some params.toJSON) (params.relayed.withTenant "") context

theorem handle_rpcRequest (agent : RpcAgent) (streaming : Except Thrown Bool) (params : RpcParams) (requestId : Nat)
    (context : CallContext Unit) :
    handle (agent.requestHandler streaming conversions)
        (.value (rpcRequest (methodName params.method) params.toJSON requestId)) context =
      dispatched conversions agent streaming params requestId context := by
  have valid := params.paramsAreValid_toJSON
  have read := params.fromJSON_withoutTenant conversions
  have reaches : handle (agent.requestHandler streaming conversions)
      (.value (rpcRequest (methodName params.method) params.toJSON requestId)) context =
        dispatch (agent.requestHandler streaming conversions) (.number requestId) (methodName params.method)
          (some params.toJSON) context := by
    have named := validMethod_rpcRequest params.method params.toJSON requestId
    rw [rpcRequest] at named
    rw [rpcRequest, handle, readRequest]
    dsimp only
    rw [named]
    rfl
  rw [reaches, dispatch, valid, Bool.not_true, Bool.and_false, ofName_methodName, dispatched]
  dsimp only [RpcAgent.requestHandler, Option.map_some]
  rw [if_neg Bool.false_ne_true, read]
  rfl

/-- What the endpoint makes of such a request. -/
theorem jsonRpcHandler_current {agent : RpcAgent} {streaming : Except Thrown Bool}
    {server : Compat.JsonRpcServer RpcParams JsonValue JsonValue}
    (serves : server.requestHandler = agent.requestHandler streaming conversions) (legacyCompat : Bool)
    {params : RpcParams} {requestId : Nat} {request : Compat.JsonRpcRequest}
    (body : request.body = rpcRequest (methodName params.method) params.toJSON requestId) :
    Compat.jsonRpcHandler server legacyCompat request =
      match server.buildContext false request with
      | .error thrown => .thrown thrown
      | .ok context => .current (dispatched conversions agent streaming params requestId context) := by
  have current := usesLegacy_rpcRequest legacyCompat params.method params.toJSON requestId
  rw [← body, usesLegacy] at current
  rw [Compat.jsonRpcHandler, current]
  cases server.buildContext false request with
  | error thrown => rfl
  | ok context =>
      dsimp only
      rw [if_neg Bool.false_ne_true, body, serves, handle_rpcRequest]

end Dispatch

section Responses

variable {parser conversions} {method : String} {requestId : Nat} {response : FetchResponse}

theorem isId_self (requestId : Nat) : isId requestId (some (.number requestId)) = true := decide_eq_true rfl

theorem resultOf_result (value : JsonValue) :
    resultOf conversions method requestId (Envelope.toJSON ⟨"2.0", .number requestId, some value, none⟩) =
      .ok (some value) := by
  have identified : isId requestId (field (Envelope.toJSON ⟨"2.0", .number requestId, some value, none⟩) "id") =
      true := isId_self requestId
  have succeeded : hasProperty (Envelope.toJSON ⟨"2.0", .number requestId, some value, none⟩) "error" =
      .ok false := rfl
  rw [resultOf, succeeded, identified]
  rfl

theorem resultOf_failed (id : JsonValue) (error : JsonRpcError) :
    resultOf conversions method requestId (Envelope.toJSON ⟨"2.0", id, none, some error⟩) =
      .error (mapJsonRpcErrorToSdkError conversions.printer error.toJson) := by
  have failed : hasProperty (Envelope.toJSON ⟨"2.0", id, none, some error⟩) "error" = .ok true := rfl
  rw [resultOf, failed]
  rfl

theorem readRpcResponse_success {type : Option String} {body : JsonValue}
    (arrives : HttpReply.Arrives ⟨200, type, Json.stringify format body⟩ response)
    (listed : body.EveryObject ListedKeys) :
    readRpcResponse parser conversions method requestId response =
      resultOf conversions method requestId body := by
  have success : response.ok = true := by
    rw [FetchResponse.ok, arrives.status]
    rfl
  rw [readRpcResponse, success, arrives.text, parser.parse_stringify body listed]

theorem readRpcResponse_failure {type : Option String} {body : JsonValue}
    (arrives : HttpReply.Arrives ⟨500, type, Json.stringify format body⟩ response)
    (listed : body.EveryObject ListedKeys) :
    readRpcResponse parser conversions method requestId response =
      .error (failureOf conversions method response body) := by
  have failure : response.ok = false := by
    rw [FetchResponse.ok, arrives.status]
    rfl
  rw [readRpcResponse, failure, arrives.text, parser.parse_stringify body listed]

/-- What the endpoint has set before it answers. -/
def OnlyExtensions (calls : List ResponseCall) : Prop :=
  ∀ call ∈ calls, ∃ activated, call = .setHeader "A2A-Extensions" activated

theorem ofCalls_extensions {calls : List ResponseCall} (preset : OnlyExtensions calls) (more : List ResponseCall) :
    HttpReply.ofCalls format (calls ++ more) = HttpReply.ofCalls format more := by
  induction calls with
  | nil => rfl
  | cons call rest ih =>
      obtain ⟨activated, rfl⟩ := preset call List.mem_cons_self
      exact ih fun other member => preset other (List.mem_cons_of_mem _ member)

/-- The bodies that go out are values of the language. -/
def BodiesListed (calls : List ResponseCall) : Prop :=
  ∀ statusCode body, .json statusCode body ∈ calls → body.EveryObject ListedKeys

/-- A reply goes out and comes in. -/
theorem arrives_reply {calls : List ResponseCall} (preset : OnlyExtensions calls) {statusCode : Int}
    {body : JsonValue}
    (arrives : (HttpReply.ofCalls format (calls ++ [.json statusCode body])).Arrives response) :
    HttpReply.Arrives ⟨statusCode, some "application/json; charset=utf-8", Json.stringify format body⟩ response := by
  rwa [ofCalls_extensions preset] at arrives

end Responses

/-- The one request of a call. -/
theorem parse_request (transport : JsonRpcTransport) {params : RpcParams}
    (listed : params.toJSON.EveryObject ListedKeys) :
    parser.parse (transport.send format params).1 =
      .ok (rpcRequest (methodName params.method) params.toJSON transport.requestIdCounter) :=
  parser.parse_stringify _ ⟨(by decide +kernel : ListedKeys ["jsonrpc", "method", "params", "id"]),
    trivial, trivial, listed, trivial, trivial⟩

/-- The request handler is given the parameters that were sent. -/
theorem serve_callOf (agent : RpcAgent) (params : RpcParams) (context : CallContext Unit) :
    (agent.serve conversions (callOf params context)).2 =
      (agent params.relayed (callOf params context).context).2.map params.relayed.encodeResult := by
  obtain ⟨tenant, read, whole⟩ := params.readText_tenant conversions
  have tenanted : readText conversions.printer [(callOf params context).tenant] = .ok tenant := read
  have given : (callOf params context).params.withTenant tenant = params.relayed := whole
  rw [RpcAgent.serve, tenanted]
  dsimp only
  rw [given]

/-- The response to a unary call. -/
theorem callHandler_response (agent : RpcAgent) (streaming : Except Thrown Bool) {params : RpcParams}
    (unary : params.method.streams = false) (requestId : JsonValue) (context : CallContext Unit) :
    (callHandler (agent.requestHandler streaming conversions) requestId params.method (some params.toJSON)
      (params.relayed.withTenant "") context).response =
        match (agent params.relayed (callOf params context).context).2 with
        | .ok result => .result requestId (params.relayed.encodeResult result)
        | .error thrown => .failed requestId (toJsonRpcError thrown) := by
  have served := serve_callOf conversions agent params context
  have given : (agent.requestHandler streaming conversions).serve {
      method := params.method
      tenant := (some params.toJSON).bind fun params => field params "tenant"
      params := params.relayed.withTenant ""
      context := (tenantContext (some params.toJSON) context).getD context } =
        agent.serve conversions (callOf params context) := rfl
  rw [callHandler, given, unary]
  cases ended : agent.serve conversions (callOf params context) with
  | mk updates settled =>
  rw [ended] at served
  dsimp only at served ⊢
  rw [served, if_neg Bool.false_ne_true]
  cases (agent params.relayed (callOf params context).context).2 with
  | ok result => rfl
  | error thrown => rfl

/-- A unary call over JSON-RPC is a call of the request handler. -/
theorem call_over_jsonRpc (agent : RpcAgent) {streaming : Except Thrown Bool}
    {server : Compat.JsonRpcServer RpcParams JsonValue JsonValue}
    (serves : server.requestHandler = agent.requestHandler streaming conversions) (legacyCompat : Bool)
    (transport : JsonRpcTransport) {params : RpcParams} (unary : params.method.streams = false)
    (listed : params.toJSON.EveryObject ListedKeys) {request : Compat.JsonRpcRequest}
    (read : parser.parse (transport.send format params).1 = .ok request.body) {calls : List ResponseCall}
    (preset : OnlyExtensions calls) (source : AsyncIterator StreamResponse Thrown) (fuel : Nat) :
    let outcome := Compat.jsonRpcHandler server legacyCompat request
    outcome.call = (server.buildContext false request).toOption.map (callOf params) ∧
    ∃ answered, currentAnswer Compat.openResponse format request.body source fuel calls outcome =
        some (.ok () answered) ∧
      ∀ response, BodiesListed answered → (HttpReply.ofCalls format answered).Arrives response →
        JsonRpcTransport.receive parser conversions (transport.send format params).2.1 params response =
          callDirectly conversions agent params (server.buildContext false request) := by
  rw [parse_request parser transport listed, Except.ok.injEq] at read
  dsimp only
  rw [jsonRpcHandler_current conversions serves legacyCompat read.symm]
  cases server.buildContext false request with
  | error thrown =>
      refine ⟨rfl, [.json 500 (Compat.rpcErrorResponse false request.body thrown)], rfl, ?_⟩
      intro response bodies arrives
      have readable := bodies _ _ List.mem_cons_self
      rw [JsonRpcTransport.receive, readRpcResponse_failure arrives readable]
      rfl
  | ok context =>
      have plain : dispatched conversions agent streaming params transport.requestIdCounter context =
          callHandler (agent.requestHandler streaming conversions) (.number transport.requestIdCounter) params.method
            (some params.toJSON) (params.relayed.withTenant "") context := by
        rw [dispatched, unary, if_neg Bool.false_ne_true]
      dsimp only
      rw [plain]
      refine ⟨rfl, ?_⟩
      dsimp only [currentAnswer, callDirectly]
      rw [callHandler_response conversions agent streaming unary]
      cases (agent params.relayed (callOf params context).context).2 with
      | error thrown =>
          refine ⟨_, rfl, ?_⟩
          intro response bodies arrives
          have readable := bodies _ _ (List.mem_append_right calls List.mem_cons_self)
          rw [JsonRpcTransport.receive, readRpcResponse_success (arrives_reply preset arrives) readable,
            resultOf_failed]
          rfl
      | ok result =>
          refine ⟨_, rfl, ?_⟩
          intro response bodies arrives
          have readable := bodies _ _ (List.mem_append_right calls List.mem_cons_self)
          have identified := @resultOf_result conversions (methodName params.method) transport.requestIdCounter
            (params.relayed.encodeResult result)
          rw [JsonRpcTransport.receive, readRpcResponse_success (arrives_reply preset arrives) readable,
            JsonRpcTransport.send, identified]
          exact params.decodeResult_encoded conversions result

section Sample

/-- A parser of the texts that `JSON.stringify` writes. -/
noncomputable def stringifyParser (format : NumberFormat) : JsonParser format where
  parse text :=
    open Classical in
    if written : ∃ value, Json.stringify format value = text then .ok written.choose else .error "Unexpected token"
  parse_stringify value _ := by
    have written : ∃ other, Json.stringify format other = Json.stringify format value := ⟨value, rfl⟩
    rw [dif_pos written, Json.stringify_injective format written.choose_spec]

def integerConversions : Conversions where
  printer := integerPrinter
  number value :=
    match value with
    | .number value => value.num
    | _ => 0
  number_integer _ := rfl
  bytes _ := .error .other

/-- A request handler that knows a task under every name. -/
def everyTask : (params : RpcParams) → Except Thrown params.Result
  | .getTask params => .ok ⟨params.id, "", none, [], [], none⟩
  | _ => .error (raised .unsupportedOperation "This agent has tasks only.")

def taskAgent : RpcAgent := fun params _ => ([], everyTask params)

def taskServer : Compat.JsonRpcServer RpcParams JsonValue JsonValue where
  userBuilder _ := .ok none
  supportedVersions := .ok ["1.0"]
  requestHandler := taskAgent.requestHandler (.ok true) integerConversions
  legacyFromJSON _ _ := .error .other
  toCompat _ result := .ok result

/-- A request to it, with this body. -/
def versionedRequest (body : JsonValue) : Compat.JsonRpcRequest where
  body
  requestedVersion := some "1.0"
  extensions := []
  legacyExtensions := none
  headers := .object []

def getTaskParams : RpcParams := .getTask ⟨"acme", "t1", some 2⟩

/-- What the server answers. -/
def getTaskReply : JsonValue :=
  .object [("jsonrpc", .string "2.0"), ("id", .number 1), ("result", .object [("id", .string "t1")])]

theorem call_over_jsonRpc_getTask :
    JsonRpcTransport.receive (stringifyParser decimalFormat) integerConversions 1 getTaskParams
        ⟨200, "OK", some "application/json; charset=utf-8", .object [], [Json.stringify decimalFormat getTaskReply]⟩ =
      .ok (⟨"t1", "", none, [], [], none⟩ : Task) := by
  have listed : getTaskParams.toJSON.EveryObject ListedKeys :=
    ⟨(by decide +kernel : ListedKeys ["tenant", "id", "historyLength"]), trivial, trivial, trivial, trivial⟩
  have preset : OnlyExtensions [] := fun _ absent => absurd absent List.not_mem_nil
  obtain ⟨-, answered, answer, ends⟩ := @call_over_jsonRpc decimalFormat (stringifyParser decimalFormat)
    integerConversions taskAgent (.ok true) taskServer rfl false ⟨"https://agent.example/", 1⟩ getTaskParams rfl listed
    (versionedRequest (rpcRequest "GetTask" getTaskParams.toJSON 1)) (parse_request _ _ listed) [] preset
    (.ofList [] none) 0
  obtain rfl : [.json 200 getTaskReply] = answered := by
    cases answer
    rfl
  have bodies : BodiesListed [.json 200 getTaskReply] := by
    intro statusCode body member
    cases List.mem_singleton.mp member
    exact ⟨(by decide +kernel : ListedKeys ["jsonrpc", "id", "result"]), trivial, trivial,
      ⟨(by decide +kernel : ListedKeys ["id"]), trivial, trivial⟩, trivial⟩
  exact ends _ bodies ⟨rfl, rfl, List.flatten_singleton⟩

end Sample

end Calls

end A2A.Client
