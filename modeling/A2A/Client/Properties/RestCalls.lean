import A2A.Client.Properties.JsonRpcCalls
import A2A.Client.Properties.RestQueries

namespace A2A.Server

open Library Errors Client

/-- The tenant of a call without a body, as its route reads it. -/
def Express.queryTenant : Express → String → String
  | .four, tenant => tenant
  | .five, _ => ""

/-- The query of a request, once a tenant has been put on it. -/
def Express.putTenant : Express → String → List (String × JsonValue) → List (String × JsonValue)
  | .four, tenant, query => OrderedMap.assign query "tenant" (.string tenant)
  | .five, _, query => query

namespace RpcParams

/-- The parameters on the other side of REST. -/
def overRest (express : Express) : RpcParams → RpcParams
  | sendMessage params => sendMessage params.relayed
  | sendMessageStream params => sendMessageStream params.relayed
  | resubscribe params => resubscribe { params with tenant := express.queryTenant params.tenant }
  | getTask params => getTask { params with tenant := express.queryTenant params.tenant }
  | listTasks params =>
      listTasks {
        params with
        tenant := express.queryTenant params.tenant
        statusTimestampAfter := orUndefined params.statusTimestampAfter
        includeArtifacts := some (params.includeArtifacts.getD false) }
  | cancelTask params =>
      cancelTask { params with tenant := express.queryTenant params.tenant, metadata := some .empty }
  | createTaskPushNotificationConfig params => createTaskPushNotificationConfig params
  | getTaskPushNotificationConfig params =>
      getTaskPushNotificationConfig { params with tenant := express.queryTenant params.tenant }
  | deleteTaskPushNotificationConfig params =>
      deleteTaskPushNotificationConfig { params with tenant := express.queryTenant params.tenant }
  | listTaskPushNotificationConfigs params =>
      listTaskPushNotificationConfigs {
        params with
        tenant := express.queryTenant params.tenant
        pageSize := 0
        pageToken := "" }

/-- What the caller gets over REST of what the request handler resolves with. -/
def restDelivered (express : Express) : (params : RpcParams) → (params.overRest express).Result → params.Result
  | sendMessage _, result => SendMessageResult.relayed result
  | sendMessageStream _, _ | resubscribe _, _ | deleteTaskPushNotificationConfig _, _ => ()
  | getTask _, task | cancelTask _, task => Task.relayed task
  | listTasks _, response => ListTasksResponse.relayed response
  | createTaskPushNotificationConfig _, config | getTaskPushNotificationConfig _, config => config
  | listTaskPushNotificationConfigs _, response => response

section Checks

variable {μ : Type} (server : RestServer μ)

def checkMessage : Option Message → Except Thrown Unit
  | none => .error (raised .requestMalformed "message is required")
  | some message =>
      if message.messageId = "" then .error (raised .requestMalformed "message.messageId is required") else .ok ()

/-- What the route of a call checks before it calls the request handler. -/
def checked : RpcParams → Except Thrown Unit
  | sendMessage params => checkMessage params.message
  | sendMessageStream params => do
      RestHandler.requireCapability server .streaming
      checkMessage params.message
  | resubscribe _ => RestHandler.requireCapability server .streaming
  | getTask params =>
      if params.historyLength.any (· < 0) then
        .error (raised .requestMalformed "historyLength must be non-negative")
      else .ok ()
  | createTaskPushNotificationConfig _ => RestHandler.requireCapability server .pushNotifications
  | _ => .ok ()

end Checks

end A2A.Server.RpcParams

namespace A2A.Client

open Library Errors Server

/-! A call of the REST client, from its parameters to what it resolves with.

It does what a call of the server's request handler would do in its place, with the parameters that REST
carries: some filters and the metadata of a cancellation get lost, and so does the tenant of a call without a
body, depending on the version of Express.
-/

section Routes

variable (express : Express) (call : RestCall) (request : HttpRequest)

/-- The request as it enters the route of a call. -/
def enteredRequest : RouteRequest := { request with params := RestCall.values call.names, bodyTenant := none }

/-- The request behind the middleware of the route. -/
def routedRequest : RouteRequest :=
  if call.tenant = "" then enteredRequest call request
  else {
    enteredRequest call request with
    bodyTenant := request.body.map fun _ => call.tenant
    query := express.putTenant call.tenant request.query }

variable {express call request}

theorem lookup_values (names : List (PathParam × String)) (name : PathParam) :
    (OrderedMap.lookup (RestCall.values names) name).map String.ofList = OrderedMap.lookup names name := by
  induction names with
  | nil => rfl
  | cons entry rest ih =>
      obtain ⟨other, text⟩ := entry
      rw [RestCall.values, List.map_cons, OrderedMap.lookup, OrderedMap.lookup]
      split
      · rw [Option.map_some, String.ofList_toList]
      · exact ih

theorem params_routed : (routedRequest express call request).params = RestCall.values call.names := by
  rw [routedRequest]
  split <;> rfl

theorem body_routed : (routedRequest express call request).body = request.body := by
  rw [routedRequest]
  split <;> rfl

theorem lookup_names (name : PathParam) :
    OrderedMap.lookup call.names name =
      if name = .tenant then (if call.tenant = "" then none else some call.tenant)
      else OrderedMap.lookup call.ids name := by
  have ids : OrderedMap.lookup call.ids .tenant = none := by
    cases call <;> rfl
  rw [RestCall.names]
  by_cases unnamed : call.tenant = ""
  · rw [if_pos unnamed, if_pos unnamed, List.nil_append]
    split
    · rename_i tenant
      rw [tenant, ids]
    · rfl
  · rw [if_neg unnamed, if_neg unnamed, List.singleton_append, OrderedMap.lookup]
    by_cases tenant : name = .tenant
    · rw [if_pos tenant, if_pos tenant.symm]
    · rw [if_neg tenant, if_neg (Ne.symm tenant)]

theorem param_routed (name : PathParam) :
    (routedRequest express call request).param name =
      if name = .tenant then (if call.tenant = "" then none else some call.tenant)
      else OrderedMap.lookup call.ids name := by
  rw [RouteRequest.param, params_routed, lookup_values, lookup_names]

theorem tenant_entered : orUndefined ((enteredRequest call request).param .tenant) = orUndefined (some call.tenant) := by
  have named : (enteredRequest call request).param .tenant = if call.tenant = "" then none else some call.tenant := by
    rw [RouteRequest.param, enteredRequest, lookup_values, lookup_names, if_pos rfl]
  rw [named]
  split
  · rename_i empty
    rw [empty]
    rfl
  · rfl

/-- The middleware puts the tenant on an object, if there is a body at all. -/
theorem tenantMiddleware_entered (printer : Printer)
    (objects : ∀ body, request.body = some body → ∃ fields, body = .object fields) :
    RestHandler.tenantMiddleware express printer (enteredRequest call request) =
      .ok (routedRequest express call request) := by
  rw [RestHandler.tenantMiddleware, tenant_entered, routedRequest]
  by_cases unnamed : call.tenant = ""
  · rw [if_pos unnamed, unnamed]
    rfl
  · have given : orUndefined (some call.tenant) = some call.tenant := by
      rw [orUndefined, Option.filter_some, if_pos (decide_eq_true unnamed)]
    have assigned : RestHandler.assignTenant printer call.tenant request.body =
        .ok (request.body.map fun _ => call.tenant) := by
      cases sent : request.body with
      | none => rfl
      | some body =>
          obtain ⟨fields, rfl⟩ := objects body sent
          rfl
    have body : (enteredRequest call request).body = request.body := rfl
    rw [if_neg unnamed, given]
    dsimp only
    rw [body, assigned]
    cases express <;> rfl

/-- The tenant that a route reads from the query. -/
theorem queryField_tenant (parsed : request.query = call.parsedQuery) :
    orEmpty ((routedRequest express call request).queryField "tenant") =
      .string (express.queryTenant call.tenant) := by
  have none : OrderedMap.lookup request.query "tenant" = none :=
    parsed ▸ OrderedMap.lookup_of_not_mem (tenant_not_mem_parsedQuery call)
  rw [RouteRequest.queryField, routedRequest]
  by_cases unnamed : call.tenant = ""
  · have plain : (enteredRequest call request).query = request.query := rfl
    rw [if_pos unnamed, plain, none, unnamed]
    cases express <;> rfl
  · rw [if_neg unnamed]
    cases express with
    | five =>
        dsimp only [Express.putTenant]
        rw [none]
        rfl
    | four =>
        dsimp only [Express.putTenant]
        rw [OrderedMap.lookup_assign, if_pos rfl, orEmpty]
        rw [if_pos (show isTruthy (.string call.tenant) = true from decide_eq_true unnamed)]
        rfl

theorem lookup_query_routed {key : String} (other : key ≠ "tenant") :
    OrderedMap.lookup (routedRequest express call request).query key = OrderedMap.lookup request.query key := by
  rw [routedRequest]
  split
  · rfl
  · cases express with
    | five => rfl
    | four =>
        dsimp only [Express.putTenant]
        rw [OrderedMap.lookup_assign, if_neg (Ne.symm other)]

/-- The tenant on the body is the one that the body has. -/
theorem bodyField_routed {body : JsonValue} (sent : request.body = some body)
    (tenanted : field body "tenant" = presentText call.tenant) (key : String) :
    (routedRequest express call request).bodyField key = field body key := by
  rw [RouteRequest.bodyField, body_routed, sent]
  by_cases unnamed : call.tenant = ""
  · have plain : (routedRequest express call request).bodyTenant = none := by
      rw [routedRequest, if_pos unnamed]
      rfl
    rw [plain, if_neg (by simp)]
    rfl
  · have put : (routedRequest express call request).bodyTenant = some call.tenant := by
      rw [routedRequest, if_neg unnamed, sent]
      rfl
    rw [put]
    by_cases tenant : key = "tenant"
    · rw [if_pos ⟨tenant, rfl⟩, tenant, tenanted, presentText, if_neg unnamed]
      rfl
    · rw [if_neg fun both => tenant both.1]
      rfl

end Routes

section Serving

variable {format : NumberFormat} (parser : JsonParser format) (language : QueryLanguage) (conversions : Conversions)

/-- What arrives for the request of a call where the routes are mounted at the client's endpoint. -/
structure RestArrival (mount : DotSegments.Mount) (params : RpcParams) (request : HttpRequest) : Prop where
  method : request.method = (RestTransport.callFor params).request.method
  path : mount.arriving (RestTransport.callFor params).request.path = some request.path
  query : request.query = language.parse (behindQuestionMark request.path)
  body : ∀ value, RestTransport.requestBody params = some value →
    ∃ body, parser.parse (Json.stringify format value) = .ok body ∧ request.body = some body
  /-- Some versions of the body parser put an empty object for no body. -/
  noBody : RestTransport.requestBody params = none → request.body = none ∨ request.body = some (.object [])

variable {express : Express} {mount : DotSegments.Mount} {params : RpcParams} {request : HttpRequest}
  {server : RestServer SendMessageRequest}

theorem readText_messageId (printer : Printer) (message : Message) :
    readText printer [field message.toJSON "messageId", field message.toJSON "message_id"] =
      .ok message.messageId := by
  have read : ∀ key, field message.toJSON key = _ := field_ofEntries (by simp)
  simp [read, OrderedMap.lookup]

theorem validateSendMessageRequest_toJSON (printer : Printer) (message : Option Message) :
    RestHandler.validateSendMessageRequest printer (message.map Message.toJSON) = RpcParams.checkMessage message := by
  cases message with
  | none => rfl
  | some message =>
      have present : message.toJSON ≠ .null := ofEntries_ne_null _
      rw [RestHandler.validateSendMessageRequest, Option.map_some, firstSet_some present]
      dsimp only
      rw [readText_messageId]
      rfl

theorem fields_sendMessage (params : SendMessageRequest) :
    field params.toJSON "tenant" = presentText params.tenant ∧
      field params.toJSON "message" = params.message.map Message.toJSON := by
  have read : ∀ key, field params.toJSON key = _ := field_ofEntries (by simp)
  exact ⟨read "tenant", read "message"⟩

theorem readContent_toJSON (params : SendMessageRequest) :
    RestHandler.readContent conversions (some params.toJSON) = .ok { params.relayed with tenant := "" } := by
  have read := SendMessageRequest.fromJSON_toJSON conversions params
  have given : RestHandler.readContent conversions (some params.toJSON) =
      (SendMessageRequest.fromJSON conversions params.toJSON).map fun params => { params with tenant := "" } := rfl
  rw [given, read]
  rfl

theorem mapM_parseHistoryLength (printer : Printer) (historyLength : Option Int) :
    ((historyLength.map toString).map JsonValue.string).mapM (parseHistoryLength printer) =
      if historyLength.any (· < 0) then .error (raised .requestMalformed "historyLength must be non-negative")
      else .ok historyLength := by
  cases historyLength with
  | none => rfl
  | some value =>
      have read : parseHistoryLength printer (.string (toString value)) =
          if value < 0 then .error (raised .requestMalformed "historyLength must be non-negative") else .ok value := by
        have text : toText printer (.string (toString value)) = .ok (toString value) := rfl
        rw [parseHistoryLength, text]
        · dsimp only [bind, Except.bind]
          rw [Decimal.parseInt_toString_int]
          rfl
        · exact fun same => by cases same
      rw [Option.map_some, Option.map_some, Option.mapM_some, read, Option.any_some]
      by_cases negative : value < 0
      · rw [if_pos negative, if_pos (decide_eq_true negative)]
        rfl
      · rw [if_neg negative, if_neg (by simpa using negative)]
        rfl

variable {parser language}

theorem body_arrived (arrives : RestArrival parser language mount params request) {value : JsonValue}
    (sent : RestTransport.requestBody params = some value) (listed : value.EveryObject ListedKeys) :
    request.body = some value := by
  obtain ⟨body, read, carried⟩ := arrives.body value sent
  rw [parser.parse_stringify value listed, Except.ok.injEq] at read
  rw [carried, read]

theorem path_arrived (arrives : RestArrival parser language mount params request)
    (named : (RestTransport.callFor params).Named) (dotless : ¬ (RestTransport.callFor params).Dotted) :
    request.path = (RestTransport.callFor params).request.path := by
  have path := arrives.path
  rw [RestCall.arriving_request mount named dotless, Option.some.injEq] at path
  exact path.symm

theorem query_arrived (arrives : RestArrival parser language mount params request)
    (named : (RestTransport.callFor params).Named) (dotless : ¬ (RestTransport.callFor params).Dotted) :
    request.query = (RestTransport.callFor params).parsedQuery := by
  rw [arrives.query, path_arrived arrives named dotless, parse_request_query language named]

variable (language)

/-- The route of a call does what it has to check, and then makes the call of the request handler. -/
def Serves (express : Express) (server : RestServer SendMessageRequest) (params : RpcParams) (request : RouteRequest) :
    Prop :=
  ∃ tenant content, RestTransportHandler.params language params.method (queryText tenant) content =
      some (params.overRest express) ∧
    RestHandler.serve conversions.printer server request params.method =
      (do
        let context ← RestHandler.buildContext server request
        params.checked server
        return ⟨params.method, tenant, content, context⟩)

variable {conversions}

section Methods

variable {routed : RouteRequest}

theorem serves_message {params : SendMessageRequest} (contents : server.content = RestHandler.readContent conversions)
    (sent : routed.body = some params.toJSON) (reads : ∀ key, routed.bodyField key = field params.toJSON key) :
    Serves language conversions express server (.sendMessage params) routed ∧
      Serves language conversions express server (.sendMessageStream params) routed := by
  obtain ⟨tenanted, messages⟩ := fields_sendMessage params
  have tenant : readText conversions.printer [routed.bodyField "tenant"] = .ok params.tenant := by
    rw [reads, tenanted, readText_present]
  have content : server.content routed.body = .ok { params.relayed with tenant := "" } := by
    rw [contents, sent, readContent_toJSON]
  have valid : RestHandler.validateSendMessageRequest conversions.printer (routed.bodyField "message") =
      RpcParams.checkMessage params.message := by
    rw [reads, messages, validateSendMessageRequest_toJSON]
  refine ⟨⟨some (.string params.tenant), .message { params.relayed with tenant := "" }, rfl, ?_⟩,
    ⟨some (.string params.tenant), .message { params.relayed with tenant := "" }, rfl, ?_⟩⟩
  · dsimp only [RestHandler.serve, RpcParams.method, RpcParams.checked]
    rw [tenant, content, valid]
    rfl
  · dsimp only [RestHandler.serve, RpcParams.method, RpcParams.checked]
    rw [tenant, content, valid]
    cases RestHandler.requireCapability server .streaming <;> rfl

theorem serves_create {params : TaskPushNotificationConfig}
    (reads : ∀ key, routed.bodyField key = field params.toJSON key) :
    Serves language conversions express server (.createTaskPushNotificationConfig params) routed := by
  have config : readConfig conversions.printer routed.bodyField = .ok params := by
    rw [funext reads]
    exact TaskPushNotificationConfig.fromJSON_toJSON conversions params
  refine ⟨some (.string params.tenant), .config params, rfl, ?_⟩
  dsimp only [RestHandler.serve, RpcParams.method, RpcParams.checked]
  rw [config]
  rfl

theorem serves_getTask {params : GetTaskRequest}
    (tenant : orEmpty (routed.queryField "tenant") = .string (express.queryTenant params.tenant))
    (id : routed.param .taskId = some params.id)
    (historyLength : routed.queryField "historyLength" = (params.historyLength.map toString).map .string) :
    Serves language conversions express server (.getTask params) routed := by
  refine ⟨some (.string (express.queryTenant params.tenant)), .task params.id params.historyLength, rfl, ?_⟩
  dsimp only [RestHandler.serve, RpcParams.method, RpcParams.checked]
  rw [tenant, id, historyLength, mapM_parseHistoryLength]
  split <;> rfl

theorem serves_task (params : SubscribeToTaskRequest)
    (tenant : orEmpty (routed.queryField "tenant") = .string (express.queryTenant params.tenant))
    (id : routed.param .taskId = some params.id) (metadata : Option Metadata) :
    Serves language conversions express server (.resubscribe params) routed ∧
      Serves language conversions express server (.cancelTask ⟨params.tenant, params.id, metadata⟩) routed := by
  refine ⟨⟨some (.string (express.queryTenant params.tenant)), .task params.id none, rfl, ?_⟩,
    ⟨some (.string (express.queryTenant params.tenant)), .task params.id none, rfl, ?_⟩⟩
  · dsimp only [RestHandler.serve, RpcParams.method, RpcParams.checked]
    rw [tenant, id]
    rfl
  · dsimp only [RestHandler.serve, RpcParams.method, RpcParams.checked]
    rw [tenant, id]
    rfl

theorem serves_listTasks {params : ListTasksRequest}
    (tenant : orEmpty (routed.queryField "tenant") = .string (express.queryTenant params.tenant))
    (reads : ∀ key, key ≠ "tenant" →
      OrderedMap.lookup routed.query key = OrderedMap.lookup (RestCall.listTasks params).parsedQuery key) :
    Serves language conversions express server (.listTasks params) routed := by
  refine ⟨some (.string (express.queryTenant params.tenant)), .list routed.query, ?_, ?_⟩
  · dsimp only [RestTransportHandler.params, RpcParams.method, RpcParams.overRest]
    rw [listTasksParams_given language params _ reads]
    rfl
  · dsimp only [RestHandler.serve, RpcParams.method, RpcParams.checked]
    rw [tenant]
    rfl

theorem serves_configOf {params : TaskPushNotificationConfigRequest}
    (tenant : orEmpty (routed.queryField "tenant") = .string (express.queryTenant params.tenant))
    (taskId : routed.param .taskId = some params.taskId) (id : routed.param .configId = some params.id) :
    Serves language conversions express server (.getTaskPushNotificationConfig params) routed ∧
      Serves language conversions express server (.deleteTaskPushNotificationConfig params) routed := by
  refine ⟨⟨some (.string (express.queryTenant params.tenant)), .configOf params.taskId params.id, rfl, ?_⟩,
    ⟨some (.string (express.queryTenant params.tenant)), .configOf params.taskId params.id, rfl, ?_⟩⟩
  · dsimp only [RestHandler.serve, RpcParams.method, RpcParams.checked]
    rw [tenant, taskId, id]
    rfl
  · dsimp only [RestHandler.serve, RpcParams.method, RpcParams.checked]
    rw [tenant, taskId, id]
    rfl

theorem serves_configsOf {params : ListTaskPushNotificationConfigsRequest}
    (tenant : orEmpty (routed.queryField "tenant") = .string (express.queryTenant params.tenant))
    (taskId : routed.param .taskId = some params.taskId) :
    Serves language conversions express server (.listTaskPushNotificationConfigs params) routed := by
  refine ⟨some (.string (express.queryTenant params.tenant)), .configsOf params.taskId, rfl, ?_⟩
  dsimp only [RestHandler.serve, RpcParams.method, RpcParams.checked]
  rw [tenant, taskId]
  rfl

end Methods

theorem serves_routed (contents : server.content = RestHandler.readContent conversions)
    (arrives : RestArrival parser language mount params request) (named : (RestTransport.callFor params).Named)
    (dotless : ¬ (RestTransport.callFor params).Dotted)
    (listed : ∀ value, RestTransport.requestBody params = some value → value.EveryObject ListedKeys) :
    Serves language conversions express server params
      (routedRequest express (RestTransport.callFor params) request) := by
  have parsed := query_arrived arrives named dotless
  have tenant := @queryField_tenant express _ _ parsed
  have ids := @param_routed express (RestTransport.callFor params) request
  have given (value : JsonValue) (sent : RestTransport.requestBody params = some value) := by
    exact body_arrived arrives sent (listed value sent)
  cases params with
  | sendMessage params =>
      have sent := given _ rfl
      have reads := @bodyField_routed express (.sendMessage params.tenant) request _ sent (fields_sendMessage params).1
      exact (serves_message language contents (body_routed.trans sent) reads).1
  | sendMessageStream params =>
      have sent := given _ rfl
      have reads := @bodyField_routed express (.sendMessageStream params.tenant) request _ sent
        (fields_sendMessage params).1
      exact (serves_message language contents (body_routed.trans sent) reads).2
  | createTaskPushNotificationConfig params =>
      have tenanted : field params.toJSON "tenant" = presentText params.tenant := field_ofEntries (by simp) "tenant"
      exact serves_create language (bodyField_routed (given _ rfl) tenanted)
  | getTask params =>
      refine serves_getTask language tenant (ids .taskId) ?_
      rw [RouteRequest.queryField, lookup_query_routed (by decide), parsed, RestCall.parsedQuery]
      exact (lookup_setIfPresent _ _ _).trans (if_pos rfl)
  | resubscribe params => exact (serves_task language params tenant (ids .taskId) none).1
  | cancelTask params =>
      exact (serves_task language ⟨params.tenant, params.id⟩ tenant (ids .taskId) params.metadata).2
  | listTasks params =>
      refine serves_listTasks language tenant ?_
      intro key other
      rw [lookup_query_routed other, parsed]
      rfl
  | getTaskPushNotificationConfig params =>
      exact (serves_configOf language tenant (ids .taskId) (ids .configId)).1
  | deleteTaskPushNotificationConfig params =>
      exact (serves_configOf language tenant (ids .taskId) (ids .configId)).2
  | listTaskPushNotificationConfigs params => exact serves_configsOf language tenant (ids .taskId)

end Serving

section Calls

variable {format : NumberFormat} (parser : JsonParser format) (language : QueryLanguage) (conversions : Conversions)
  (express : Express) (server : RestServer SendMessageRequest)

/-- The call of the request handler that comes of a request. -/
def rpcCallOf : RestOutcome SendMessageRequest → Option (RpcParams × CallContext Unit)
  | .called call =>
      (RestTransportHandler.params language call.method (queryText call.tenant) call.params).map (·, call.context)
  | _ => none

/-- The context in which the route of a call makes its call of the request handler, unless the request is refused. -/
def admitted (params : RpcParams) (request : HttpRequest) : Except Thrown (CallContext Unit) := do
  let context ← RestHandler.buildContext server (routedRequest express (RestTransport.callFor params) request)
  params.checked server
  return context

/-- The call as it would end without a wire in between, but for what the wire does not carry. -/
def endedDirectly (agent : RpcAgent) (params : RpcParams) (request : HttpRequest) :
    Except Thrown (params.overRest express).Result := do
  let context ← admitted express server params request
  (agent (params.overRest express) context).2

/-- What the caller gets of an error of the server, given the response that it came with. -/
def restReceived (response : FetchResponse) (thrown : Thrown) : ClientError :=
  RestTransport.restError conversions.printer response (toRestErrorBody thrown (restStatusFor thrown))

/-- The error does not go out under a status of success. -/
def Failing (thrown : Thrown) : Prop := restStatusFor thrown < 200 ∨ 299 < restStatusFor thrown

/-- The body that goes out, if any, is a value of the language. -/
def HttpReply.Listed (format : NumberFormat) (reply : HttpReply) : Prop :=
  ∀ body, reply.text = Json.stringify format body → body.EveryObject ListedKeys

section Dispatching

variable {parser language conversions express server} {mount : DotSegments.Mount} {params : RpcParams}
  {request : HttpRequest}

theorem callFor_operation (params : RpcParams) : (RestTransport.callFor params).operation = params.method := by
  cases params <;> rfl

theorem objects_arrived (arrives : RestArrival parser language mount params request)
    (listed : ∀ value, RestTransport.requestBody params = some value → value.EveryObject ListedKeys) :
    ∀ body, request.body = some body → ∃ fields, body = .object fields := by
  intro body carried
  cases sent : RestTransport.requestBody params with
  | none =>
      rcases arrives.noBody sent with absent | empty
      · rw [absent] at carried
        cases carried
      · rw [empty, Option.some.injEq] at carried
        exact ⟨[], carried.symm⟩
  | some value =>
      rw [body_arrived arrives sent (listed value sent), Option.some.injEq] at carried
      subst carried
      cases params <;> cases sent <;> exact ⟨_, rfl⟩

/-- A request of this client in the routes of today's protocol. -/
theorem restHandler_arrived (contents : server.content = RestHandler.readContent conversions) {legacyCompat : Bool}
    (arrives : RestArrival parser language mount params request) (named : (RestTransport.callFor params).Named)
    (dotless : ¬ (RestTransport.callFor params).Dotted) (reaches : ¬ (RestTransport.callFor params).Captured)
    (listed : ∀ value, RestTransport.requestBody params = some value → value.EveryObject ListedKeys)
    (current : (legacyCompat && Compat.isLegacyVersion ((orUndefined request.requestedVersion).getD "0.3")) = false) :
    ∃ tenant content, RestTransportHandler.params language params.method (queryText tenant) content =
        some (params.overRest express) ∧
      Compat.restHandler express conversions.printer legacyCompat server request =
        match admitted express server params request with
        | .ok context => .called ⟨params.method, tenant, content, context⟩
        | .error thrown => .thrown thrown := by
  obtain ⟨tenant, content, handed, serves⟩ := @serves_routed format parser language conversions express
    mount params request server contents arrives named dotless listed
  have routed : Compat.routeRest legacyCompat request =
      (.current, .handled params.method (RestCall.values (RestTransport.callFor params).names)) := by
    have reached := (RestCall.route_request named).trans ((RestCall.route_pieces _).mpr reaches)
    rw [Compat.routeRest, current, arrives.method, path_arrived arrives named dotless, reached, callFor_operation]
    rfl
  refine ⟨tenant, content, handed, ?_⟩
  have entered := @tenantMiddleware_entered express (RestTransport.callFor params) request conversions.printer
    (objects_arrived arrives listed)
  have served : Compat.serveRest express conversions.printer server
      (enteredRequest (RestTransport.callFor params) request) params.method .current =
        RestHandler.serve conversions.printer server
          (routedRequest express (RestTransport.callFor params) request) params.method := by
    rw [Compat.serveRest, entered]
    rfl
  rw [enteredRequest] at served
  rw [Compat.restHandler, routed]
  dsimp only
  rw [served, serves, admitted]
  cases RestHandler.buildContext server (routedRequest express (RestTransport.callFor params) request) with
  | error thrown => rfl
  | ok context => cases params.checked server <;> rfl

end Dispatching

section Answers

variable {parser conversions express} {params : RpcParams} {response : FetchResponse}

theorem decodeBody_encoded (params : RpcParams) (result : (params.overRest express).Result) :
    RestTransport.decodeBody conversions ((params.overRest express).encodeResult result) params =
      .ok (params.restDelivered express result) := by
  cases params with
  | sendMessage params =>
      have encoded : (RpcParams.overRest express (.sendMessage params)).encodeResult result =
          SendMessageResponse.toJSON ⟨some result⟩ := by
        cases result <;> rfl
      have read := SendMessageResponse.fromJSON_toJSON conversions result
      rw [encoded, RestTransport.decodeBody, read]
      rfl
  | sendMessageStream | resubscribe | deleteTaskPushNotificationConfig => rfl
  | getTask | cancelTask =>
      exact congrArg (Except.mapError thrownBy) (Task.fromJSON_toJSON conversions result)
  | listTasks params =>
      exact congrArg (Except.mapError thrownBy) (ListTasksResponse.fromJSON_serialized conversions result _)
  | createTaskPushNotificationConfig | getTaskPushNotificationConfig =>
      exact congrArg (Except.mapError thrownBy) (TaskPushNotificationConfig.fromJSON_toJSON conversions result)
  | listTaskPushNotificationConfigs =>
      exact congrArg (Except.mapError thrownBy)
        (ListTaskPushNotificationConfigsResponse.fromJSON_toJSON conversions result)

/-- Every method but one reads a body. -/
theorem receive_read (reading : params.method ≠ .deleteTaskPushNotificationConfig) :
    RestTransport.receive parser conversions params response =
      match RestTransport.readResponse parser conversions (RestTransport.callFor params).request.path response with
      | .error error => .error error
      | .ok none => RestTransport.withoutBody params
      | .ok (some body) => (RestTransport.decodeBody conversions body params).map some := by
  cases params with
  | deleteTaskPushNotificationConfig params => exact absurd rfl reading
  | _ => rfl

theorem successStatus_filled {method : HandlerMethod} (reading : method ≠ .deleteTaskPushNotificationConfig) :
    RestHandler.successStatus method ≠ 204 := by
  cases method <;> first | decide | exact absurd rfl reading

theorem receive_ok (result : (params.overRest express).Result)
    (arrives : (RestHandler.sendResponse format params.method
      ((params.overRest express).encodeResult result)).Arrives response)
    (listed : (RestHandler.sendResponse format params.method
      ((params.overRest express).encodeResult result)).Listed format) :
    RestTransport.receive parser conversions params response = .ok (some (params.restDelivered express result)) := by
  have success : response.ok = true := by
    rw [FetchResponse.ok, arrives.status]
    cases params <;> rfl
  by_cases reading : params.method = .deleteTaskPushNotificationConfig
  · cases params with
    | deleteTaskPushNotificationConfig params =>
        rw [RestTransport.receive, success]
        rfl
    | _ => cases reading
  · have filled := successStatus_filled reading
    have text : (RestHandler.sendResponse format params.method ((params.overRest express).encodeResult result)).text =
        Json.stringify format ((params.overRest express).encodeResult result) := if_neg filled
    have status : response.status ≠ 204 := arrives.status.trans_ne filled
    have read : parser.parse response.text = .ok ((params.overRest express).encodeResult result) := by
      rw [arrives.text, text, parser.parse_stringify _ (listed _ text)]
    rw [receive_read reading, RestTransport.readResponse, if_pos success, if_neg status, read]
    dsimp only
    rw [decodeBody_encoded]
    rfl

theorem handleErrorResponse_arrived {thrown : Thrown} {path : List Char}
    (arrives : (RestHandler.handleError format thrown).Arrives response)
    (listed : (RestHandler.handleError format thrown).Listed format) :
    RestTransport.handleErrorResponse conversions.printer parser path response =
      restReceived conversions response thrown := by
  have text : response.text = Json.stringify format (toHTTPError thrown (restStatusFor thrown)) := arrives.text
  have filled : response.text ≠ [] := by
    rw [text, toHTTPError, Json.stringify]
    exact List.cons_ne_nil _ _
  have carried : RestTransport.errorStatusOf parser response =
      some (toRestErrorBody thrown (restStatusFor thrown)) := by
    rw [RestTransport.errorStatusOf, if_neg filled, text, parser.parse_stringify _ (listed _ rfl)]
    rfl
  rw [RestTransport.handleErrorResponse, carried]
  rfl

theorem ok_failing {thrown : Thrown} (failing : Failing thrown)
    (arrives : (RestHandler.handleError format thrown).Arrives response) : response.ok = false := by
  have status : response.status = restStatusFor thrown := arrives.status
  rw [FetchResponse.ok, status, Bool.and_eq_false_iff, decide_eq_false_iff_not, decide_eq_false_iff_not]
  rcases failing with low | high
  · exact .inl (by omega)
  · exact .inr (by omega)

theorem receive_failing {thrown : Thrown} (failing : Failing thrown)
    (arrives : (RestHandler.handleError format thrown).Arrives response)
    (listed : (RestHandler.handleError format thrown).Listed format) :
    RestTransport.receive parser conversions params response = .error (restReceived conversions response thrown) := by
  have failure := ok_failing failing arrives
  by_cases reading : params.method = .deleteTaskPushNotificationConfig
  · cases params with
    | deleteTaskPushNotificationConfig params =>
        rw [RestTransport.receive, failure]
        exact congrArg Except.error (handleErrorResponse_arrived arrives listed)
    | _ => cases reading
  · rw [receive_read reading, RestTransport.readResponse, if_neg (by simp [failure]),
      handleErrorResponse_arrived arrives listed]

end Answers

/-- A unary call over REST is a call of the request handler, with what REST carries of its parameters. -/
theorem call_over_rest (agent : RpcAgent) (contents : server.content = RestHandler.readContent conversions)
    {legacyCompat : Bool} {params : RpcParams} (unary : params.method.streams = false)
    (named : (RestTransport.callFor params).Named) (dotless : ¬ (RestTransport.callFor params).Dotted)
    (reaches : ¬ (RestTransport.callFor params).Captured)
    (listed : ∀ value, RestTransport.requestBody params = some value → value.EveryObject ListedKeys)
    {mount : DotSegments.Mount} {request : HttpRequest} (arrives : RestArrival parser language mount params request)
    (current : (legacyCompat && Compat.isLegacyVersion ((orUndefined request.requestedVersion).getD "0.3")) = false)
    (source : AsyncIterator StreamResponse Thrown) (fuel : Nat) :
    let outcome := Compat.restHandler express conversions.printer legacyCompat server request
    rpcCallOf language outcome =
      (admitted express server params request).toOption.map (params.overRest express, ·) ∧
    ∃ reply, RestHandler.answer format Compat.openResponse language agent source fuel outcome = some reply ∧
      ∀ response, reply.Listed format → reply.Arrives response →
        (∀ thrown, endedDirectly express server agent params request = .error thrown → Failing thrown) →
        RestTransport.receive parser conversions params response =
          match endedDirectly express server agent params request with
          | .ok result => .ok (some (params.restDelivered express result))
          | .error thrown => .error (restReceived conversions response thrown) := by
  obtain ⟨tenant, content, handed, dispatched⟩ := @restHandler_arrived format parser language conversions express
    server mount params request contents legacyCompat arrives named dotless reaches listed current
  dsimp only
  rw [dispatched, endedDirectly]
  cases admitted express server params request with
  | error thrown =>
      refine ⟨rfl, _, rfl, ?_⟩
      intro response bodies answered failing
      exact receive_failing (failing thrown rfl) answered bodies
  | ok context =>
      refine ⟨congrArg (Option.map (·, context)) handed, ?_⟩
      dsimp only [RestHandler.answer, bind, Except.bind]
      rw [handed]
      dsimp only
      rw [unary, if_neg Bool.false_ne_true]
      cases (agent (params.overRest express) context).2 with
      | ok result =>
          refine ⟨_, rfl, ?_⟩
          intro response bodies answered _
          exact receive_ok result answered bodies
      | error thrown =>
          refine ⟨_, rfl, ?_⟩
          intro response bodies answered failing
          exact receive_failing (failing thrown rfl) answered bodies

section Sample

/-- A request handler that knows a task under every name, and tells the tenant that asks for it. -/
def tenantTask : (params : RpcParams) → Except Thrown params.Result
  | .getTask params => .ok ⟨params.id, params.tenant, none, [], [], none⟩
  | _ => .error (raised .unsupportedOperation "This agent has tasks only.")

def tenantAgent : RpcAgent := fun params _ => ([], tenantTask params)

def restServer : RestServer SendMessageRequest where
  userBuilder _ := .ok none
  validateVersion _ := .ok ()
  capabilities _ := .ok true
  content := RestHandler.readContent integerConversions
  checked := .ok

def getTaskRequest : HttpRequest where
  method := .get
  path := "/acme/tasks/t1?historyLength=2".toList
  query := [("historyLength", .string "2")]
  body := none
  extensions := none
  requestedVersion := some "1.0"
  headers := .object []

theorem getTaskRequest_path : getTaskRequest.path = (RestTransport.callFor getTaskParams).request.path := by
  decide +kernel

theorem getTaskRequest_arrives :
    RestArrival (stringifyParser decimalFormat) formLanguage RestCall.restMount getTaskParams getTaskRequest where
  method := rfl
  path := by
    rw [getTaskRequest_path]
    exact RestCall.arriving_request RestCall.restMount (by decide) (by decide)
  query := by
    rw [getTaskRequest_path, parse_request_query formLanguage (by decide)]
    rfl
  body _ sent := by cases sent
  noBody _ := .inl rfl

/-- With Express 5 the request handler is not told the tenant. -/
theorem call_over_rest_getTask :
    RestTransport.receive (stringifyParser decimalFormat) integerConversions getTaskParams
        ⟨200, "OK", some "application/a2a+json; charset=utf-8", .object [],
          [Json.stringify decimalFormat (.object [("id", .string "t1")])]⟩ =
      .ok (some (⟨"t1", "", none, [], [], none⟩ : Task)) := by
  have listed (value : JsonValue) (sent : RestTransport.requestBody getTaskParams = some value) :
      value.EveryObject ListedKeys := by
    cases sent
  have reaches : ¬ (RestTransport.callFor getTaskParams).Captured := fun captured => absurd captured.1 (by decide)
  obtain ⟨-, reply, answered, ends⟩ := @call_over_rest decimalFormat (stringifyParser decimalFormat) formLanguage
    integerConversions .five restServer tenantAgent rfl false getTaskParams rfl (by decide) (by decide) reaches
    listed RestCall.restMount getTaskRequest getTaskRequest_arrives rfl (.ofList [] none) 0
  obtain ⟨tenant, content, handed, dispatched⟩ := @restHandler_arrived decimalFormat (stringifyParser decimalFormat)
    formLanguage integerConversions .five restServer RestCall.restMount getTaskParams getTaskRequest rfl false
    getTaskRequest_arrives (by decide) (by decide) reaches listed rfl
  obtain ⟨context, admits⟩ : ∃ context, admitted .five restServer getTaskParams getTaskRequest = .ok context := ⟨_, rfl⟩
  have ended : endedDirectly .five restServer tenantAgent getTaskParams getTaskRequest =
      .ok (⟨"t1", "", none, [], [], none⟩ : Task) := by
    rw [endedDirectly, admits]
    rfl
  rw [dispatched, admits] at answered
  dsimp only [RestHandler.answer] at answered
  rw [handed] at answered
  obtain rfl : RestHandler.sendResponse decimalFormat .getTask (.object [("id", .string "t1")]) = reply :=
    Option.some.inj answered
  have bodies : HttpReply.Listed decimalFormat
      (RestHandler.sendResponse decimalFormat .getTask (.object [("id", .string "t1")])) := by
    intro body same
    cases Json.stringify_injective decimalFormat same
    exact ⟨(by decide +kernel : ListedKeys ["id"]), trivial, trivial⟩
  rw [ended] at ends
  refine ends _ bodies ⟨rfl, by decide +kernel, List.flatten_singleton⟩ ?_
  intro thrown failed
  cases failed

end Sample

end Calls

end A2A.Client
