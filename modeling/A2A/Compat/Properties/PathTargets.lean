import A2A.Compat.RestHandler
import A2A.Library.Codec

namespace A2A.Compat

open Library Router Errors Server

/-! The task, the configuration and the tenant that the path of a REST request names, and those
that the call of the request handler is about.
-/

variable {μ : Type}

section Parameters

/-- The ids that the routes of an operation take from the path. -/
def carried : HandlerMethod → List PathParam
  | .getAuthenticatedExtendedAgentCard | .sendMessage | .sendMessageStream | .listTasks => []
  | .resubscribe | .cancelTask | .getTask | .createTaskPushNotificationConfig
  | .listTaskPushNotificationConfigs => [.taskId]
  | .getTaskPushNotificationConfig | .deleteTaskPushNotificationConfig => [.taskId, .configId]

theorem names_current : ∀ route ∈ RestHandler.routes,
    names route.path = carried route.handler ∨ names route.path = .tenant :: carried route.handler := by
  decide

theorem names_legacy : ∀ route ∈ LegacyRest.routes, names route.path = carried route.handler := by
  decide

/-- What a request is like in a route that has matched it. -/
structure Matched (router : RestRouter) (method : HandlerMethod) (request : RouteRequest) : Prop where
  named : request.params.map Prod.fst = carried method ∨
    router = .current ∧ request.params.map Prod.fst = .tenant :: carried method
  given : ∀ name value, request.param name = some value → value ≠ ""

namespace Matched

variable {router : RestRouter} {method : HandlerMethod} {request : RouteRequest}

theorem isSome_param (matched : Matched router method request) (name : PathParam) (id : name ≠ .tenant) :
    (request.param name).isSome = true ↔ name ∈ carried method := by
  rw [RouteRequest.param, Option.isSome_map, OrderedMap.isSome_lookup]
  rcases matched.named with named | ⟨_, named⟩
  · rw [named]
  · rw [named, List.mem_cons]
    exact ⟨fun member => member.resolve_left id, .inr⟩

theorem legacy_tenant (matched : Matched .legacy method request) : request.param .tenant = none := by
  have absent : .tenant ∉ carried method := by cases method <;> decide
  rw [RouteRequest.param, Option.map_eq_none_iff, ← Option.not_isSome_iff_eq_none,
    OrderedMap.isSome_lookup]
  rcases matched.named with named | ⟨current, _⟩
  · rw [named]
    exact absent
  · exact nomatch current

end Matched

theorem matched_of_dispatch {request : HttpRequest} {routes : List RestRoute} {method : HandlerMethod}
    {params : List (PathParam × List Char)}
    (handled : routeRequest routes request.method request.path = .handled method params) :
    (∃ route ∈ routes, route.handler = method ∧ params.map Prod.fst = names route.path) ∧
      ∀ entry ∈ params, entry.2 ≠ [] := by
  unfold routeRequest at handled
  split at handled
  · exact dispatch_params handled
  · exact nomatch handled

/-- The request as the route with these parameters sees it. -/
def inRoute (request : HttpRequest) (params : List (PathParam × List Char)) : RouteRequest :=
  { request with params, bodyTenant := none }

theorem given_of_filled {request : HttpRequest} {params : List (PathParam × List Char)}
    (filled : ∀ entry ∈ params, entry.2 ≠ []) :
    ∀ name value, (inRoute request params).param name = some value → value ≠ "" := by
  intro name value found
  obtain ⟨text, listed, rfl⟩ := Option.map_eq_some_iff.mp found
  intro empty
  refine filled _ (OrderedMap.mem_of_lookup listed) ?_
  rw [← @String.toList_ofList text, empty]
  rfl

theorem matched_of_routeRest {legacyCompat : Bool} {request : HttpRequest} {router : RestRouter}
    {method : HandlerMethod} {params : List (PathParam × List Char)}
    (routed : routeRest legacyCompat request = (router, .handled method params)) :
    Matched router method (inRoute request params) := by
  have current : routeRequest RestHandler.routes request.method request.path = .handled method params →
      Matched .current method (inRoute request params) := by
    intro handled
    obtain ⟨⟨route, listed, rfl, named⟩, filled⟩ := matched_of_dispatch handled
    refine ⟨?_, given_of_filled filled⟩
    rcases names_current route listed with bare | tenanted
    · exact .inl (named.trans bare)
    · exact .inr ⟨rfl, named.trans tenanted⟩
  unfold routeRest at routed
  dsimp only at routed
  split at routed
  · split at routed
    · obtain ⟨rfl, handled⟩ := Prod.mk.inj routed
      exact current handled
    · obtain ⟨rfl, handled⟩ := Prod.mk.inj routed
      obtain ⟨⟨route, listed, rfl, named⟩, filled⟩ := matched_of_dispatch handled
      exact ⟨.inl (named.trans (names_legacy route listed)), given_of_filled filled⟩
  · obtain ⟨rfl, handled⟩ := Prod.mk.inj routed
    exact current handled

end Parameters

section Targets

/-- The task that a call is about. -/
def taskOf : RestParams μ → Option String
  | .task id _ | .configsOf id | .configOf id _ => some id
  | .config config => some config.taskId
  | .none | .message _ | .list _ => none

/-- The configuration that a call is about. -/
def configOf : RestParams μ → Option String
  | .configOf _ id => some id
  | _ => none

/-- The call is about the task, the configuration and the tenant that the path names. -/
structure ActsOn (request : RouteRequest) (call : HandlerCall Unit (RestParams μ)) : Prop where
  task : ∀ id, request.param .taskId = some id → taskOf call.params = some id
  config : ∀ id, request.param .configId = some id → configOf call.params = some id
  tenant : ∀ tenant, request.param .tenant = some tenant →
    call.tenant = some (.string tenant) ∧ call.context.tenant = some tenant

variable {printer : Printer} {server : RestServer μ} {request : RouteRequest} {method : HandlerMethod}
  {call : HandlerCall Unit (RestParams μ)}

/-- The parameters of the operations that take them from the path alone. -/
def pathParams (request : RouteRequest) (historyLength : Option Int) : HandlerMethod → RestParams μ
  | .resubscribe | .cancelTask => .task ((request.param .taskId).getD "") none
  | .getTask => .task ((request.param .taskId).getD "") historyLength
  | .listTasks => .list request.query
  | .listTaskPushNotificationConfigs => .configsOf ((request.param .taskId).getD "")
  | .getTaskPushNotificationConfig | .deleteTaskPushNotificationConfig =>
      .configOf ((request.param .taskId).getD "") ((request.param .configId).getD "")
  | _ => .none

/-- What a route of today's protocol hands on. -/
theorem serve_cases (served : RestHandler.serve printer server request method = .ok call) :
    RestHandler.buildContext server request = .ok call.context ∧
      match method with
      | .createTaskPushNotificationConfig => ∃ config, readConfig printer request.bodyField = .ok config ∧
          call.tenant = some (.string config.tenant) ∧ call.params = .config config
      | .sendMessage | .sendMessageStream => ∃ tenant content,
          readText printer [request.bodyField "tenant"] = .ok tenant ∧
          RestHandler.validateSendMessageRequest printer (request.bodyField "message") = .ok () ∧
          call.tenant = some (.string tenant) ∧ call.params = .message content
      | method => ∃ historyLength, call.tenant = some (orEmpty (request.queryField "tenant")) ∧
          call.params = pathParams request historyLength method := by
  obtain ⟨context, built, served⟩ := bind_eq_ok.mp served
  cases method with
  | getAuthenticatedExtendedAgentCard =>
      cases served
      exact ⟨built, none, rfl, rfl⟩
  | sendMessage =>
      obtain ⟨tenant, read, served⟩ := bind_eq_ok.mp served
      obtain ⟨content, decoded, served⟩ := bind_eq_ok.mp served
      obtain ⟨_, valid, served⟩ := bind_eq_ok.mp served
      cases served
      exact ⟨built, tenant, content, read, valid, rfl, rfl⟩
  | sendMessageStream =>
      obtain ⟨tenant, read, served⟩ := bind_eq_ok.mp served
      obtain ⟨content, decoded, served⟩ := bind_eq_ok.mp served
      obtain ⟨_, capable, served⟩ := bind_eq_ok.mp served
      obtain ⟨_, valid, served⟩ := bind_eq_ok.mp served
      cases served
      exact ⟨built, tenant, content, read, valid, rfl, rfl⟩
  | resubscribe =>
      obtain ⟨_, capable, served⟩ := bind_eq_ok.mp served
      cases served
      exact ⟨built, none, rfl, rfl⟩
  | getTask =>
      obtain ⟨historyLength, read, served⟩ := bind_eq_ok.mp served
      cases served
      exact ⟨built, historyLength, rfl, rfl⟩
  | createTaskPushNotificationConfig =>
      obtain ⟨config, read, served⟩ := bind_eq_ok.mp served
      obtain ⟨_, capable, served⟩ := bind_eq_ok.mp served
      cases served
      exact ⟨built, config, read, rfl, rfl⟩
  | _ =>
      cases served
      exact ⟨built, none, rfl, rfl⟩

theorem buildContext_tenant {context : CallContext Unit}
    (built : RestHandler.buildContext server request = .ok context) :
    context.tenant = orUndefined (request.param .tenant) := by
  obtain ⟨user, _, built⟩ := bind_eq_ok.mp built
  obtain ⟨_, _, built⟩ := bind_eq_ok.mp built
  cases built
  rfl

theorem orUndefined_of_ne {text : String} (given : text ≠ "") : orUndefined (some text) = some text := by
  simp [orUndefined, given]

@[simp] theorem readText_string (text : String) : readText printer [some (.string text)] = .ok text := by
  simp [readText, firstSet, toText, Printer.print]

/-- What the middleware leaves of a request: a body that has fields carries the tenant of the path. -/
structure Prepared (express : Express) (request prepared : RouteRequest) : Prop where
  params : prepared.params = request.params
  body : prepared.body = request.body
  assigned : ∀ tenant, orUndefined (request.param .tenant) = some tenant →
    prepared.bodyTenant = some tenant ∨ ∀ key, request.body.bind (field · key) = none
  query : ∀ tenant, orUndefined (request.param .tenant) = some tenant →
    prepared.query =
      if express = .four then OrderedMap.assign request.query "tenant" (.string tenant) else request.query

theorem assignTenant_cases {pathTenant : String} {body : Option JsonValue} {assigned : Option String}
    (put : RestHandler.assignTenant printer pathTenant body = .ok assigned) :
    assigned = some pathTenant ∨ ∀ key, body.bind (field · key) = none := by
  unfold RestHandler.assignTenant at put
  split at put
  · exact .inr (fun key => rfl)
  · rename_i body
    split at put
    · rename_i falsy
      refine .inr (fun key => ?_)
      cases body with
      | object fields => exact absurd falsy (by simp [isTruthy])
      | _ => rfl
    · split at put
      · cases put
        exact .inl rfl
      · obtain ⟨text, _, put⟩ := bind_eq_ok.mp put
        cases put

theorem middleware_cases {express : Express} {prepared : RouteRequest}
    (ran : RestHandler.tenantMiddleware express printer request = .ok prepared) :
    Prepared express request prepared := by
  unfold RestHandler.tenantMiddleware at ran
  split at ran
  · rename_i absent
    cases ran
    exact ⟨rfl, rfl, fun _ given => (nomatch absent.symm.trans given),
      fun _ given => (nomatch absent.symm.trans given)⟩
  · rename_i pathTenant given
    obtain ⟨assigned, put, ran⟩ := bind_eq_ok.mp ran
    cases ran
    refine ⟨rfl, rfl, ?_, ?_⟩
    · intro tenant same
      cases given.symm.trans same
      exact assignTenant_cases put
    · intro tenant same
      cases given.symm.trans same
      cases express <;> rfl

theorem task_of_path {historyLength : Option Int} {router : RestRouter}
    (matched : Matched router method request) (named : method ≠ .createTaskPushNotificationConfig)
    {id : String} (found : request.param .taskId = some id) :
    taskOf (pathParams request historyLength method : RestParams μ) = some id := by
  have member := (matched.isSome_param .taskId nofun).mp (by rw [found]; rfl)
  cases method with
  | createTaskPushNotificationConfig => exact absurd rfl named
  | getAuthenticatedExtendedAgentCard | sendMessage | sendMessageStream | listTasks => exact nomatch member
  | _ => simp [pathParams, taskOf, found]

theorem config_of_path {historyLength : Option Int} {router : RestRouter}
    (matched : Matched router method request) {id : String} (found : request.param .configId = some id) :
    configOf (pathParams request historyLength method : RestParams μ) = some id := by
  have member := (matched.isSome_param .configId nofun).mp (by rw [found]; rfl)
  cases method with
  | getTaskPushNotificationConfig | deleteTaskPushNotificationConfig => simp [pathParams, configOf, found]
  | _ => exact absurd member (by decide)

end Targets

section Conditions

variable (express : Express) (printer : Printer)

/-- The body names the task of the path, as its task id or in its resource name. -/
def BodyNamesTask (request : RouteRequest) : RestRouter → Prop
  | .current =>
      readText printer [request.bodyField "taskId", request.bodyField "task_id"] =
        .ok ((request.param .taskId).getD "")
  | .legacy => ∃ name, readText printer [request.bodyField "name"] = .ok name ∧
      '/' ∉ ((request.param .taskId).getD "").toList ∧
      ∃ rest, name.toList = "tasks/".toList ++ (((request.param .taskId).getD "").toList ++ rest) ∧
        ∀ char, rest.head? = some char → char = '/'

/-- The query names the tenant of the path, unless what is assigned to it counts. -/
def QueryNamesTenant (request : RouteRequest) : Prop :=
  ∀ tenant, request.param .tenant = some tenant →
    express = .four ∨ request.queryField "tenant" = some (.string tenant)

/-- Nothing in the request keeps the route from reading it. -/
def Readable (request : RouteRequest) (method : HandlerMethod) : RestRouter → Prop
  | .current => ∃ prepared, RestHandler.tenantMiddleware express printer request = .ok prepared ∧
      (method = .createTaskPushNotificationConfig →
        ∃ config, readConfig printer prepared.bodyField = .ok config) ∧
      (method = .getTask → ∀ value, request.queryField "historyLength" = some value →
        ∃ parsed, parseHistoryLength printer value = .ok parsed)
  | .legacy => method = .createTaskPushNotificationConfig →
      ∃ config, LegacyRest.decodeTaskPushNotificationConfig printer request.bodyField = .ok config

/-- What else the request says about the task and the tenant says the same as its path. -/
def Agrees (request : RouteRequest) (router : RestRouter) : HandlerMethod → Prop
  | .createTaskPushNotificationConfig => BodyNamesTask printer request router
  | .sendMessage | .sendMessageStream => True
  | _ => router = .current → QueryNamesTenant express request

end Conditions

section Current

variable {express : Express} {printer : Printer} {server : RestServer μ} {request prepared : RouteRequest}
  {method : HandlerMethod} {call : HandlerCall Unit (RestParams μ)}

theorem bodyField_eq (request : RouteRequest) {key : String} (other : key ≠ "tenant") :
    request.bodyField key = request.body.bind (field · key) := by
  rw [RouteRequest.bodyField, if_neg (fun both => other both.1)]

theorem readConfig_ok {read : String → Option JsonValue} {config : TaskPushNotificationConfig}
    (decoded : readConfig printer read = .ok config) :
    readText printer [read "tenant"] = .ok config.tenant ∧
      readText printer [read "taskId", read "task_id"] = .ok config.taskId := by
  obtain ⟨tenant, readTenant, decoded⟩ := bind_eq_ok.mp decoded
  obtain ⟨id, _, decoded⟩ := bind_eq_ok.mp decoded
  obtain ⟨taskId, readTask, decoded⟩ := bind_eq_ok.mp decoded
  obtain ⟨url, _, decoded⟩ := bind_eq_ok.mp decoded
  obtain ⟨token, _, decoded⟩ := bind_eq_ok.mp decoded
  obtain ⟨authentication, _, decoded⟩ := bind_eq_ok.mp decoded
  cases decoded
  exact ⟨readTenant, readTask⟩

theorem exists_of_readText {values : List (Option JsonValue)} {text : String} (given : text ≠ "")
    (read : readText printer values = .ok text) : ∃ value, some value ∈ values := by
  have set : ∀ {values : List (Option JsonValue)} {value : JsonValue},
      firstSet values = some value → some value ∈ values := by
    intro values value found
    induction values with
    | nil => exact nomatch found
    | cons first rest ih =>
        unfold firstSet at found
        split at found
        · exact nomatch found
        · rename_i same
          exact List.mem_cons_of_mem _ (ih (by cases same; exact found))
        · rename_i same
          exact List.mem_cons_of_mem _ (ih (by cases same; exact found))
        · rename_i same
          cases same
          cases found
          exact List.mem_cons_self
  unfold readText at read
  split at read
  · rename_i value found
    exact ⟨value, set found⟩
  · cases read
    exact absurd rfl given

theorem message_of_valid {message : Option JsonValue}
    (valid : RestHandler.validateSendMessageRequest printer message = .ok ()) :
    ∃ value, message = some value := by
  cases message with
  | none => exact nomatch valid
  | some value => exact ⟨value, rfl⟩

namespace Prepared

theorem param_eq (ready : Prepared express request prepared) (name : PathParam) :
    prepared.param name = request.param name := by
  rw [RouteRequest.param, ready.params]
  rfl

theorem matched (ready : Prepared express request prepared) (matched : Matched .current method request) :
    Matched .current method prepared := by
  refine ⟨by rw [ready.params]; exact matched.named, ?_⟩
  intro name value found
  exact matched.given name value (ready.param_eq name ▸ found)

/-- A body that has any field at all carries the tenant of the path. -/
theorem carries (ready : Prepared express request prepared) {key tenant : String} {value : JsonValue}
    (present : request.body.bind (field · key) = some value)
    (found : orUndefined (request.param .tenant) = some tenant) :
    readText printer [prepared.bodyField "tenant"] = .ok tenant := by
  rcases ready.assigned tenant found with put | empty
  · rw [RouteRequest.bodyField, put, if_pos ⟨rfl, rfl⟩]
    exact readText_string tenant
  · rw [empty key] at present
    exact nomatch present

theorem query_tenant (ready : Prepared express request prepared) {tenant : String}
    (found : orUndefined (request.param .tenant) = some tenant)
    (names : express = .four ∨ request.queryField "tenant" = some (.string tenant)) :
    prepared.queryField "tenant" = some (.string tenant) := by
  rw [RouteRequest.queryField, ready.query tenant found]
  split
  · rw [OrderedMap.lookup_assign, if_pos rfl]
  · rename_i five
    exact names.resolve_left five

end Prepared

theorem Matched.tenant {router : RestRouter} (matched : Matched router method request) {tenant : String}
    (found : request.param .tenant = some tenant) : orUndefined (request.param .tenant) = some tenant := by
  rw [found, orUndefined_of_ne (matched.given _ _ found)]

theorem tenant_of_context (ready : Prepared express request prepared) (matched : Matched .current method request)
    (built : RestHandler.buildContext server prepared = .ok call.context) {tenant : String}
    (found : request.param .tenant = some tenant) : call.context.tenant = some tenant := by
  rw [buildContext_tenant built, ready.param_eq, matched.tenant found]

theorem acts_of_message (ready : Prepared express request prepared) (matched : Matched .current method request)
    (built : RestHandler.buildContext server prepared = .ok call.context) {bodyTenant : String}
    (read : readText printer [prepared.bodyField "tenant"] = .ok bodyTenant)
    (valid : RestHandler.validateSendMessageRequest printer (prepared.bodyField "message") = .ok ())
    (handed : call.tenant = some (.string bodyTenant)) (none : carried method = []) : ActsOn request call := by
  have absent : ∀ {name : PathParam} {id : String}, name ≠ .tenant → request.param name ≠ some id := by
    intro name id other found
    have member := (matched.isSome_param name other).mp (by rw [found]; rfl)
    rw [none] at member
    exact nomatch member
  refine ⟨fun id found => absurd found (absent nofun), fun id found => absurd found (absent nofun), ?_⟩
  intro tenant found
  obtain ⟨value, present⟩ := message_of_valid valid
  rw [bodyField_eq prepared (by decide), ready.body] at present
  cases (ready.carries present (matched.tenant found)).symm.trans read
  exact ⟨handed, tenant_of_context ready matched built found⟩

theorem acts_of_path (ready : Prepared express request prepared) (matched : Matched .current method request)
    (built : RestHandler.buildContext server prepared = .ok call.context) {historyLength : Option Int}
    (other : method ≠ .createTaskPushNotificationConfig) (names : QueryNamesTenant express request)
    (handed : call.tenant = some (orEmpty (prepared.queryField "tenant")))
    (about : call.params = pathParams prepared historyLength method) : ActsOn request call := by
  refine ⟨?_, ?_, ?_⟩
  · intro id found
    rw [about]
    exact task_of_path (ready.matched matched) other (by rw [ready.param_eq]; exact found)
  · intro id found
    rw [about]
    exact config_of_path (ready.matched matched) (by rw [ready.param_eq]; exact found)
  · intro tenant found
    have query := ready.query_tenant (matched.tenant found) (names tenant found)
    refine ⟨?_, tenant_of_context ready matched built found⟩
    rw [handed, query, orEmpty]
    simp [isTruthy, matched.given _ _ found]

theorem acts_of_config (ready : Prepared express request prepared)
    (matched : Matched .current .createTaskPushNotificationConfig request)
    (built : RestHandler.buildContext server prepared = .ok call.context) {config : TaskPushNotificationConfig}
    (read : readConfig printer prepared.bodyField = .ok config)
    (handed : call.tenant = some (.string config.tenant)) (about : call.params = .config config)
    (names : BodyNamesTask printer request .current) : ActsOn request call := by
  obtain ⟨readTenant, readTask⟩ := readConfig_ok read
  obtain ⟨id, found⟩ := Option.isSome_iff_exists.mp
    ((matched.isSome_param .taskId nofun).mpr List.mem_cons_self)
  have named : readText printer [request.bodyField "taskId", request.bodyField "task_id"] = .ok id := by
    rw [BodyNamesTask, found] at names
    exact names
  rw [bodyField_eq prepared (by decide), bodyField_eq prepared (by decide), ready.body,
    ← bodyField_eq request (by decide), ← bodyField_eq request (by decide), named] at readTask
  refine ⟨?_, ?_, ?_⟩
  · intro other found'
    cases found.symm.trans found'
    rw [about, taskOf, ← Except.ok.inj readTask]
  · intro other found'
    exact nomatch (@config_of_path μ _ _ none _ matched _ found')
  · intro tenant found'
    obtain ⟨value, listed⟩ := exists_of_readText (matched.given _ _ found) named
    have carried : readText printer [prepared.bodyField "tenant"] = .ok tenant := by
      rw [bodyField_eq request (by decide), bodyField_eq request (by decide)] at listed
      simp only [List.mem_cons, List.not_mem_nil, or_false] at listed
      rcases listed with present | present
      · exact ready.carries present.symm (matched.tenant found')
      · exact ready.carries present.symm (matched.tenant found')
    rw [handed, Except.ok.inj (readTenant.symm.trans carried)]
    exact ⟨rfl, tenant_of_context ready matched built found'⟩

theorem acts_current (matched : Matched .current method request)
    (ran : RestHandler.tenantMiddleware express printer request = .ok prepared)
    (served : RestHandler.serve printer server prepared method = .ok call)
    (agrees : Agrees express printer request .current method) : ActsOn request call := by
  have ready := middleware_cases ran
  obtain ⟨built, target⟩ := serve_cases served
  cases method with
  | createTaskPushNotificationConfig =>
      obtain ⟨config, read, handed, about⟩ := target
      exact acts_of_config ready matched built read handed about agrees
  | sendMessage =>
      obtain ⟨tenant, content, read, valid, handed, _⟩ := target
      exact acts_of_message ready matched built read valid handed rfl
  | sendMessageStream =>
      obtain ⟨tenant, content, read, valid, handed, _⟩ := target
      exact acts_of_message ready matched built read valid handed rfl
  | _ =>
      obtain ⟨historyLength, handed, about⟩ := target
      exact acts_of_path ready matched built nofun (agrees rfl) handed about

end Current

section Legacy

variable {printer : Printer} {server : RestServer μ} {request : RouteRequest} {method : HandlerMethod}
  {call : HandlerCall Unit (RestParams μ)}

theorem decodeTask_ok {read : String → Option JsonValue} {config : Legacy.TaskPushNotificationConfig}
    (decoded : LegacyRest.decodeTaskPushNotificationConfig printer read = .ok config) :
    ∃ name, readText printer [read "name"] = .ok name ∧
      FromProto.extractTaskId name = .ok config.taskId := by
  obtain ⟨proto, readProto, converted⟩ := bind_eq_ok.mp decoded
  obtain ⟨name, readName, readProto⟩ := bind_eq_ok.mp readProto
  obtain ⟨config', _, readProto⟩ := bind_eq_ok.mp readProto
  cases readProto
  refine ⟨name, readName, ?_⟩
  unfold FromProto.taskPushNotificationConfig at converted
  cases config' with
  | none => exact nomatch converted
  | some config' =>
      cases extracted : FromProto.extractTaskId name with
      | error failure =>
          simp only [extracted] at converted
          exact nomatch converted
      | ok taskId =>
          simp only [extracted] at converted
          cases converted
          rfl

/-- What a route of v0.3 hands on. -/
theorem legacy_cases (served : LegacyRest.serve printer server request method = .ok call) :
    match method with
    | .createTaskPushNotificationConfig => ∃ config,
        LegacyRest.decodeTaskPushNotificationConfig printer request.bodyField = .ok config ∧
          taskOf call.params = some config.taskId
    | .sendMessage | .sendMessageStream => True
    | method => ∃ historyLength, call.params = pathParams request historyLength method := by
  obtain ⟨context, built, served⟩ := bind_eq_ok.mp served
  cases method with
  | sendMessage | sendMessageStream => trivial
  | listTasks => exact nomatch served
  | resubscribe =>
      obtain ⟨_, capable, served⟩ := bind_eq_ok.mp served
      cases served
      exact ⟨none, rfl⟩
  | getTask =>
      obtain ⟨historyLength, read, served⟩ := bind_eq_ok.mp served
      cases served
      exact ⟨historyLength, rfl⟩
  | createTaskPushNotificationConfig =>
      obtain ⟨config, read, served⟩ := bind_eq_ok.mp served
      obtain ⟨_, capable, served⟩ := bind_eq_ok.mp served
      split at served
      · exact nomatch served
      · cases served
        exact ⟨config, read, rfl⟩
  | _ =>
      cases served
      exact ⟨none, rfl⟩

/-- The condition on the body, once its resource name is read. -/
theorem bodyNamesTask_legacy {name taskId id : String}
    (read : readText printer [request.bodyField "name"] = .ok name)
    (extracted : FromProto.extractTaskId name = .ok taskId) (found : request.param .taskId = some id)
    (given : id ≠ "") : BodyNamesTask printer request .legacy ↔ taskId = id := by
  rw [BodyNamesTask, found, Option.getD_some]
  constructor
  · rintro ⟨name', read', clear, rest, spelled, stops⟩
    cases read.symm.trans read'
    have same := extractTaskId_iff.mpr ⟨given, clear, rest, spelled, stops⟩
    exact Except.ok.inj (extracted.symm.trans same)
  · intro same
    obtain ⟨_, clear, rest, spelled, stops⟩ := extractTaskId_iff.mp extracted
    rw [same] at clear spelled
    exact ⟨name, read, clear, rest, spelled, stops⟩

theorem Matched.task_of_create {router : RestRouter}
    (matched : Matched router .createTaskPushNotificationConfig request) :
    ∃ id, request.param .taskId = some id ∧ id ≠ "" := by
  obtain ⟨id, found⟩ := Option.isSome_iff_exists.mp
    ((matched.isSome_param .taskId nofun).mpr List.mem_cons_self)
  exact ⟨id, found, matched.given _ _ found⟩

/-- No operation but those on one configuration has a configuration in its path. -/
theorem Matched.no_config {router : RestRouter} (matched : Matched router method request)
    (other : .configId ∉ carried method) {id : String} : request.param .configId ≠ some id := by
  intro found
  exact other ((matched.isSome_param .configId nofun).mp (by rw [found]; rfl))

theorem acts_legacy (matched : Matched .legacy method request)
    (served : LegacyRest.serve printer server request method = .ok call)
    (agrees : method = .createTaskPushNotificationConfig → BodyNamesTask printer request .legacy) :
    ActsOn request call := by
  have target := legacy_cases served
  have tenant : ∀ tenant, request.param .tenant = some tenant →
      call.tenant = some (.string tenant) ∧ call.context.tenant = some tenant :=
    fun tenant found => (nomatch matched.legacy_tenant.symm.trans found)
  have message : carried method = [] → ActsOn request call := by
    intro none
    refine ⟨?_, fun id found => absurd found (matched.no_config (by rw [none]; exact List.not_mem_nil)), tenant⟩
    intro id found
    have member := (matched.isSome_param .taskId nofun).mp (by rw [found]; rfl)
    rw [none] at member
    exact nomatch member
  cases method with
  | createTaskPushNotificationConfig =>
      obtain ⟨config, decoded, about⟩ := target
      obtain ⟨name, read, extracted⟩ := decodeTask_ok decoded
      obtain ⟨id, found, given⟩ := matched.task_of_create
      have same := (bodyNamesTask_legacy read extracted found given).mp (agrees rfl)
      refine ⟨?_, fun id found => absurd found (matched.no_config (by decide)), tenant⟩
      intro other found'
      cases found.symm.trans found'
      rw [about, same]
  | sendMessage => exact message rfl
  | sendMessageStream => exact message rfl
  | _ =>
      obtain ⟨historyLength, about⟩ := target
      refine ⟨?_, ?_, tenant⟩
      · intro id found
        rw [about]
        exact task_of_path matched nofun found
      · intro id found
        rw [about]
        exact config_of_path matched found

end Legacy

section Necessity

variable {express : Express} {printer : Printer} {request prepared : RouteRequest} {method : HandlerMethod}

/-- A server that refuses nothing. -/
def openServer : RestServer μ where
  userBuilder := fun _ => .ok none
  validateVersion := fun _ => .ok ()
  capabilities := fun _ => .ok true
  content := fun _ => .error .other
  checked := .ok

theorem open_config {config : TaskPushNotificationConfig}
    (read : readConfig printer prepared.bodyField = .ok config) :
    ∃ call, RestHandler.serve printer (openServer : RestServer μ) prepared
      .createTaskPushNotificationConfig = .ok call := by
  unfold RestHandler.serve
  dsimp only
  rw [read]
  exact ⟨_, rfl⟩

theorem open_path (other : method ≠ .createTaskPushNotificationConfig)
    (silent : carried method ≠ [] ∨ method = .listTasks ∨ method = .getAuthenticatedExtendedAgentCard)
    (read : method = .getTask → ∀ value, prepared.queryField "historyLength" = some value →
      ∃ parsed, parseHistoryLength printer value = .ok parsed) :
    ∃ call, RestHandler.serve printer (openServer : RestServer μ) prepared method = .ok call := by
  cases method with
  | createTaskPushNotificationConfig => exact absurd rfl other
  | sendMessage | sendMessageStream => exact absurd silent (by decide)
  | getTask =>
      cases asked : prepared.queryField "historyLength" with
      | none =>
          unfold RestHandler.serve
          dsimp only
          rw [asked]
          exact ⟨_, rfl⟩
      | some value =>
          obtain ⟨parsed, parses⟩ := read rfl value asked
          unfold RestHandler.serve
          dsimp only
          rw [asked, Option.mapM_some, parses]
          exact ⟨_, rfl⟩
  | _ => exact ⟨_, rfl⟩

theorem open_legacy {config : Legacy.TaskPushNotificationConfig} (given : config.taskId ≠ "")
    (read : LegacyRest.decodeTaskPushNotificationConfig printer request.bodyField = .ok config) :
    ∃ call, LegacyRest.serve printer (openServer : RestServer μ) request
      .createTaskPushNotificationConfig = .ok call := by
  obtain ⟨call, served⟩ : ∃ call, LegacyRest.serve printer (openServer : RestServer μ) request
      .createTaskPushNotificationConfig =
        if config.taskId = "" then .error (invalidParams "taskId is required") else .ok call := by
    unfold LegacyRest.serve
    dsimp only
    rw [read]
    exact ⟨_, rfl⟩
  rw [served, if_neg given]
  exact ⟨call, rfl⟩

theorem tenant_of_orEmpty {value : Option JsonValue} {tenant : String} (given : tenant ≠ "")
    (same : orEmpty value = .string tenant) : value = some (.string tenant) := by
  unfold orEmpty at same
  split at same
  · split at same
    · rw [same]
    · exact absurd (JsonValue.string.inj same).symm given
  · exact absurd (JsonValue.string.inj same).symm given

theorem queryNamesTenant_of_acts (matched : Matched .current method request)
    (ran : RestHandler.tenantMiddleware express printer request = .ok prepared)
    (other : method ≠ .createTaskPushNotificationConfig)
    (silent : carried method ≠ [] ∨ method = .listTasks ∨ method = .getAuthenticatedExtendedAgentCard)
    (read : method = .getTask → ∀ value, request.queryField "historyLength" = some value →
      ∃ parsed, parseHistoryLength printer value = .ok parsed)
    (acts : ∀ call, RestHandler.serve printer (openServer : RestServer μ) prepared method = .ok call →
      ActsOn request call) : QueryNamesTenant express request := by
  intro tenant found
  have ready := middleware_cases ran
  by_cases version : express = .four
  · exact .inl version
  have query : prepared.query = request.query := by
    rw [ready.query tenant (matched.tenant found), if_neg version]
  obtain ⟨call, served⟩ := @open_path μ printer prepared method other silent (by
    intro task value asked
    rw [RouteRequest.queryField, query] at asked
    exact read task value asked)
  have handed : call.tenant = some (orEmpty (prepared.queryField "tenant")) := by
    have target := (serve_cases served).2
    cases method with
    | createTaskPushNotificationConfig => exact absurd rfl other
    | sendMessage | sendMessageStream => exact absurd silent (by decide)
    | _ =>
        obtain ⟨_, handed, _⟩ := target
        exact handed
  have same := Option.some.inj (handed.symm.trans ((acts call served).tenant tenant found).1)
  have named := tenant_of_orEmpty (matched.given _ _ found) same
  rw [RouteRequest.queryField, query] at named
  exact .inr named

theorem bodyNamesTask_of_acts (matched : Matched .current .createTaskPushNotificationConfig request)
    (ready : Prepared express request prepared) {config : TaskPushNotificationConfig}
    (read : readConfig printer prepared.bodyField = .ok config)
    (acts : ∀ call, RestHandler.serve printer (openServer : RestServer μ) prepared
      .createTaskPushNotificationConfig = .ok call → ActsOn request call) :
    BodyNamesTask printer request .current := by
  obtain ⟨id, found, _⟩ := matched.task_of_create
  obtain ⟨call, served⟩ := @open_config μ printer prepared config read
  obtain ⟨_, config', read', _, about⟩ := serve_cases served
  have named := (acts call served).task id found
  rw [about, taskOf, Option.some_inj] at named
  obtain ⟨_, readTask⟩ := readConfig_ok read'
  rw [bodyField_eq prepared (by decide), bodyField_eq prepared (by decide), ready.body,
    ← bodyField_eq request (by decide), ← bodyField_eq request (by decide), named] at readTask
  rw [BodyNamesTask, found]
  exact readTask

theorem bodyNamesTask_of_acts_legacy (matched : Matched .legacy .createTaskPushNotificationConfig request)
    {config : Legacy.TaskPushNotificationConfig}
    (read : LegacyRest.decodeTaskPushNotificationConfig printer request.bodyField = .ok config)
    (acts : ∀ call, LegacyRest.serve printer (openServer : RestServer μ) request
      .createTaskPushNotificationConfig = .ok call → ActsOn request call) :
    BodyNamesTask printer request .legacy := by
  obtain ⟨id, found, given⟩ := matched.task_of_create
  obtain ⟨name, readName, extracted⟩ := decodeTask_ok read
  obtain ⟨call, served⟩ := @open_legacy μ printer request config (extractTaskId_iff.mp extracted).1 read
  obtain ⟨config', read', about⟩ := legacy_cases served
  cases read.symm.trans read'
  have named := (acts call served).task id found
  rw [about, Option.some_inj] at named
  exact (bodyNamesTask_legacy readName extracted found given).mpr named

theorem agrees_of_acts {router : RestRouter} (matched : Matched router method request)
    (readable : Readable express printer request method router)
    (acts : ∀ call, serveRest express printer (openServer : RestServer μ) request method router = .ok call →
      ActsOn request call) : Agrees express printer request router method := by
  cases router with
  | current =>
      obtain ⟨prepared, ran, config, length⟩ := readable
      have acts' : ∀ call, RestHandler.serve printer (openServer : RestServer μ) prepared method = .ok call →
          ActsOn request call := by
        intro call served
        refine acts call ?_
        rw [serveRest, ran]
        exact served
      cases method with
      | createTaskPushNotificationConfig =>
          obtain ⟨config, read⟩ := config rfl
          exact bodyNamesTask_of_acts matched (middleware_cases ran) read acts'
      | sendMessage | sendMessageStream => trivial
      | _ =>
          intro _
          exact queryNamesTenant_of_acts matched ran nofun (by decide) length acts'
  | legacy =>
      cases method with
      | createTaskPushNotificationConfig =>
          obtain ⟨config, read⟩ := readable rfl
          exact bodyNamesTask_of_acts_legacy matched read acts
      | sendMessage | sendMessageStream => trivial
      | _ => exact nofun

end Necessity

section Targeting

/-- Whatever the server, the call that a request leads to is about what its path names. -/
def ActsOnPath (μ : Type) (express : Express) (printer : Printer) (legacyCompat : Bool)
    (request : HttpRequest) : Prop :=
  ∀ (server : RestServer μ) (call : HandlerCall Unit (RestParams μ)),
    restHandler express printer legacyCompat server request = .called call →
      ∀ router method params, routeRest legacyCompat request = (router, .handled method params) →
        ActsOn (inRoute request params) call

theorem restHandler_routed {express : Express} {printer : Printer} {legacyCompat : Bool}
    {server : RestServer μ} {request : HttpRequest} {router : RestRouter} {method : HandlerMethod}
    {params : List (PathParam × List Char)}
    (routed : routeRest legacyCompat request = (router, .handled method params)) :
    restHandler express printer legacyCompat server request =
      match serveRest express printer server (inRoute request params) method router with
      | .ok call => .called call
      | .error thrown => .thrown thrown := by
  rw [restHandler, routed]
  rfl

theorem restHandler_called {express : Express} {printer : Printer} {legacyCompat : Bool}
    {server : RestServer μ} {request : HttpRequest} {router : RestRouter} {method : HandlerMethod}
    {params : List (PathParam × List Char)}
    (routed : routeRest legacyCompat request = (router, .handled method params))
    {call : HandlerCall Unit (RestParams μ)} :
    restHandler express printer legacyCompat server request = .called call ↔
      serveRest express printer server (inRoute request params) method router = .ok call := by
  rw [restHandler_routed routed]
  cases serveRest express printer server (inRoute request params) method router with
  | ok served => exact ⟨fun same => congrArg _ (RestOutcome.called.inj same), fun same =>
      congrArg _ (Except.ok.inj same)⟩
  | error thrown => constructor <;> intro same <;> cases same

theorem middleware_query {express : Express} {printer : Printer} {request prepared : RouteRequest}
    (ran : RestHandler.tenantMiddleware express printer request = .ok prepared) {key : String}
    (other : "tenant" ≠ key) : prepared.queryField key = request.queryField key := by
  unfold RestHandler.tenantMiddleware at ran
  split at ran
  · cases ran
    rfl
  · obtain ⟨_, _, ran⟩ := bind_eq_ok.mp ran
    cases ran
    cases express with
    | four => exact (OrderedMap.lookup_assign ..).trans (if_neg other)
    | five => rfl

/-- A call that was made had a request that can be read. -/
theorem readable_of_served {express : Express} {printer : Printer} {server : RestServer μ}
    {request : RouteRequest} {method : HandlerMethod} {router : RestRouter}
    {call : HandlerCall Unit (RestParams μ)}
    (served : serveRest express printer server request method router = .ok call) :
    Readable express printer request method router := by
  cases router with
  | current =>
      obtain ⟨prepared, ran, served⟩ := bind_eq_ok.mp served
      refine ⟨prepared, ran, ?_, ?_⟩
      · rintro rfl
        obtain ⟨_, config, read, _⟩ := serve_cases served
        exact ⟨config, read⟩
      · rintro rfl value asked
        obtain ⟨_, _, served⟩ := bind_eq_ok.mp served
        obtain ⟨historyLength, read, _⟩ := bind_eq_ok.mp served
        rw [middleware_query ran (by decide), asked, Option.mapM_some] at read
        obtain ⟨parsed, parses, _⟩ := bind_eq_ok.mp read
        exact ⟨parsed, parses⟩
  | legacy =>
      rintro rfl
      obtain ⟨config, read, _⟩ :=
        @legacy_cases μ printer server request .createTaskPushNotificationConfig call served
      exact ⟨config, read⟩

/-- A request acts on what its path names exactly if its body and its query say the same. -/
theorem restHandler_acts {express : Express} {printer : Printer} {legacyCompat : Bool}
    {request : HttpRequest} :
    ActsOnPath μ express printer legacyCompat request ↔
      ∀ router method params, routeRest legacyCompat request = (router, .handled method params) →
        Readable express printer (inRoute request params) method router →
          Agrees express printer (inRoute request params) router method := by
  constructor
  · intro acts router method params routed readable
    refine @agrees_of_acts μ _ _ _ _ _ (matched_of_routeRest routed) readable ?_
    intro call served
    exact acts openServer call ((restHandler_called routed).mpr served) router method params routed
  · intro agrees server call called router method params routed
    have served := (restHandler_called routed).mp called
    have matched := matched_of_routeRest routed
    have agrees := agrees router method params routed (readable_of_served served)
    cases router with
    | current =>
        obtain ⟨prepared, ran, served⟩ := bind_eq_ok.mp served
        exact acts_current matched ran served agrees
    | legacy =>
        refine acts_legacy matched served ?_
        rintro rfl
        exact agrees

/-- A configuration for `t2`, sent to the path of `t1`. -/
def configElsewhere : HttpRequest where
  method := .post
  path := "/tasks/t1/pushNotificationConfigs".toList
  query := []
  body := some (.object [("taskId", .string "t2"), ("url", .string "https://example.com/hook")])
  extensions := none
  requestedVersion := some "1.0"
  headers := .object []

theorem route_configElsewhere :
    routeRest false configElsewhere =
      (.current, .handled .createTaskPushNotificationConfig [(.taskId, "t1".toList)]) := by
  have parts : segments configElsewhere.path =
      some ["tasks".toList, "t1".toList, "pushNotificationConfigs".toList] := by decide
  have found : Router.dispatch .post ["tasks".toList, "t1".toList, "pushNotificationConfigs".toList]
      RestHandler.routes = .handled .createTaskPushNotificationConfig [(.taskId, "t1".toList)] := rfl
  have routed : routeRequest RestHandler.routes configElsewhere.method configElsewhere.path =
      .handled .createTaskPushNotificationConfig [(.taskId, "t1".toList)] := by
    rw [routeRequest, parts]
    exact found
  rw [routeRest, routed]
  rfl

/-- The task of the body is the one that gets the configuration. -/
theorem restHandler_acts_elsewhere : ¬ ActsOnPath Unit .four ⟨fun _ => ""⟩ false configElsewhere := by
  intro acts
  obtain ⟨call, served, about⟩ : ∃ call, serveRest .four ⟨fun _ => ""⟩ (openServer : RestServer Unit)
      (inRoute configElsewhere [(.taskId, "t1".toList)]) .createTaskPushNotificationConfig .current =
        .ok call ∧ taskOf call.params = some "t2" := ⟨_, rfl, rfl⟩
  have called := (restHandler_called route_configElsewhere).mpr served
  have named := (acts openServer call called _ _ _ route_configElsewhere).task "t1" rfl
  rw [about] at named
  exact absurd named (by decide)

end Targeting

end A2A.Compat
