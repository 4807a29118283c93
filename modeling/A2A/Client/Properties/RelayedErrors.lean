import A2A.Client.Properties.RestStreams
import A2A.Errors.Properties.Totality

namespace A2A.Client

open Library Errors Server

/-! An agent that speaks REST to another one, and throws on what it has got from there.

The error of a stream that has begun came with the status of a success, and keeps it.
-/

section Received

variable {format : NumberFormat} {parser : JsonParser format} {conversions : Conversions} {response : FetchResponse}
  {error : A2AError}

theorem construct_transport {errorClass : ErrorClass} {printer : Printer} {message metadata : Option JsonValue}
    {transport : TransportContext} (made : errorClass.construct printer message metadata transport = .ok error) :
    error.transport = transport := by
  rw [ErrorClass.construct] at made
  cases read : errorMessage printer message with
  | error failure =>
      rw [read] at made
      cases made
  | ok text =>
      rw [read] at made
      cases made
      rfl

theorem constructGeneric_transport {name : String} {printer : Printer} {message : Option JsonValue}
    {transport : TransportContext} (made : constructGeneric name printer message transport = .ok error) :
    error.transport = transport := by
  rw [constructGeneric] at made
  cases read : errorMessage printer message with
  | error failure =>
      rw [read] at made
      cases made
  | ok text =>
      rw [read] at made
      cases made
      rfl

theorem fromRestErrorBody_transport {printer : Printer} {statusCode : Int} {headers : Option JsonValue}
    {body : JsonValue} (made : fromRestErrorBody printer statusCode headers body = .ok error) :
    error.transport = .rest statusCode headers := by
  by_cases present : body = .null
  · rw [present] at made
    cases made
  · rw [fromRestErrorBody_eq printer statusCode headers present] at made
    cases found : findDetail (detailsOf body) with
    | error failure =>
        rw [found] at made
        cases made
    | ok detail =>
        rw [found] at made
        cases detail with
        | none => exact constructGeneric_transport made
        | some known => exact construct_transport made

/-- What an error of a response is thrown as has the status of the response. -/
theorem restError_status {printer : Printer} {body : JsonValue}
    (made : RestTransport.restError printer response body = .mapped error) :
    restStatusFor (.a2a error) = response.status := by
  rw [RestTransport.restError] at made
  split at made
  · rename_i decoded
    obtain rfl := ClientError.mapped.inj made
    rw [restStatusFor, fromRestErrorBody_transport decoded]
  · cases made

theorem processEvent_status {event : SseEvent}
    (failed : RestTransport.processEvent parser conversions response event = .error (.mapped error)) :
    restStatusFor (.a2a error) = response.status := by
  rw [RestTransport.processEvent] at failed
  split at failed
  · -- an error event
    have thrown := Except.error.inj failed
    rw [RestTransport.errorEvent] at thrown
    split at thrown
    · cases thrown
    · cases thrown
    · split at thrown
      · exact restError_status thrown
      · cases thrown
  · -- an event that cannot be read
    rw [RestTransport.processSseEventData] at failed
    split at failed
    · cases failed
    · split at failed
      · cases failed
      · rename_i value _
        cases read : StreamResponse.fromJSON conversions value with
        | ok event =>
            rw [read] at failed
            cases failed
        | error thrown =>
            rw [read] at failed
            cases failed

theorem takeEvents_mapped {process : SseEvent → Except ClientError (Option StreamResponse)} {events : List SseEvent}
    {ended : Except SseSizeError Unit} (failed : (takeEvents process events ended).2 = .error (.mapped error)) :
    ∃ event ∈ events, process event = .error (.mapped error) := by
  induction events with
  | nil => cases ended <;> cases failed
  | cons event rest ih =>
      rw [takeEvents] at failed
      cases taken : process event with
      | error refused =>
          rw [taken] at failed
          have same : Except.error refused = .error (ClientError.mapped error) := failed
          exact ⟨event, List.mem_cons_self, taken.trans (congrArg Except.error (Except.error.inj same))⟩
      | ok response =>
          rw [taken] at failed
          obtain ⟨other, member, refuses⟩ := ih failed
          exact ⟨other, List.mem_cons_of_mem event member, refuses⟩

/-- An error of the SDK that ends a stream has the status that the stream came with. -/
theorem readStream_status {path : List Char} (established : response.ok = true)
    (failed : (RestTransport.readStream parser conversions path response).2 = .error (.mapped error)) :
    restStatusFor (.a2a error) = response.status := by
  rw [RestTransport.readStream, if_pos established] at failed
  split at failed
  · obtain ⟨event, -, refuses⟩ := takeEvents_mapped failed
    exact processEvent_status refuses
  · cases failed

end Received

section Relayed

variable {format : NumberFormat} (parser : JsonParser format) (language : QueryLanguage) (conversions : Conversions)
  (express : Express) (server : RestServer SendMessageRequest)

/-- What a method makes of an object without any of the fields that it reads. -/
def nothingRead : (params : RpcParams) → Except ClientError params.Result
  | .sendMessage _ => RestTransport.sendMessageResult ⟨none⟩
  | .sendMessageStream _ | .resubscribe _ | .deleteTaskPushNotificationConfig _ => .ok ()
  | .getTask _ | .cancelTask _ => .ok (⟨"", "", none, [], [], none⟩ : Task)
  | .listTasks _ => .ok (⟨[], "", 0, 0⟩ : ListTasksResponse)
  | .createTaskPushNotificationConfig _ | .getTaskPushNotificationConfig _ =>
      .ok (⟨"", "", "", "", "", none⟩ : TaskPushNotificationConfig)
  | .listTaskPushNotificationConfigs _ => .ok (⟨[], ""⟩ : ListTaskPushNotificationConfigsResponse)

theorem decodeBody_error (body : JsonValue) (params : RpcParams) :
    RestTransport.decodeBody conversions (.object [("error", body)]) params = nothingRead params := by
  cases params <;> rfl

variable {parser conversions}

/-- An error under the status of a success is read as a result. -/
theorem receive_succeeding {params : RpcParams} {thrown : Thrown} {response : FetchResponse}
    (arrives : (RestHandler.handleError format thrown).Arrives response)
    (listed : (RestHandler.handleError format thrown).Listed format) (succeeds : response.ok = true)
    (filled : response.status ≠ 204) :
    RestTransport.receive parser conversions params response = (nothingRead params).map some := by
  have read : parser.parse response.text = .ok (toHTTPError thrown (restStatusFor thrown)) := by
    rw [arrives.text]
    exact parser.parse_stringify _ (listed _ rfl)
  by_cases reading : params.method = .deleteTaskPushNotificationConfig
  · cases params with
    | deleteTaskPushNotificationConfig params =>
        rw [RestTransport.receive, succeeds]
        rfl
    | _ => cases reading
  · rw [receive_read reading, RestTransport.readResponse, if_pos succeeds, if_neg filled, read]
    exact congrArg (Except.map some) (decodeBody_error conversions _ params)

variable (parser conversions)

/-- An agent that throws on the error of another agent's stream: its own caller sees no error, but a result that
nothing has been read for. -/
theorem stream_error_relayed {upstream : FetchResponse} {path : List Char} {error : A2AError}
    (established : upstream.ok = true) (filled : upstream.status ≠ 204)
    (failed : (RestTransport.readStream parser conversions path upstream).2 = .error (.mapped error))
    (agent : RpcAgent) (contents : server.content = RestHandler.readContent conversions)
    {legacyCompat : Bool} {params : RpcParams} (unary : params.method.streams = false)
    (named : (RestTransport.callFor params).Named) (dotless : ¬ (RestTransport.callFor params).Dotted)
    (reaches : ¬ (RestTransport.callFor params).Captured)
    (listed : ∀ value, RestTransport.requestBody params = some value → value.EveryObject ListedKeys)
    {mount : DotSegments.Mount} {request : HttpRequest} (arrives : RestArrival parser language mount params request)
    (current : (legacyCompat && Compat.isLegacyVersion ((orUndefined request.requestedVersion).getD "0.3")) = false)
    (rethrown : endedDirectly express server agent params request = .error (.a2a error))
    (source : AsyncIterator StreamResponse Thrown) (fuel : Nat) :
    restStatusFor (.a2a error) = upstream.status ∧
    ∃ reply, RestHandler.answer format Compat.openResponse language agent source fuel
        (Compat.restHandler express conversions.printer legacyCompat server request) = some reply ∧
      reply.status = upstream.status ∧ ∀ response, reply.Listed format → reply.Arrives response →
        RestTransport.receive parser conversions params response = (nothingRead params).map some := by
  obtain ⟨tenant, content, handed, dispatched⟩ := @restHandler_arrived format parser language conversions express
    server mount params request contents legacyCompat arrives named dotless reaches listed current
  have answered : RestHandler.answer format Compat.openResponse language agent source fuel
      (Compat.restHandler express conversions.printer legacyCompat server request) =
        some (RestHandler.handleError format (.a2a error)) := by
    rw [endedDirectly] at rethrown
    rw [dispatched]
    cases admits : admitted express server params request with
    | error thrown =>
        rw [admits] at rethrown
        obtain rfl := Except.error.inj rethrown
        rfl
    | ok context =>
        rw [admits] at rethrown
        have ended : (agent (params.overRest express) context).2 = .error (.a2a error) := rethrown
        dsimp only [RestHandler.answer]
        rw [handed]
        dsimp only
        rw [unary, if_neg Bool.false_ne_true, ended]
  have kept := readStream_status established failed
  refine ⟨kept, _, answered, kept, ?_⟩
  intro response bodies arrived
  have status : response.status = upstream.status := arrived.status.trans kept
  have succeeds : response.ok = true := by
    rw [FetchResponse.ok, status]
    exact established
  exact receive_succeeding arrived bodies succeeds (status ▸ filled)

section Sample

/-- What a client gets of a stream that breaks off. -/
def lostError : A2AError where
  semantic := none
  name := "A2AError"
  reason := "INTERNAL_ERROR"
  message := "lost"
  metadata := none
  transport := .rest 200 (some (.object []))

theorem brokenResponse_lost :
    (RestTransport.readStream (stringifyParser decimalFormat) integerConversions [] brokenResponse).2 =
      .error (.mapped lostError) := by
  have ended := @readStream_frames decimalFormat (stringifyParser decimalFormat) integerConversions brokenResponse
    [.task ⟨"t1", "", none, [], [], none⟩] (some (.error "lost")) [] brokenRestFrames_written
    ⟨rfl, rfl, brokenResponse_text⟩
  rw [ended]
  rfl

/-- An agent that throws on this error whatever it is asked. -/
def lostAgent : RpcAgent := fun _ _ => ([], .error (.a2a lostError))

/-- Its caller gets a task without an id. -/
theorem stream_error_relayed_getTask :
    RestTransport.receive (stringifyParser decimalFormat) integerConversions getTaskParams
        ⟨200, "OK", some "application/a2a+json; charset=utf-8", .object [],
          [Json.stringify decimalFormat (toHTTPError (.a2a lostError) 200)]⟩ =
      .ok (some (⟨"", "", none, [], [], none⟩ : Task)) := by
  have listed (value : JsonValue) (sent : RestTransport.requestBody getTaskParams = some value) :
      value.EveryObject ListedKeys := by
    cases sent
  have reaches : ¬ (RestTransport.callFor getTaskParams).Captured := fun captured => absurd captured.1 (by decide)
  have rethrown : endedDirectly .five restServer lostAgent getTaskParams getTaskRequest = .error (.a2a lostError) := rfl
  obtain ⟨-, reply, answered, -, ends⟩ := @stream_error_relayed decimalFormat (stringifyParser decimalFormat) formLanguage
    integerConversions .five restServer brokenResponse [] lostError rfl (by decide) brokenResponse_lost lostAgent rfl
    false getTaskParams rfl (by decide) (by decide) reaches listed RestCall.restMount getTaskRequest
    getTaskRequest_arrives rfl rethrown (.ofList [] none) 0
  obtain ⟨tenant, content, handed, dispatched⟩ := @restHandler_arrived decimalFormat (stringifyParser decimalFormat)
    formLanguage integerConversions .five restServer RestCall.restMount getTaskParams getTaskRequest rfl false
    getTaskRequest_arrives (by decide) (by decide) reaches listed rfl
  obtain ⟨context, admits⟩ : ∃ context, admitted .five restServer getTaskParams getTaskRequest = .ok context := ⟨_, rfl⟩
  rw [dispatched, admits] at answered
  dsimp only [RestHandler.answer] at answered
  rw [handed] at answered
  obtain rfl : RestHandler.handleError decimalFormat (.a2a lostError) = reply := Option.some.inj answered
  refine ends _ ?_ ⟨rfl, by decide +kernel, List.flatten_singleton⟩
  intro body same
  cases Json.stringify_injective decimalFormat same
  exact ⟨(by decide +kernel : ListedKeys ["error"]),
    ⟨(by decide +kernel : ListedKeys ["code", "status", "message", "details"]), trivial, trivial, trivial,
      ⟨⟨(by decide +kernel : ListedKeys ["@type", "reason", "domain"]), trivial, trivial, trivial, trivial⟩, trivial⟩,
      trivial⟩, trivial⟩

end Sample

end Relayed

end A2A.Client
