import A2A.Client.Properties.JsonRpcStreams
import A2A.Client.Properties.RestCalls

namespace A2A.Client

open Library Errors Server

/-! A stream over REST, from the generator of the request handler to the one of the client.

An error behind the events is an error event, and so comes with the status of a success.
-/

section Streams

variable {format : NumberFormat} (parser : JsonParser format) (language : QueryLanguage) (conversions : Conversions)
  (express : Express) (server : RestServer SendMessageRequest)

/-- What goes out on a stream. -/
def restFrames (events : List StreamResponse) (failure : Option Thrown) : List SseFrame :=
  framesOf StreamResponse.toJSON (fun thrown => toHTTPError thrown (restStatusFor thrown)) events failure

section Writing

variable {activated : Option Extensions} {source : AsyncIterator StreamResponse Thrown} {events : List StreamResponse}
  {failure : Option Thrown}

/-- The head of a stream, behind the type that the router has set. -/
def restHead (activated : Option Extensions) : List ResponseCall :=
  [.setHeader "Content-Type" [RestHandler.A2A_CONTENT_TYPE]] ++
    SSE_HEADERS.map (fun header => .setHeader header.1 [header.2]) ++
    (activated.map (.setHeader "A2A-Extensions")).toList ++ [.flushHeaders]

theorem head_rest (activated : Option Extensions) (toJSON : StreamResponse → Except Thrown JsonValue) :
    (RestHandler.streamSender Compat.openResponse format activated toJSON).head
        [.setHeader "Content-Type" [RestHandler.A2A_CONTENT_TYPE]] =
      .ok () (restHead activated) := by
  cases activated <;> rfl

theorem writable_rest (activated : Option Extensions) :
    Compat.openResponse.writableEnded (restHead activated) = false := by
  cases activated <;> rfl

theorem ofCalls_restHead (activated : Option Extensions) :
    HttpReply.ofCalls format (restHead activated) = ⟨200, some "text/event-stream", []⟩ := by
  cases activated <;> simp [HttpReply.ofCalls, restHead, SSE_HEADERS, HttpReply.after]

theorem report_rest (toJSON : StreamResponse → Except Thrown JsonValue) (texts : List Text) (thrown : Thrown) :
    (RestHandler.streamSender Compat.openResponse format activated toJSON).report thrown
        (restHead activated ++ texts.map .write) =
      .ok () (restHead activated ++ texts.map .write ++
        [.write (formatSSEErrorEvent format (toHTTPError thrown (restStatusFor thrown)))]) := by
  have writable := (writableEnded_write texts).trans (writable_rest activated)
  exact (unlessEnded_eq writable).trans rfl

/-- A stream that has a head, with all its frames. -/
theorem sendStreamResponse_listed (lists : source.Lists events failure) {fuel : Nat} (long : events.length < fuel)
    (peeked : events ≠ [] ∨ failure = none) :
    RestHandler.sendStreamResponse format Compat.openResponse activated source fuel =
      some ⟨200, some "text/event-stream", ((restFrames events failure).map (SseFrame.text format)).flatten⟩ := by
  have sent := @send_listed StreamResponse (RestHandler.streamSender Compat.openResponse format activated
    fun event => .ok event.toJSON) source events failure (fun event => formatSSEEvent format event.toJSON)
    [.setHeader "Content-Type" [RestHandler.A2A_CONTENT_TYPE]] (restHead activated) (fun _ _ => rfl) (fun _ => rfl) lists
    (head_rest activated _) fuel long peeked
  have texts : events.map (fun event => ResponseCall.write (formatSSEEvent format event.toJSON)) =
      (events.map fun event => formatSSEEvent format event.toJSON).map .write := by
    rw [List.map_map]
    rfl
  have concluded := @conclude_open _ StreamResponse
    (RestHandler.streamSender Compat.openResponse format activated fun event => .ok event.toJSON) rfl
    ((writableEnded_write (events.map fun event => formatSSEEvent format event.toJSON)).trans (writable_rest activated))
    (fun thrown => formatSSEErrorEvent format (toHTTPError thrown (restStatusFor thrown))) failure
    (fun thrown => report_rest _ _ thrown)
  rw [texts, concluded] at sent
  obtain ⟨outcome, returned, ended⟩ := Option.map_eq_some_iff.mp sent
  rw [RestHandler.sendStreamResponse, returned, Option.map_some, ended]
  dsimp only
  rw [restFrames, texts_framesOf, List.append_assoc (restHead activated), ← List.map_append,
    ofCalls_written (ofCalls_restHead activated)]

/-- A stream that has none. -/
theorem sendStreamResponse_refused {thrown : Thrown} (lists : source.Lists [] (some thrown)) (fuel : Nat) :
    RestHandler.sendStreamResponse format Compat.openResponse activated source fuel =
      some (RestHandler.handleError format thrown) := by
  have sent := @send_refused StreamResponse (RestHandler.streamSender Compat.openResponse format activated
    fun event => .ok event.toJSON) source [.setHeader "Content-Type" [RestHandler.A2A_CONTENT_TYPE]] thrown lists fuel
  obtain ⟨outcome, returned, ended⟩ := Option.map_eq_some_iff.mp sent
  have refused : (RestHandler.streamSender Compat.openResponse format activated
      fun event : StreamResponse => .ok event.toJSON).refuse thrown
        [.setHeader "Content-Type" [RestHandler.A2A_CONTENT_TYPE]] =
      .ok () ([.setHeader "Content-Type" [RestHandler.A2A_CONTENT_TYPE]] ++
        (activated.map (.setHeader "A2A-Extensions")).toList ++
          [.json (restStatusFor thrown) (toHTTPError thrown (restStatusFor thrown))]) := by
    cases activated <;> rfl
  rw [refused] at ended
  rw [RestHandler.sendStreamResponse, returned, Option.map_some, ended]
  cases activated <;> rfl

end Writing

section Reading

variable {parser conversions} {response : FetchResponse} {events : List StreamResponse} {failure : Option Thrown}

/-- A client takes its own event from a stream. -/
theorem processEvent_event {event : StreamResponse} (listed : event.toJSON.EveryObject ListedKeys) :
    RestTransport.processEvent parser conversions response (SseFrame.event format (.dataEvent event.toJSON)) =
      .ok (some event.relayed) := by
  obtain ⟨fields, object⟩ : ∃ fields, event.toJSON = .object fields := by
    cases event <;> exact ⟨_, rfl⟩
  have filled : isBlank (Json.stringify format event.toJSON) = false := by
    rw [object]
    exact stringify_object_filled fields
  have message : ¬ (SseFrame.event format (.dataEvent event.toJSON)).type = "error".toList :=
    (by decide : ¬ "message".toList = "error".toList)
  have data : (SseFrame.event format (.dataEvent event.toJSON)).data = Json.stringify format event.toJSON := rfl
  rw [RestTransport.processEvent, if_neg message, data, RestTransport.processSseEventData, if_neg (by simp [filled]),
    parser.parse_stringify _ listed]
  dsimp only
  rw [StreamResponse.fromJSON_toJSON]
  rfl

/-- It throws at an error event of its own. -/
theorem processEvent_error {thrown : Thrown}
    (listed : (toHTTPError thrown (restStatusFor thrown)).EveryObject ListedKeys) :
    RestTransport.processEvent parser conversions response
        (SseFrame.event format (.errorEvent (toHTTPError thrown (restStatusFor thrown)))) =
      .error (restReceived conversions response thrown) := by
  have type : (SseFrame.event format (.errorEvent (toHTTPError thrown (restStatusFor thrown)))).type =
      "error".toList := rfl
  have data : (SseFrame.event format (.errorEvent (toHTTPError thrown (restStatusFor thrown)))).data =
      Json.stringify format (toHTTPError thrown (restStatusFor thrown)) := rfl
  rw [RestTransport.processEvent, if_pos type, data, RestTransport.errorEvent, parser.parse_stringify _ listed]
  rfl

theorem readStream_frames {path : List Char}
    (written : ∀ frame ∈ restFrames events failure,
      frame.value.EveryObject ListedKeys ∧ frame.Fits format DEFAULT_MAX_SSE_EVENT_SIZE_BYTES)
    (arrives : HttpReply.Arrives ⟨200, some "text/event-stream",
      ((restFrames events failure).map (SseFrame.text format)).flatten⟩ response) :
    RestTransport.readStream parser conversions path response =
      (events.map fun event => some event.relayed, endedWith (restReceived conversions response) failure) := by
  have success : response.ok = true := by
    rw [FetchResponse.ok, arrives.status]
    rfl
  have streamed : response.isEventStream = true := by
    rw [FetchResponse.isEventStream, arrives.contentType]
    exact (by decide +kernel : "text/event-stream".toList.isPrefixOf "text/event-stream".toList = true)
  have fits := fun frame member => (written frame member).2
  have listed := fun frame member => (written frame member).1
  rw [RestTransport.readStream, if_pos success, if_pos streamed, readEvents_framesOf fits arrives.text]
  rw [restFrames, framesOf, List.forall_mem_append, List.forall_mem_map] at listed
  refine takeEvents_framesOf (fun event member => processEvent_event (listed.1 event member)) ?_
  intro thrown failed
  rw [failed] at listed
  exact processEvent_error (listed.2 _ List.mem_cons_self)

theorem readStream_failing {thrown : Thrown} {path : List Char} (failing : Failing thrown)
    (arrives : (RestHandler.handleError format thrown).Arrives response)
    (listed : (RestHandler.handleError format thrown).Listed format) :
    RestTransport.readStream parser conversions path response = ([], .error (restReceived conversions response thrown)) := by
  rw [RestTransport.readStream, if_neg (by simp [ok_failing failing arrives]),
    handleErrorResponse_arrived arrives listed]

end Reading

/-- The stream as it would be without a wire in between, but for what the wire does not carry. -/
def restStreamDirectly (response : FetchResponse) (events : List StreamResponse) (failure : Option Thrown) :
    Except Thrown (CallContext Unit) → List (Option StreamResponse) × Except ClientError Unit
  | .error thrown => ([], .error (restReceived conversions response thrown))
  | .ok _ => (events.map fun event => some event.relayed, endedWith (restReceived conversions response) failure)

/-- The error that a stream is refused with, if it is. -/
def refusedWith (events : List StreamResponse) (failure : Option Thrown) :
    Except Thrown (CallContext Unit) → Option Thrown
  | .error thrown => some thrown
  | .ok _ => if events = [] then failure else none

/-- A stream over REST is the stream of the request handler. -/
theorem stream_over_rest (agent : RpcAgent) (contents : server.content = RestHandler.readContent conversions)
    {legacyCompat : Bool} {params : RpcParams} (streams : params.method.streams = true)
    (named : (RestTransport.callFor params).Named) (dotless : ¬ (RestTransport.callFor params).Dotted)
    (listed : ∀ value, RestTransport.requestBody params = some value → value.EveryObject ListedKeys)
    {mount : DotSegments.Mount} {request : HttpRequest} (arrives : RestArrival parser language mount params request)
    (current : (legacyCompat && Compat.isLegacyVersion ((orUndefined request.requestedVersion).getD "0.3")) = false)
    {source : AsyncIterator StreamResponse Thrown} {events : List StreamResponse} {failure : Option Thrown}
    (lists : source.Lists events failure) {fuel : Nat} (long : events.length < fuel)
    (written : ∀ frame ∈ restFrames events failure,
      frame.value.EveryObject ListedKeys ∧ frame.Fits format DEFAULT_MAX_SSE_EVENT_SIZE_BYTES) :
    let outcome := Compat.restHandler express conversions.printer legacyCompat server request
    let context := admitted express server params request
    rpcCallOf language outcome = context.toOption.map (params.overRest express, ·) ∧
    ∃ reply, RestHandler.answer format Compat.openResponse language agent source fuel outcome = some reply ∧
      ∀ response, (reply.contentType ≠ some "text/event-stream" → reply.Listed format) → reply.Arrives response →
        (∀ thrown, refusedWith events failure context = some thrown → Failing thrown) →
        RestTransport.readStream parser conversions (RestTransport.callFor params).request.path response =
          restStreamDirectly conversions response events failure context := by
  have reaches : ¬ (RestTransport.callFor params).Captured := by
    cases params with
    | sendMessageStream | resubscribe => exact id
    | _ => cases streams
  obtain ⟨tenant, content, handed, dispatched⟩ := @restHandler_arrived format parser language conversions express
    server mount params request contents legacyCompat arrives named dotless reaches listed current
  have plain : some (withCharset RestHandler.A2A_CONTENT_TYPE) ≠ some "text/event-stream" := by decide +kernel
  dsimp only
  rw [dispatched]
  cases admitted express server params request with
  | error thrown =>
      refine ⟨rfl, _, rfl, ?_⟩
      intro response bodies answered failing
      exact readStream_failing (failing thrown rfl) answered (bodies plain)
  | ok context =>
      refine ⟨congrArg (Option.map (·, context)) handed, ?_⟩
      dsimp only [RestHandler.answer]
      rw [handed]
      dsimp only
      rw [streams, if_pos rfl]
      by_cases peeked : events ≠ [] ∨ failure = none
      · refine ⟨_, sendStreamResponse_listed lists long peeked, ?_⟩
        intro response bodies answered failing
        exact readStream_frames written answered
      · obtain ⟨rfl, failed⟩ : events = [] ∧ failure ≠ none := by simpa [not_or] using peeked
        obtain ⟨thrown, rfl⟩ := Option.ne_none_iff_exists'.mp failed
        refine ⟨_, sendStreamResponse_refused lists fuel, ?_⟩
        intro response bodies answered failing
        exact readStream_failing (failing thrown rfl) answered (bodies plain)

section Sample

def resubscribeRequest : HttpRequest where
  method := .post
  path := "/acme/tasks/t1:subscribe".toList
  query := []
  body := some (.object [])
  extensions := none
  requestedVersion := some "1.0"
  headers := .object []

theorem resubscribeRequest_path :
    resubscribeRequest.path = (RestTransport.callFor resubscribeParams).request.path := by
  decide +kernel

theorem resubscribeRequest_arrives :
    RestArrival (stringifyParser decimalFormat) formLanguage RestCall.restMount resubscribeParams resubscribeRequest where
  method := rfl
  path := by
    rw [resubscribeRequest_path]
    exact RestCall.arriving_request RestCall.restMount (by decide) (by decide)
  query := by
    rw [resubscribeRequest_path, parse_request_query formLanguage (by decide)]
    rfl
  body _ sent := by cases sent
  noBody _ := .inr rfl

/-- A stream that breaks off behind its first event. -/
def brokenRestFrames : List SseFrame := restFrames [.task ⟨"t1", "", none, [], [], none⟩] (some (.error "lost"))

theorem brokenRestFrames_written (frame : SseFrame) (member : frame ∈ brokenRestFrames) :
    frame.value.EveryObject ListedKeys ∧ frame.Fits decimalFormat DEFAULT_MAX_SSE_EVENT_SIZE_BYTES := by
  rcases List.mem_cons.mp member with rfl | member
  · refine ⟨⟨(by decide +kernel : ListedKeys ["task"]), ⟨(by decide +kernel : ListedKeys ["id"]), trivial, trivial⟩,
      trivial⟩, ?_⟩
    decide +kernel
  · cases List.mem_singleton.mp member
    refine ⟨⟨(by decide +kernel : ListedKeys ["error"]), ⟨(by decide +kernel : ListedKeys ["code", "status", "message",
      "details"]), trivial, trivial, trivial, trivial, trivial⟩, trivial⟩, ?_⟩
    decide +kernel

/-- The text is cut at every character. -/
def brokenResponse : FetchResponse :=
  ⟨200, "OK", some "text/event-stream", .object [],
    ((brokenRestFrames.map (SseFrame.text decimalFormat)).flatten).map fun char => [char]⟩

theorem brokenResponse_text : brokenResponse.text = (brokenRestFrames.map (SseFrame.text decimalFormat)).flatten := by
  have whole (text : Text) : (text.map fun char => [char]).flatten = text := by
    rw [← List.flatMap_def, List.flatMap_singleton']
  exact whole _

theorem stream_over_rest_broken :
    RestTransport.readStream (stringifyParser decimalFormat) integerConversions
        (RestTransport.callFor resubscribeParams).request.path brokenResponse =
      ([some (.task ⟨"t1", "", none, [], [], none⟩)],
        .error (restReceived integerConversions brokenResponse (.error "lost"))) := by
  have listed (value : JsonValue) (sent : RestTransport.requestBody resubscribeParams = some value) :
      value.EveryObject ListedKeys := by
    cases sent
  obtain ⟨-, reply, answered, ends⟩ := @stream_over_rest decimalFormat (stringifyParser decimalFormat) formLanguage
    integerConversions .five restServer tenantAgent rfl false resubscribeParams rfl (by decide)
    (by decide) listed RestCall.restMount resubscribeRequest resubscribeRequest_arrives rfl
    (.ofList [.task ⟨"t1", "", none, [], [], none⟩] (some (.error "lost")))
    [.task ⟨"t1", "", none, [], [], none⟩] (some (.error "lost")) (AsyncIterator.ofList_lists _ _) 2 (by decide)
    brokenRestFrames_written
  obtain ⟨tenant, content, handed, dispatched⟩ := @restHandler_arrived decimalFormat (stringifyParser decimalFormat)
    formLanguage integerConversions .five restServer RestCall.restMount resubscribeParams resubscribeRequest
    rfl false resubscribeRequest_arrives (by decide) (by decide) id listed rfl
  obtain ⟨context, admits⟩ : ∃ context, admitted .five restServer resubscribeParams resubscribeRequest = .ok context :=
    ⟨_, rfl⟩
  rw [dispatched, admits] at answered
  dsimp only [RestHandler.answer] at answered
  rw [handed] at answered
  have sent := @sendStreamResponse_listed decimalFormat (context.updateAll []).activatedExtensions
    (.ofList [.task ⟨"t1", "", none, [], [], none⟩] (some (.error "lost")))
    [.task ⟨"t1", "", none, [], [], none⟩] (some (.error "lost")) (AsyncIterator.ofList_lists _ _) 2 (by decide)
    (.inl (List.cons_ne_nil _ _))
  obtain rfl := Option.some.inj (sent.symm.trans answered)
  rw [admits] at ends
  refine ends brokenResponse (fun other => absurd rfl other) ⟨rfl, rfl, brokenResponse_text⟩ ?_
  intro thrown failed
  cases failed

end Sample

end Streams

end A2A.Client
