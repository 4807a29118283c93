import A2A.Client.Properties.JsonRpcCalls
import A2A.Client.Properties.OpenStreams

namespace A2A.Client

open Library Errors Server

/-! A stream over JSON-RPC, from the generator of the request handler to the one of the client.

The events come out in their order, whichever way the connection cuts the text; an error behind them is an
error event, and one before them an ordinary response.
-/

section Streams

variable {format : NumberFormat} (parser : JsonParser format) (conversions : Conversions)

/-- What goes out on a stream. -/
def streamFrames (requestId : Nat) (body : JsonValue) (events : List StreamResponse) (failure : Option Thrown) :
    List SseFrame :=
  events.map (fun event => .dataEvent (eventEnvelope (.number requestId) event)) ++
    (failure.map fun thrown => .errorEvent (Compat.rpcErrorResponse false body thrown)).toList

theorem streamFrames_eq (requestId : Nat) (body : JsonValue) (events : List StreamResponse)
    (failure : Option Thrown) :
    streamFrames requestId body events failure =
      framesOf (eventEnvelope (.number requestId)) (Compat.rpcErrorResponse false body) events failure := rfl

/-- The head of a stream. -/
def streamHead : List ResponseCall :=
  SSE_HEADERS.map (fun header => .setHeader header.1 [header.2]) ++ [.flushHeaders]

section Writing

variable {calls : List ResponseCall} {requestId : Nat} {body : JsonValue} {events : List StreamResponse}
  {failure : Option Thrown}

theorem head_open {α : Type} (toJSON : α → Except Thrown JsonValue) (calls : List ResponseCall) :
    (Compat.jsonRpcStreamSender Compat.openResponse format false body toJSON).head calls =
      .ok () (calls ++ streamHead) := by
  have headed : (Compat.jsonRpcStreamSender Compat.openResponse format false body toJSON).head calls =
      .ok () (((((calls ++ [.setHeader "Content-Type" ["text/event-stream"]]) ++
        [.setHeader "Cache-Control" ["no-cache"]]) ++ [.setHeader "Connection" ["keep-alive"]]) ++
          [.setHeader "X-Accel-Buffering" ["no"]]) ++ [.flushHeaders]) := rfl
  rw [headed]
  simp [streamHead, SSE_HEADERS]

theorem writable_streaming (preset : OnlyExtensions calls) :
    Compat.openResponse.writableEnded (calls ++ streamHead) = false := by
  simp only [Compat.openResponse, streamHead, SSE_HEADERS, List.any_append, List.any_map]
  refine Bool.or_eq_false_iff.mpr ⟨?_, by simp⟩
  refine List.any_eq_false.mpr fun call member => ?_
  obtain ⟨activated, rfl⟩ := preset call member
  exact Bool.false_ne_true

theorem headersSent_streaming (calls : List ResponseCall) (texts : List Text) :
    Compat.openResponse.headersSent (calls ++ streamHead ++ texts.map .write) = true := by
  simp [Compat.openResponse, streamHead]

theorem report_streaming {α : Type} (toJSON : α → Except Thrown JsonValue) (texts : List Text) (thrown : Thrown) :
    (Compat.jsonRpcStreamSender Compat.openResponse format false body toJSON).report thrown
        (calls ++ streamHead ++ texts.map .write) =
      .ok () (calls ++ streamHead ++ texts.map .write ++
        [.write (formatSSEErrorEvent format (Compat.rpcErrorResponse false body thrown))]) := by
  have sent := headersSent_streaming calls texts
  have reads : (Compat.jsonRpcStreamSender Compat.openResponse format false body toJSON).report thrown
      (calls ++ streamHead ++ texts.map .write) =
        (if Compat.openResponse.headersSent (calls ++ streamHead ++ texts.map .write) then
          Compat.openResponse.call (.write (formatSSEErrorEvent format (Compat.rpcErrorResponse false body thrown)))
        else Compat.openResponse.call (.json 500 (Compat.rpcErrorResponse false body thrown)) : Responding)
          (calls ++ streamHead ++ texts.map .write) := rfl
  rw [reads, sent, if_pos rfl]
  rfl

/-- The endpoint has no `catch` to run for a sender that ends well. -/
theorem answerOf_sent {source : AsyncIterator StreamResponse Thrown} {fuel : Nat} {answered : List ResponseCall}
    (sends : ((Compat.jsonRpcStreamSender Compat.openResponse format false body
      fun event => .ok (eventEnvelope (.number requestId) event)).send source fuel calls).map Sent.outcome =
        some (.ok () answered)) :
    answerOf Compat.openResponse format body source fuel calls (.stream (.number requestId)) =
      some (.ok () answered) := by
  obtain ⟨sent, returned, outcome⟩ := Option.map_eq_some_iff.mp sends
  have peeks : Compat.alwaysStreamSse false body = false := rfl
  rw [answerOf, Compat.jsonRpcSend, peeks, if_neg Bool.false_ne_true, returned]
  dsimp only [Option.map_some]
  rw [outcome]

/-- A stream that has a head, with all its frames. -/
theorem answerOf_stream (preset : OnlyExtensions calls) {source : AsyncIterator StreamResponse Thrown}
    (lists : source.Lists events failure) {fuel : Nat} (long : events.length < fuel)
    (peeked : events ≠ [] ∨ failure = none) :
    answerOf Compat.openResponse format body source fuel calls (.stream (.number requestId)) =
      some (.ok () (calls ++ streamHead ++
        ((streamFrames requestId body events failure).map (SseFrame.text format)).map .write ++ [.finish])) := by
  have sent := @send_listed StreamResponse (Compat.jsonRpcStreamSender Compat.openResponse format false body
    fun event => .ok (eventEnvelope (.number requestId) event)) source events failure
    (fun event => formatSSEEvent format (eventEnvelope (.number requestId) event)) calls (calls ++ streamHead)
    (fun _ _ => rfl) (fun _ => rfl) lists (head_open _ calls) fuel long peeked
  have texts : events.map (fun event => ResponseCall.write
      (formatSSEEvent format (eventEnvelope (.number requestId) event))) =
        (events.map fun event => formatSSEEvent format (eventEnvelope (.number requestId) event)).map .write := by
    rw [List.map_map]
    rfl
  rw [texts] at sent
  refine answerOf_sent (sent.trans (congrArg some ?_))
  rw [streamFrames_eq, texts_framesOf, List.map_append, ← List.append_assoc]
  exact conclude_open rfl ((writableEnded_write _).trans (writable_streaming preset)) failure
    (fun thrown => report_streaming _ _ thrown)

/-- A stream that has none. -/
theorem answerOf_refused {source : AsyncIterator StreamResponse Thrown} {thrown : Thrown}
    (lists : source.Lists [] (some thrown)) (fuel : Nat) :
    answerOf Compat.openResponse format body source fuel calls (.stream (.number requestId)) =
      some (.ok () (calls ++ [.json 200 (Compat.rpcErrorResponse false body thrown)])) :=
  answerOf_sent (send_refused lists fuel)

end Writing

section Reading

variable {parser conversions} {requestId : Nat} {body : JsonValue} {events : List StreamResponse}
  {failure : Option Thrown} {response : FetchResponse}

/-- A client takes its own event from a stream. -/
theorem processSseEventData_event {event : StreamResponse}
    (listed : (eventEnvelope (.number requestId) event).EveryObject ListedKeys) :
    processSseEventData parser conversions requestId
        (Json.stringify format (eventEnvelope (.number requestId) event)) =
      .ok (some event.relayed) := by
  have filled : isBlank (Json.stringify format (eventEnvelope (.number requestId) event)) = false :=
    stringify_object_filled _
  have identified : property (eventEnvelope (.number requestId) event) "id" = .ok (some (.number requestId)) := rfl
  have succeeded : hasProperty (eventEnvelope (.number requestId) event) "error" = .ok false := rfl
  have carried : field (eventEnvelope (.number requestId) event) "result" = some event.toJSON := rfl
  rw [processSseEventData, if_neg (by simp [filled]), parser.parse_stringify _ listed]
  dsimp only
  rw [identified]
  dsimp only [bind, Except.bind]
  rw [isId_self, succeeded, carried]
  dsimp only
  rw [StreamResponse.fromJSON_toJSON]
  rfl

theorem bodyId_rpcRequest {method : String} {params : JsonValue} (counted : 0 < requestId) :
    Compat.bodyId (rpcRequest method params requestId) = .number requestId := by
  have given : field (rpcRequest method params requestId) "id" = some (.number requestId) := rfl
  have truthy : isFalsy (some (.number requestId)) = false :=
    decide_eq_false (mt Rat.natCast_eq_zero_iff.mp (Nat.ne_of_gt counted))
  rw [Compat.bodyId, given, truthy]
  rfl

/-- It throws at an error event of its own. -/
theorem processSseEventData_error {thrown : Thrown} (own : Compat.bodyId body = .number requestId)
    (listed : (Compat.rpcErrorResponse false body thrown).EveryObject ListedKeys) :
    processSseEventData parser conversions requestId
        (Json.stringify format (Compat.rpcErrorResponse false body thrown)) =
      .error (sseEventError format conversions.printer (toJsonRpcError thrown).toJson) := by
  have filled : isBlank (Json.stringify format (Compat.rpcErrorResponse false body thrown)) = false :=
    stringify_object_filled _
  have identified : property (Compat.rpcErrorResponse false body thrown) "id" = .ok (some (.number requestId)) := by
    rw [← own]
    rfl
  have failed : hasProperty (Compat.rpcErrorResponse false body thrown) "error" = .ok true := rfl
  rw [processSseEventData, if_neg (by simp [filled]), parser.parse_stringify _ listed]
  dsimp only
  rw [identified]
  dsimp only [bind, Except.bind]
  rw [isId_self, failed]
  rfl

/-- How the client's generator ends behind its events. -/
def streamEnding (format : NumberFormat) (conversions : Conversions) : Option Thrown → Except ClientError Unit
  | none => .ok ()
  | some thrown => .error (sseEventError format conversions.printer (toJsonRpcError thrown).toJson)

/-- What the client makes of the frames of a stream. -/
theorem takeEvents_frames (own : Compat.bodyId body = .number requestId)
    (listed : ∀ frame ∈ streamFrames requestId body events failure, frame.value.EveryObject ListedKeys) :
    takeEvents (fun event => processSseEventData parser conversions requestId event.data)
        ((streamFrames requestId body events failure).map (SseFrame.event format)) (.ok ()) =
      (events.map fun event => some event.relayed, streamEnding format conversions failure) := by
  rw [streamFrames, List.forall_mem_append, List.forall_mem_map] at listed
  have ends : streamEnding format conversions failure =
      endedWith (fun thrown => sseEventError format conversions.printer (toJsonRpcError thrown).toJson) failure := by
    cases failure <;> rfl
  rw [streamFrames_eq, ends]
  refine takeEvents_framesOf (fun event member => processSseEventData_event (listed.1 event member)) ?_
  intro thrown failed
  rw [failed] at listed
  exact processSseEventData_error own (listed.2 _ List.mem_cons_self)

/-- What a stream is on the wire. -/
theorem ofCalls_stream {calls : List ResponseCall} (preset : OnlyExtensions calls) (texts : List Text) :
    HttpReply.ofCalls format (calls ++ streamHead ++ texts.map .write ++ [.finish]) =
      ⟨200, some "text/event-stream", texts.flatten⟩ := by
  refine ofCalls_written ?_ texts
  rw [ofCalls_extensions preset]
  simp [HttpReply.ofCalls, streamHead, SSE_HEADERS, HttpReply.after]

end Reading

/-- The stream as it would be without a wire in between, but for what the wire does not carry. -/
def streamDirectly (format : NumberFormat) (method : HandlerMethod) (streaming : Except Thrown Bool)
    (events : List StreamResponse) (failure : Option Thrown) :
    Except Thrown (CallContext Unit) → List (Option StreamResponse) × Except ClientError Unit
  | .error thrown => ([], .error (receivedError conversions thrown))
  | .ok _ =>
      match streaming, events, failure with
      | .error thrown, _, _ => ([], .error (receivedError conversions thrown))
      | .ok false, _, _ => ([], .error (receivedError conversions (streamingRefused (methodName method))))
      | .ok true, [], some thrown => ([], .error (receivedError conversions thrown))
      | .ok true, events, failure =>
          (events.map fun event => some event.relayed, streamEnding format conversions failure)

section Reading

variable {parser conversions} {method : String} {requestId : Nat} {body : JsonValue} {response : FetchResponse}

theorem errorOfBody_parsed {type : Option String} {status : Int} {error : JsonRpcError} {reply : JsonValue}
    (arrives : HttpReply.Arrives ⟨status, type, Json.stringify format reply⟩ response)
    (listed : reply.EveryObject ListedKeys) (given : property reply "error" = .ok (some error.toJson)) :
    errorOfBody parser conversions response = some (mapJsonRpcErrorToSdkError conversions.printer error.toJson) := by
  rw [errorOfBody, arrives.text, parser.parse_stringify reply listed]
  dsimp only
  rw [given]
  rfl

/-- An answer in place of a stream is thrown. -/
theorem readRpcStream_reply {status : Int} {error : JsonRpcError}
    {reply : JsonValue}
    (arrives : HttpReply.Arrives ⟨status, some "application/json; charset=utf-8", Json.stringify format reply⟩
      response)
    (listed : reply.EveryObject ListedKeys) (given : property reply "error" = .ok (some error.toJson)) :
    readRpcStream parser conversions method requestId response =
      ([], .error (mapJsonRpcErrorToSdkError conversions.printer error.toJson)) := by
  have plain : response.isEventStream = false := by
    rw [FetchResponse.isEventStream, arrives.contentType]
    exact (by decide +kernel :
      "text/event-stream".toList.isPrefixOf "application/json; charset=utf-8".toList = false)
  rw [readRpcStream, plain, errorOfBody_parsed arrives listed given]
  split <;> rfl

theorem readRpcStream_frames {events : List StreamResponse} {failure : Option Thrown}
    (own : Compat.bodyId body = .number requestId)
    (listed : ∀ frame ∈ streamFrames requestId body events failure, frame.value.EveryObject ListedKeys)
    (fits : ∀ frame ∈ streamFrames requestId body events failure,
      frame.Fits format DEFAULT_MAX_SSE_EVENT_SIZE_BYTES)
    (arrives : HttpReply.Arrives ⟨200, some "text/event-stream",
      ((streamFrames requestId body events failure).map (SseFrame.text format)).flatten⟩ response) :
    readRpcStream parser conversions method requestId response =
      (events.map fun event => some event.relayed, streamEnding format conversions failure) := by
  have success : response.ok = true := by
    rw [FetchResponse.ok, arrives.status]
    rfl
  have streamed : response.isEventStream = true := by
    rw [FetchResponse.isEventStream, arrives.contentType]
    exact (by decide +kernel : "text/event-stream".toList.isPrefixOf "text/event-stream".toList = true)
  rw [readRpcStream, if_pos success, if_pos streamed, readEvents_framesOf fits arrives.text]
  exact takeEvents_frames own listed

end Reading

theorem callHandler_streams (handler : RequestHandler Unit RpcParams JsonValue) (requestId : JsonValue)
    {method : HandlerMethod} (streams : method.streams = true) (params : Option JsonValue) (decoded : RpcParams)
    (context : CallContext Unit) :
    (callHandler handler requestId method params decoded context).response = .stream requestId := by
  rw [callHandler, streams]
  rfl

/-- A stream over JSON-RPC is the stream of the request handler. -/
theorem stream_over_jsonRpc (agent : RpcAgent) {streaming : Except Thrown Bool}
    {server : Compat.JsonRpcServer RpcParams JsonValue JsonValue}
    (serves : server.requestHandler = agent.requestHandler streaming conversions) (legacyCompat : Bool)
    {transport : JsonRpcTransport} (counted : 0 < transport.requestIdCounter) {params : RpcParams}
    (streams : params.method.streams = true) (listed : params.toJSON.EveryObject ListedKeys)
    {request : Compat.JsonRpcRequest} (read : parser.parse (transport.send format params).1 = .ok request.body)
    {calls : List ResponseCall} (preset : OnlyExtensions calls) {source : AsyncIterator StreamResponse Thrown}
    {events : List StreamResponse} {failure : Option Thrown} (lists : source.Lists events failure) {fuel : Nat}
    (long : events.length < fuel)
    (written : ∀ frame ∈ streamFrames transport.requestIdCounter request.body events failure,
      frame.value.EveryObject ListedKeys ∧ frame.Fits format DEFAULT_MAX_SSE_EVENT_SIZE_BYTES) :
    let outcome := Compat.jsonRpcHandler server legacyCompat request
    outcome.call = (if streaming.toOption = some true then
      (server.buildContext false request).toOption.map (callOf params) else none) ∧
    ∃ answered, currentAnswer Compat.openResponse format request.body source fuel calls outcome =
        some (.ok () answered) ∧
      ∀ response, BodiesListed answered → (HttpReply.ofCalls format answered).Arrives response →
        readRpcStream parser conversions (methodName params.method) (transport.send format params).2.1 response =
          streamDirectly conversions format params.method streaming events failure
            (server.buildContext false request) := by
  rw [parse_request parser transport listed, Except.ok.injEq] at read
  dsimp only
  rw [jsonRpcHandler_current conversions serves legacyCompat read.symm]
  cases server.buildContext false request with
  | error thrown =>
      refine ⟨(ite_self none).symm, [.json 500 (Compat.rpcErrorResponse false request.body thrown)], rfl, ?_⟩
      intro response bodies arrives
      exact readRpcStream_reply arrives (bodies _ _ List.mem_cons_self) rfl
  | ok context =>
      dsimp only [currentAnswer, Compat.JsonRpcOutcome.call, streamDirectly]
      rw [dispatched, streams, if_pos rfl]
      -- the capability is checked before the call
      have refused (error : JsonRpcError) : ∃ answered,
          answerOf Compat.openResponse format request.body source fuel calls
              (.failed (.number transport.requestIdCounter) error) = some (.ok () answered) ∧
            ∀ response, BodiesListed answered → (HttpReply.ofCalls format answered).Arrives response →
              readRpcStream parser conversions (methodName params.method) (transport.send format params).2.1 response =
                ([], .error (mapJsonRpcErrorToSdkError conversions.printer error.toJson)) := by
        refine ⟨_, rfl, ?_⟩
        intro response bodies arrives
        have readable := bodies _ _ (List.mem_append_right calls List.mem_cons_self)
        exact readRpcStream_reply (arrives_reply preset arrives) readable rfl
      cases streaming with
      | error thrown => exact ⟨rfl, refused (toJsonRpcError thrown)⟩
      | ok capable =>
          cases capable with
          | false => exact ⟨rfl, refused (toJsonRpcError (streamingRefused (methodName params.method)))⟩
          | true =>
              have own : Compat.bodyId request.body = .number transport.requestIdCounter :=
                read ▸ bodyId_rpcRequest counted
              dsimp only
              rw [callHandler_streams _ _ streams]
              refine ⟨rfl, ?_⟩
              by_cases peeked : events ≠ [] ∨ failure = none
              · refine ⟨_, answerOf_stream preset lists long peeked, ?_⟩
                intro response bodies arrives
                rw [ofCalls_stream preset] at arrives
                have ended := @readRpcStream_frames format parser conversions (methodName params.method) _ _ response _ _
                  own (fun frame member => (written frame member).1) (fun frame member => (written frame member).2)
                  arrives
                refine ended.trans ?_
                cases events with
                | cons event rest => rfl
                | nil =>
                    obtain rfl : failure = none := peeked.resolve_left fun filled => filled rfl
                    rfl
              · obtain ⟨rfl, failed⟩ : events = [] ∧ failure ≠ none := by simpa [not_or] using peeked
                obtain ⟨thrown, rfl⟩ := Option.ne_none_iff_exists'.mp failed
                refine ⟨_, answerOf_refused lists fuel, ?_⟩
                intro response bodies arrives
                have readable := bodies _ _ (List.mem_append_right calls List.mem_cons_self)
                exact readRpcStream_reply (arrives_reply preset arrives) readable rfl

section Sample

def resubscribeParams : RpcParams := .resubscribe ⟨"acme", "t1"⟩

def resubscribeBody : JsonValue := rpcRequest "SubscribeToTask" resubscribeParams.toJSON 1

/-- A stream that breaks off behind its first event. -/
def brokenFrames : List SseFrame :=
  streamFrames 1 resubscribeBody [.task ⟨"t1", "", none, [], [], none⟩] (some (.error "lost"))

theorem brokenFrames_written (frame : SseFrame) (member : frame ∈ brokenFrames) :
    frame.value.EveryObject ListedKeys ∧ frame.Fits decimalFormat DEFAULT_MAX_SSE_EVENT_SIZE_BYTES := by
  rcases List.mem_cons.mp member with rfl | member
  · refine ⟨⟨(by decide +kernel : ListedKeys ["jsonrpc", "id", "result"]), trivial, trivial,
      ⟨(by decide +kernel : ListedKeys ["task"]), ⟨(by decide +kernel : ListedKeys ["id"]), trivial, trivial⟩,
        trivial⟩, trivial⟩, ?_⟩
    decide +kernel
  · cases List.mem_singleton.mp member
    refine ⟨⟨(by decide +kernel : ListedKeys ["jsonrpc", "id", "error"]), trivial, trivial,
      ⟨(by decide +kernel : ListedKeys ["code", "message"]), trivial, trivial, trivial⟩, trivial⟩, ?_⟩
    decide +kernel

/-- The text is cut at every character. -/
theorem stream_over_jsonRpc_broken :
    readRpcStream (stringifyParser decimalFormat) integerConversions "SubscribeToTask" 1
        ⟨200, "OK", some "text/event-stream", .object [],
          ((brokenFrames.map (SseFrame.text decimalFormat)).flatten).map fun char => [char]⟩ =
      ([some (.task ⟨"t1", "", none, [], [], none⟩)],
        streamEnding decimalFormat integerConversions (some (.error "lost"))) := by
  have listed : resubscribeParams.toJSON.EveryObject ListedKeys :=
    ⟨(by decide +kernel : ListedKeys ["tenant", "id"]), trivial, trivial, trivial⟩
  have preset : OnlyExtensions [] := fun _ absent => absurd absent List.not_mem_nil
  obtain ⟨-, answered, answer, ends⟩ := @stream_over_jsonRpc decimalFormat (stringifyParser decimalFormat)
    integerConversions taskAgent (.ok true) taskServer rfl false ⟨"https://agent.example/", 1⟩ Nat.one_pos
    resubscribeParams rfl listed (versionedRequest resubscribeBody) (parse_request _ _ listed) [] preset
    (.ofList [.task ⟨"t1", "", none, [], [], none⟩] (some (.error "lost")))
    [.task ⟨"t1", "", none, [], [], none⟩] (some (.error "lost")) (AsyncIterator.ofList_lists _ _) 2 (by decide)
    brokenFrames_written
  obtain rfl : streamHead ++ (brokenFrames.map (SseFrame.text decimalFormat)).map .write ++ [.finish] = answered := by
    cases answer
    rfl
  have bodies : BodiesListed (streamHead ++
      (brokenFrames.map (SseFrame.text decimalFormat)).map .write ++ [.finish]) := by
    intro statusCode body member
    simp [streamHead] at member
  refine ends _ bodies ?_
  have onWire := @ofCalls_stream decimalFormat [] preset (brokenFrames.map (SseFrame.text decimalFormat))
  rw [List.nil_append] at onWire
  rw [onWire]
  have whole (text : Text) : (text.map fun char => [char]).flatten = text := by
    rw [← List.flatMap_def, List.flatMap_singleton']
  exact ⟨rfl, rfl, whole _⟩

end Sample

end Streams

end A2A.Client
