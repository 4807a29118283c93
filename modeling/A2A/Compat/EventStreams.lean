import A2A.Compat.RestHandler
import A2A.Compat.Converters
import A2A.Compat.JsonRpcHandler
import A2A.Server.Transports.EventStreams

namespace A2A.Compat

open Library Errors Server

/-! The senders of event streams that know v0.3: its REST routes, and the JSON-RPC endpoint.

The endpoint has one more sender, for `tasks/resubscribe`, which sends the head
at once and pulls nothing by hand.
-/

section LegacyRest

/-- `LEGACY_CODE_TO_HTTP_STATUS` -/
def legacyCodeToHttpStatus : List (Rat × Int) :=
  [(-32700, 400), (-32600, 400), (-32601, 501), (-32602, 400), (-32603, 500), (-32001, 404), (-32002, 400),
    (-32003, 400), (-32004, 400), (-32005, 400), (-32006, 500), (-32007, 400)]

/-- `mapErrorToStatus` -/
def legacyStatusFor (thrown : Thrown) : Int :=
  match thrown with
  | .a2a { transport := .jsonrpc (some (.number envelopeCode)) _, .. } =>
      (OrderedMap.lookup legacyCodeToHttpStatus envelopeCode).getD (restStatusFor thrown)
  | _ => restStatusFor thrown

def toLegacyHTTPError (thrown : Thrown) : JsonValue := (toCompatErrorBody thrown).toJson

/-- `encodeStreamEvent`, with the encoder of the protobuf message. -/
def encodeStreamEvent (toJSON : Proto.StreamResponse → Except Thrown JsonValue) (event : Legacy.StreamResult) :
    Except Thrown JsonValue := do
  let proto ← (ToProto.messageStreamResult event).mapError LegacyRest.thrownError
  toJSON proto

/-- `sendStreamResponse` of the REST routes for v0.3. -/
def LegacyRest.streamSender (response : ServerResponse) (format : NumberFormat)
    (activatedExtensions : Option Extensions) (toJSON : Proto.StreamResponse → Except Thrown JsonValue) :
    StreamSender Legacy.StreamResult where
  response
  head := do
    response.setSseHeaders
    response.setExtensionsHeader "X-A2A-Extensions" activatedExtensions
    response.call .flushHeaders
  encode event := (encodeStreamEvent toJSON event).map (formatSSEEvent format)
  refuse thrown := do
    response.setExtensionsHeader "X-A2A-Extensions" activatedExtensions
    response.call (.json (legacyStatusFor thrown) (toLegacyHTTPError thrown))
  report thrown :=
    response.unlessEnded (response.call (.write (formatSSEErrorEvent format (toLegacyHTTPError thrown))))

end LegacyRest

section JsonRpcEndpoint

variable (response : ServerResponse) (format : NumberFormat) (useLegacy : Bool) (body : JsonValue)

/-- `req.body?.id || null` -/
def bodyId : JsonValue :=
  if isFalsy (field body "id") then .null else (field body "id").getD .null

/-- `mapToError` is that of the transport handler that has the request. -/
def rpcErrorResponse (thrown : Thrown) : JsonValue :=
  let mapToError := if useLegacy then toCompatErrorBody else toJsonRpcError
  .object [("jsonrpc", .string "2.0"), ("id", bodyId body), ("error", (mapToError thrown).toJson)]

variable {α : Type} (toJSON : α → Except Thrown JsonValue)

/-- The sender of `jsonRpcHandler`, which `JSON.stringify` reads its events for. -/
def jsonRpcStreamSender : StreamSender α where
  response
  head := do
    response.setSseHeaders
    response.call .flushHeaders
  encode event := (toJSON event).map (formatSSEEvent format)
  refuse thrown := response.call (.json 200 (rpcErrorResponse useLegacy body thrown))
  report thrown := do
    if response.headersSent (← get) then
      response.call (.write (formatSSEErrorEvent format (rpcErrorResponse useLegacy body thrown)))
    else response.call (.json 500 (rpcErrorResponse useLegacy body thrown))

/-- The sender for `tasks/resubscribe`. -/
def resubscribeStreamSender : StreamSender α :=
  { jsonRpcStreamSender response format useLegacy body toJSON with
    report := fun thrown =>
      response.unlessEnded
        (response.call (.write (formatSSEErrorEvent format (rpcErrorResponse useLegacy body thrown)))) }

def alwaysStreamSse : Bool :=
  useLegacy &&
    match field body "method" with
    | some (.string method) => method = "tasks/resubscribe"
    | _ => false

/-- The `catch` around the whole endpoint. -/
def catchUnhandled (thrown : Thrown) : Responding := do
  if response.headersSent (← get) then response.unlessEnded (response.call .finish)
  else response.call (.json 500 (rpcErrorResponse useLegacy body thrown))

/-- The streams of the endpoint, which has set the header of the extensions by then. -/
def jsonRpcSend (source : AsyncIterator α Thrown) (fuel : Nat) (calls : List ResponseCall) : Option Sent :=
  let sent :=
    if alwaysStreamSse useLegacy body then
      (resubscribeStreamSender response format useLegacy body toJSON).sendUnpeeked source fuel calls
    else (jsonRpcStreamSender response format useLegacy body toJSON).send source fuel calls
  sent.map (fun sent =>
    { sent with
      outcome :=
        match sent.outcome with
        | .ok _ calls => .ok () calls
        | .error thrown calls => catchUnhandled response useLegacy body thrown calls })

end JsonRpcEndpoint

/-- The routes that answer with an event stream, by the events that their source yields. -/
inductive SseRoute : Type → Type 1 where
  | rest {α : Type} (toJSON : α → Except Thrown JsonValue) : SseRoute α
  | legacyRest (toJSON : Proto.StreamResponse → Except Thrown JsonValue) : SseRoute Legacy.StreamResult
  | jsonRpc {α : Type} (toJSON : α → Except Thrown JsonValue) (useLegacy : Bool) (body : JsonValue) : SseRoute α

namespace SseRoute

variable {α : Type} (response : ServerResponse) (format : NumberFormat) (activatedExtensions : Option Extensions)

/-- Whether the first event is pulled before the head is sent. -/
def peeks : SseRoute α → Bool
  | .jsonRpc _ useLegacy body => !alwaysStreamSse useLegacy body
  | _ => true

def sender : SseRoute α → StreamSender α
  | .rest toJSON => RestHandler.streamSender response format activatedExtensions toJSON
  | .legacyRest toJSON => LegacyRest.streamSender response format activatedExtensions toJSON
  | .jsonRpc toJSON useLegacy body =>
      if alwaysStreamSse useLegacy body then resubscribeStreamSender response format useLegacy body toJSON
      else jsonRpcStreamSender response format useLegacy body toJSON

def send (source : AsyncIterator α Thrown) (fuel : Nat) (calls : List ResponseCall) : SseRoute α → Option Sent
  | .jsonRpc toJSON useLegacy body => jsonRpcSend response format useLegacy body toJSON source fuel calls
  | route => (route.sender response format activatedExtensions).send source fuel calls

end SseRoute

end A2A.Compat
