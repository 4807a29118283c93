import A2A.Errors.Wire
import A2A.Server.CallContext
import A2A.Server.Transports.Streams
import A2A.Sse.Base

namespace A2A.Server

open Library Errors

/-! The senders of event streams, as programs on the response.

Every call on the response may throw, and so may the encoding of an event.  The
senders pull the first event before the head goes out, and differ in how they
report an error.
-/

inductive ResponseCall where
  | setHeader (name : String) (values : List String)
  | flushHeaders
  | json (statusCode : Int) (body : JsonValue)
  | write (text : Text)
  /-- `res.end()` -/
  | finish

/-- A response: what a call on it throws, and what its flags say, behind the calls so far. -/
structure ServerResponse where
  refuses : List ResponseCall → ResponseCall → Option Thrown
  headersSent : List ResponseCall → Bool
  writableEnded : List ResponseCall → Bool

/-- A piece of a sender, which throws or ends, and has made its calls. -/
abbrev Responding := EStateM Thrown (List ResponseCall) Unit

def SSE_HEADERS : List (String × String) :=
  [("Content-Type", "text/event-stream"), ("Cache-Control", "no-cache"), ("Connection", "keep-alive"),
    ("X-Accel-Buffering", "no")]

namespace ServerResponse

variable (response : ServerResponse)

def call (call : ResponseCall) : Responding := fun calls =>
  match response.refuses calls call with
  | none => .ok () (calls ++ [call])
  | some thrown => .error thrown (calls ++ [call])

def unlessEnded (rest : Responding) : Responding := do
  if response.writableEnded (← get) then pure () else rest

def setExtensionsHeader (name : String) : Option Extensions → Responding
  | none => pure ()
  | some activated => response.call (.setHeader name activated)

def setSseHeaders : Responding :=
  SSE_HEADERS.forM (fun header => response.call (.setHeader header.1 [header.2]))

end ServerResponse

/-- What a sender of event streams is made of. -/
structure StreamSender (α : Type) where
  response : ServerResponse
  /-- Up to `flushHeaders()`. -/
  head : Responding
  /-- The text of an event. -/
  encode : α → Except Thrown Text
  /-- The answer when the first `next()` rejects. -/
  refuse : Thrown → Responding
  /-- The `catch` around the loop. -/
  report : Thrown → Responding

namespace StreamSender

variable {α : Type} (sender : StreamSender α)

def writeEvent (event : α) : Responding :=
  match sender.encode event with
  | .ok text => sender.response.call (.write text)
  | .error thrown => throw thrown

/-- The body of the loop. -/
def sendEvent (calls : List ResponseCall) (event : α) : List ResponseCall × Verdict Thrown :=
  match sender.writeEvent event calls with
  | .ok _ calls => (calls, .proceed)
  | .error thrown calls => (calls, .raise thrown)

/-- What follows the loop, with its `catch` and its `finally`. -/
def conclude (ending : Ending Thrown) : Responding :=
  let caught : Responding :=
    match ending with
    | .finished | .stopped none => pure ()
    | .failed thrown | .stopped (some thrown) => sender.report thrown
  try caught finally sender.response.unlessEnded (sender.response.call .finish)

end StreamSender

/-- How a sender has ended, and what it has asked of its source by then. -/
structure Sent where
  use : Use
  outcome : EStateM.Result Thrown (List ResponseCall) Unit

namespace StreamSender

variable {α : Type} (sender : StreamSender α) (source : AsyncIterator α Thrown) (fuel : Nat)
  (calls : List ResponseCall)

/-- `sendStreamResponse`, unless it is still running after so many rounds. -/
def send : Option Sent :=
  match source.pull {} with
  | (use, .rejected thrown) => some ⟨use, sender.refuse thrown calls⟩
  | (use, first) =>
      match sender.head calls with
      | .error thrown calls => some ⟨use, .error thrown calls⟩
      | .ok _ calls =>
          let run := handleFirst source sender.sendEvent fuel use first calls
          run.ending.map (fun ending => ⟨run.source.use, sender.conclude ending run.loop⟩)

/-- The same with the head in front, and the source in a loop of its own. -/
def sendUnpeeked : Option Sent :=
  match sender.head calls with
  | .error thrown calls => some ⟨{}, .error thrown calls⟩
  | .ok _ calls =>
      let run := source.iterable.forAwait sender.sendEvent fuel {} calls
      run.ending.map (fun ending => ⟨run.source, sender.conclude ending run.loop⟩)

end StreamSender

/-- `{ error: … }` -/
def toHTTPError (thrown : Thrown) (httpStatus : Int) : JsonValue :=
  .object [("error", toRestErrorBody thrown httpStatus)]

/-- `sendStreamResponse` of the REST routes, with the encoder of their messages. -/
def RestHandler.streamSender {α : Type} (response : ServerResponse) (format : NumberFormat)
    (activatedExtensions : Option Extensions) (toJSON : α → Except Thrown JsonValue) : StreamSender α where
  response
  head := do
    response.setSseHeaders
    response.setExtensionsHeader "A2A-Extensions" activatedExtensions
    response.call .flushHeaders
  encode event := (toJSON event).map (formatSSEEvent format)
  refuse thrown := do
    response.setExtensionsHeader "A2A-Extensions" activatedExtensions
    response.call (.json (restStatusFor thrown) (toHTTPError thrown (restStatusFor thrown)))
  report thrown :=
    response.unlessEnded
      (response.call (.write (formatSSEErrorEvent format (toHTTPError thrown (restStatusFor thrown)))))

end A2A.Server
