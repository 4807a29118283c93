import A2A.Server.CallContext
import A2A.Server.System

namespace A2A.Server

open Library

/-! The Express routes around the request handler: when each sends its response head.

A request without a tenant keeps one context object from its route to its
executor.  The extensions header is read off that object at the moment the head
is written, which is not the same moment in every sender.
-/

inductive Transport where
  | jsonRpc
  | rest
deriving DecidableEq, Repr

/-- How far a request got. -/
inductive Routing where
  /-- The request handler was called, with a streaming method or a plain one. -/
  | called (streams : Bool)
  /-- `JsonRpcTransportHandler.handle` answered it with an error of its own. -/
  | answered
  /-- It ended in the `catch` around its route. -/
  | thrown
deriving DecidableEq, Repr

/-- The places that send a response head. -/
inductive HeadSender where
  | jsonRpcHandler
  | sendResponse
  | sendStreamResponse
  /-- `handleError` of the REST routes, and the last `catch` of the JSON-RPC one. -/
  | handleError
deriving DecidableEq, Repr

/-- One HTTP request and its response. -/
structure Exchange where
  transport : Transport
  routing : Routing
  /-- The list of the context object. -/
  activatedExtensions : Option Extensions
  /-- The extensions header, if any, once the head has been written. -/
  head : Option (Option Extensions)
  /-- History only: the arguments of every `addActivatedExtension` so far. -/
  activated : List String

/-- The header that names each of the given extensions once, where it first occurs. -/
def extensionsHeader (activated : List String) : Option Extensions :=
  if activated.isEmpty then none else some activated.eraseDups

def HeadSender.header (exchange : Exchange) : HeadSender → Option Extensions
  | .jsonRpcHandler | .sendResponse | .sendStreamResponse => exchange.activatedExtensions
  | .handleError => none

def Request.streams : Request → Bool
  | .sendMessageStream _ | .resubscribe _ => true
  | _ => false

/-- The streaming capability of the card that `getAgentCard` serves. -/
def Handler.servesStreams (handler : Handler) : Bool :=
  (handler.servedCard.capabilities.map AgentCapabilities.streaming).getD false

namespace Call

/-- The call's promise is settled, or its generator has handed out a value. -/
def resolved (call : Call) : Bool := call.outcome.isSome || !call.yielded.isEmpty

/-- Nothing has been published on the call's queue yet, and its bus is not finished. -/
def unheard (call : Call) : Bool :=
  call.received.isEmpty && call.eventQueue.all (fun queue => !queue.stopped)

end Call

namespace Exchange

/-- `jsonRpcHandler` sets the header when `handle` returns, and then pulls the generator. -/
def headFirst (exchange : Exchange) : Bool :=
  exchange.transport = .jsonRpc && exchange.routing = .called true

/-- Who sends the head, if it is time for it. -/
def sender (exchange : Exchange) (call : Option Call) : Option HeadSender :=
  match exchange.transport, exchange.routing, call with
  | _, .thrown, _ => some .handleError
  | _, .answered, _ => some .jsonRpcHandler
  | .jsonRpc, .called true, _ => some .jsonRpcHandler
  | .rest, .called true, some call => if call.resolved then some .sendStreamResponse else none
  | .jsonRpc, .called false, some call => call.outcome.map (fun _ => .jsonRpcHandler)
  | .rest, .called false, some call =>
      call.outcome.map fun
        | .error _ => .handleError
        | _ => .sendResponse
  | _, .called _, none => none

def writeHead (exchange : Exchange) (sender : HeadSender) : Exchange :=
  { exchange with head := some (sender.header exchange) }

def addActivatedExtension (exchange : Exchange) (uri : String) : Exchange :=
  { exchange with
    activatedExtensions := some (.createFrom exchange.activatedExtensions uri)
    activated := exchange.activated ++ [uri] }

/-- `options.contextBuilder` makes the context object, and may change it before it returns it. -/
def new (transport : Transport) (routing : Routing) (context : CallContext Unit)
    (updates : List ContextUpdate) : Exchange where
  transport := transport
  routing := routing
  activatedExtensions := context.activatedExtensions
  head := none
  activated := activations updates

end Exchange

structure HttpState where
  server : State
  exchanges : Pid → Option Exchange

inductive HttpAction where
  | receive (transport : Transport) (request : Request) (options : ServerCallContextOptions)
      (updates : List ContextUpdate) (fresh : Fresh)
  /-- A request that the route refuses, or `handle` if `handled`, before any call. -/
  | refuse (transport : Transport) (handled : Bool) (options : ServerCallContextOptions)
      (updates : List ContextUpdate)
  | serve (action : Action)
  /-- The executor calls `addActivatedExtension` on its context. -/
  | activate (uri : String)
  | writeHead

structure HttpLabel where
  pid : Pid
  action : HttpAction

namespace HttpState

def setExchange (state : HttpState) (pid : Pid) (exchange : Exchange) : HttpState :=
  { state with exchanges := Function.update state.exchanges pid (some exchange) }

/-- A transport answers a streaming request itself when the agent has no streaming capability. -/
def receive (handler : Handler) (state : HttpState) (pid : Pid) (transport : Transport)
    (request : Request) (options : ServerCallContextOptions) (updates : List ContextUpdate)
    (fresh : Fresh) : Option HttpState :=
  let context := (CallContext.new options).updateAll updates
  if request.streams && !handler.servesStreams then
    let routing := match transport with
      | .jsonRpc => .answered
      | .rest => .thrown
    some (state.setExchange pid (.new transport routing context updates))
  else
    let exchange := Exchange.new transport (.called request.streams) context updates
    (state.server.beginCall handler pid request context.toServerCallContext
      context.requestedExtensions fresh).map (fun server =>
        { state with server }.setExchange pid
          (if exchange.headFirst then exchange.writeHead .jsonRpcHandler else exchange))

def refuse (state : HttpState) (pid : Pid) (transport : Transport) (handled : Bool)
    (options : ServerCallContextOptions) (updates : List ContextUpdate) : HttpState :=
  let routing := if transport = .jsonRpc ∧ handled = true then .answered else .thrown
  state.setExchange pid (.new transport routing ((CallContext.new options).updateAll updates) updates)

/-- An executor has its context from the moment it is called on. -/
def activate (state : HttpState) (pid : Pid) (uri : String) : Option HttpState :=
  match state.exchanges pid, (state.server.calls pid).bind Call.execution with
  | some exchange, some _ =>
      match exchange.routing with
      | .called _ => some (state.setExchange pid (exchange.addActivatedExtension uri))
      | _ => none
  | _, _ => none

def writeHead (state : HttpState) (pid : Pid) : Option HttpState :=
  match state.exchanges pid with
  | some exchange =>
      if exchange.head.isNone then
        (exchange.sender (state.server.calls pid)).map (fun sender =>
          state.setExchange pid (exchange.writeHead sender))
      else none
  | none => none

def step (handler : Handler) (state : HttpState) (label : HttpLabel) : Option HttpState :=
  match label.action with
  | .receive transport request options updates fresh =>
      if (state.exchanges label.pid).isSome then none
      else state.receive handler label.pid transport request options updates fresh
  | .refuse transport handled options updates =>
      if (state.exchanges label.pid).isSome then none
      else some (state.refuse label.pid transport handled options updates)
  | .serve action =>
      (state.server.step handler ⟨label.pid, action⟩).map (fun server => { state with server })
  | .activate uri => state.activate label.pid uri
  | .writeHead => state.writeHead label.pid

/-- No request has arrived. -/
def start (server : State) : HttpState := ⟨server, fun _ => none⟩

end HttpState

def httpSystem (handler : Handler) : System HttpState HttpLabel where
  step := HttpState.step handler

end A2A.Server
