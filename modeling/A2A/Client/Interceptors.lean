import A2A.Library.Chain
import A2A.Types
import A2A.Client.ServiceParameters

namespace A2A.Client

open Library

/-! The calls of a client through its interceptors.

An interceptor may do anything to the arguments it is given, and so may the transport:
what they remember and what they read besides is the world, and either may fail.
-/

/-- `RequestOptions`, where `others` stands for the signal and the context. -/
structure RequestOptions (Others : Type) where
  serviceParameters : Option ServiceParameters := none
  others : Option Others := none

/-- `BeforeArgs`, as far as an interceptor can replace its fields. -/
structure BeforeArgs (Input Result Others : Type) where
  input : Input
  options : Option (RequestOptions Others)
  earlyReturn : Option Result := none

/-- `AfterArgs`, as far as an interceptor can replace its fields. -/
structure AfterArgs (Result Others : Type) where
  result : Result
  options : Option (RequestOptions Others)
  earlyReturn : Bool := false

/-- `args.earlyReturn`, as the loop over the interceptors tests it. -/
def BeforeArgs.stops {Input Result Others : Type} (args : BeforeArgs Input Result Others) : Bool :=
  args.earlyReturn.isSome

/-- A client in the calls of one of its methods. -/
structure CallClient (Interceptor Input Result Others World : Type) where
  protocolVersion : String
  interceptors : Option (List Interceptor)
  before : Interceptor → BeforeArgs Input Result Others → World →
    Option (BeforeArgs Input Result Others) × World
  after : Interceptor → AfterArgs Result Others → World → Option (AfterArgs Result Others) × World

/-- Whether the transport answers a call once or with a stream of events. -/
inductive Endpoint where
  | once
  | stream
deriving DecidableEq

/-- What a call executes: the interceptors, the transport call with its answers until it
closes, and the values its caller is given. -/
inductive Executed (Interceptor Input Result Others : Type) where
  | before (visit : Visit Interceptor (BeforeArgs Input Result Others))
  | transport (endpoint : Endpoint) (input : Input) (options : Option (RequestOptions Others))
  | answer (value : Result)
  | closed
  | after (visit : Visit Interceptor (AfterArgs Result Others))
  | give (value : Result)

variable {Interceptor Input Result Others World : Type}

namespace CallClient

variable (client : CallClient Interceptor Input Result Others World)

/-- `this.config?.interceptors ?? []` -/
def listed : List Interceptor := client.interceptors.getD []

/-- `Client.withNormalizedHeaders` -/
def withNormalizedHeaders (options : Option (RequestOptions Others)) : RequestOptions Others :=
  { options.getD {} with
    serviceParameters :=
      some (Client.withNormalizedHeaders client.protocolVersion (options.bind RequestOptions.serviceParameters)) }

/-- The arguments that the first interceptor is given. -/
def beforeArgs (params : Input) (options : Option (RequestOptions Others)) : BeforeArgs Input Result Others :=
  { input := params, options := some (client.withNormalizedHeaders options) }

/-- `Client.interceptBefore`. The visits are its `executed`, which the source keeps only for
an early return. -/
def interceptBefore (args : BeforeArgs Input Result Others) (world : World) :
    Passage Interceptor (BeforeArgs Input Result Others) World :=
  pass client.before BeforeArgs.stops client.listed args world

/-- `Client.interceptAfter` -/
def interceptAfter (args : AfterArgs Result Others) (interceptors : Option (List Interceptor))
    (world : World) : Passage Interceptor (AfterArgs Result Others) World :=
  pass client.after AfterArgs.earlyReturn (interceptors.getD client.listed).reverse args world

/-- The interceptors of an after phase, and the value it gives to the caller unless one failed. -/
def handed (unwound : Passage Interceptor (AfterArgs Result Others) World) :
    List (Executed Interceptor Input Result Others) :=
  unwound.visits.map .after ++ (unwound.left.map fun args => .give args.result).toList

/-- What the methods share: the before phase, and the after phase of an early return. -/
def intercepted (params : Input) (options : Option (RequestOptions Others))
    (proceed : BeforeArgs Input Result Others → World →
      List (Executed Interceptor Input Result Others) × World)
    (world : World) : List (Executed Interceptor Input Result Others) × World :=
  let wound := client.interceptBefore (client.beforeArgs params options) world
  let befores := wound.visits.map .before
  match wound.left with
  | none => (befores, wound.state)
  | some args =>
      match args.earlyReturn with
      | some earlyReturn =>
          let unwound := client.interceptAfter { result := earlyReturn, options := args.options }
            (some (wound.visits.map Visit.stage)) wound.state
          (befores ++ handed unwound, unwound.state)
      | none =>
          let proceeded := proceed args wound.state
          (befores ++ proceeded.1, proceeded.2)

/-- A transport call that answers once, with the after phase of its answer. -/
def answerOnce (transportCall : Input → Option (RequestOptions Others) → World → Option Result × World)
    (args : BeforeArgs Input Result Others) (world : World) :
    List (Executed Interceptor Input Result Others) × World :=
  match transportCall args.input args.options world with
  | (none, world) => ([.transport .once args.input args.options, .closed], world)
  | (some value, world) =>
      let unwound := client.interceptAfter { result := value, options := args.options } none world
      (.transport .once args.input args.options :: .answer value :: handed unwound, unwound.state)

/-- The loop over the events of a stream, of which the caller asks for so many. -/
def deliver (next : World → Option Result × World) (options : Option (RequestOptions Others)) :
    Nat → World → List (Executed Interceptor Input Result Others) × World
  | 0, world => ([], world)
  | pulls + 1, world =>
      match next world with
      | (none, world) => ([.closed], world)
      | (some event, world) =>
          let unwound := client.interceptAfter { result := event, options } none world
          let delivered := .answer event :: handed unwound
          match unwound.left with
          | none => (delivered, unwound.state)
          | some args =>
              if args.earlyReturn then (delivered, unwound.state)
              else
                let others := deliver next options pulls unwound.state
                (delivered ++ others.1, others.2)

/-- A transport call that answers with a stream. -/
def answerStream (subscribe : Input → Option (RequestOptions Others) → World → World)
    (next : World → Option Result × World) (pulls : Nat) (args : BeforeArgs Input Result Others)
    (world : World) : List (Executed Interceptor Input Result Others) × World :=
  let delivered := client.deliver next args.options pulls (subscribe args.input args.options world)
  (.transport .stream args.input args.options :: delivered.1, delivered.2)

/-- `Client.executeWithInterceptors` -/
def executeWithInterceptors (input : Input) (options : Option (RequestOptions Others))
    (transportCall : Input → Option (RequestOptions Others) → World → Option Result × World)
    (world : World) : List (Executed Interceptor Input Result Others) × World :=
  client.intercepted input options (client.answerOnce transportCall) world

end CallClient

/-- `SendMessageResult` -/
inductive SendMessageResult where
  | message (value : Message)
  | task (value : Task)

/-- The event that the fallback makes of a result. -/
def SendMessageResult.streamValue : SendMessageResult → StreamResponse
  | message value => .message value
  | task value => .task value

/-- The methods of a transport that a stream uses. The state of an open stream belongs to the world. -/
structure StreamTransport (Input Others World : Type) where
  sendMessage : Input → Option (RequestOptions Others) → World → Option SendMessageResult × World
  subscribe : Input → Option (RequestOptions Others) → World → World
  next : World → Option StreamResponse × World

namespace CallClient

variable (client : CallClient Interceptor Input StreamResponse Others World)

/-- `Client.sendMessageStream` on the request that `applyClientConfig` made, as long as its
caller asks for so many events: nothing runs before the first. -/
def sendMessageStream (transport : StreamTransport Input Others World) (streaming : World → Bool)
    (params : Input) (options : Option (RequestOptions Others)) :
    Nat → World → List (Executed Interceptor Input StreamResponse Others) × World
  | 0, world => ([], world)
  | pulls + 1, world =>
      client.intercepted params options
        (fun args world =>
          if streaming world then
            client.answerStream transport.subscribe transport.next (pulls + 1) args world
          else
            client.answerOnce (fun input options world =>
              let sent := transport.sendMessage input options world
              (sent.1.map SendMessageResult.streamValue, sent.2)) args world)
        world

/-- `Client.resubscribeTask` -/
def resubscribeTask (transport : StreamTransport Input Others World) (params : Input)
    (options : Option (RequestOptions Others)) :
    Nat → World → List (Executed Interceptor Input StreamResponse Others) × World
  | 0, world => ([], world)
  | pulls + 1, world =>
      client.intercepted params options
        (client.answerStream transport.subscribe transport.next (pulls + 1)) world

end CallClient

end A2A.Client
