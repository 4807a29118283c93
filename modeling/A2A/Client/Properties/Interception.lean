import A2A.Client.Interceptors

namespace A2A.Client

open Library

/-! The discipline of a client's interceptors: what an after phase unwinds is what the before
phase wound, for calls that answer once and for streams alike.
-/

variable {Interceptor Input Result Others World : Type}

/-- An after phase: the value it starts with, the turns it takes and what it leaves. -/
structure Unwinding (Interceptor Result Others World : Type) extends
    Passage Interceptor (AfterArgs Result Others) World where
  value : Result

/-- The turns and what the caller is given, unless an interceptor failed. -/
def Unwinding.executed (unwinding : Unwinding Interceptor Result Others World) :
    List (Executed Interceptor Input Result Others) :=
  unwinding.visits.map .after ++ (unwinding.left.map fun args => .give args.result).toList

/-- An interceptor asked to stop, or failed. -/
def Unwinding.ends (unwinding : Unwinding Interceptor Result Others World) : Bool :=
  unwinding.left.all AfterArgs.earlyReturn

/-- The phase goes back through the interceptors that were wound, from the last one on. -/
def Unwinding.Unwinds (client : CallClient Interceptor Input Result Others World)
    (wound : List Interceptor) (options : Option (RequestOptions Others)) (world : World)
    (unwinding : Unwinding Interceptor Result Others World) : Prop :=
  Follows client.after AfterArgs.earlyReturn wound.reverse { result := unwinding.value, options } world
    unwinding.visits unwinding.left unwinding.state

/-- The answers of a transport up to a limit, each with its after phase, until the transport
closes or a phase ends the call. -/
inductive Answered (client : CallClient Interceptor Input Result Others World)
    (wound : List Interceptor) (options : Option (RequestOptions Others))
    (next : World → Option Result × World) :
    Nat → World → List (Executed Interceptor Input Result Others) → Prop where
  | enough {world : World} : Answered client wound options next 0 world []
  | closed {limit : Nat} {world : World} (closes : (next world).1 = none) :
      Answered client wound options next (limit + 1) world [.closed]
  | ended {limit : Nat} {world answered : World} (unwinding : Unwinding Interceptor Result Others World)
      (answers : next world = (some unwinding.value, answered))
      (unwinds : unwinding.Unwinds client wound options answered) (ends : unwinding.ends = true) :
      Answered client wound options next (limit + 1) world (.answer unwinding.value :: unwinding.executed)
  | goes {limit : Nat} {world answered : World} {later : List (Executed Interceptor Input Result Others)}
      (unwinding : Unwinding Interceptor Result Others World)
      (answers : next world = (some unwinding.value, answered))
      (unwinds : unwinding.Unwinds client wound options answered) (goes : unwinding.ends = false)
      (others : Answered client wound options next limit unwinding.state later) :
      Answered client wound options next (limit + 1) world
        (.answer unwinding.value :: (unwinding.executed ++ later))

/-- What a method calls of its transport. -/
inductive TransportCall (Input Result Others World : Type) where
  | once (call : Input → Option (RequestOptions Others) → World → Option Result × World)
  | stream (subscribe : Input → Option (RequestOptions Others) → World → World)
      (next : World → Option Result × World)

def TransportCall.endpoint : TransportCall Input Result Others World → Endpoint
  | once _ => .once
  | stream _ _ => .stream

/-- What a call of the transport with these arguments answers: once, or as often as it is asked. -/
def TransportCall.Answers (client : CallClient Interceptor Input Result Others World)
    (wound : List Interceptor) (pulls : Nat) (args : BeforeArgs Input Result Others) (world : World)
    (answers : List (Executed Interceptor Input Result Others)) :
    TransportCall Input Result Others World → Prop
  | once call => Answered client wound args.options (call args.input args.options) 1 world answers
  | stream subscribe next =>
      Answered client wound args.options next pulls (subscribe args.input args.options world) answers

/-- What comes behind a before phase that wound these interceptors: nothing where it failed,
the after phase of an early return, and otherwise the call of the transport with its answers. -/
def Continues (client : CallClient Interceptor Input Result Others World) (wound : List Interceptor)
    (transport : World → TransportCall Input Result Others World) (pulls : Nat) (world : World)
    (left : Option (BeforeArgs Input Result Others))
    (later : List (Executed Interceptor Input Result Others)) : Prop :=
  match left with
  | none => later = []
  | some args =>
      match args.earlyReturn with
      | some earlyReturn =>
          ∃ unwinding : Unwinding Interceptor Result Others World, unwinding.value = earlyReturn ∧
            unwinding.Unwinds client wound args.options world ∧ later = unwinding.executed
      | none =>
          ∃ answers : List (Executed Interceptor Input Result Others),
            later = .transport (transport world).endpoint args.input args.options :: answers ∧
              (transport world).Answers client wound pulls args world answers

/-- A call winds the interceptors in their order and goes on behind them as it should. -/
def Disciplined (client : CallClient Interceptor Input Result Others World)
    (transport : World → TransportCall Input Result Others World) (params : Input)
    (options : Option (RequestOptions Others)) (pulls : Nat) (world : World)
    (executed : List (Executed Interceptor Input Result Others)) : Prop :=
  ∃ befores left wound later, executed = befores.map .before ++ later ∧
    Follows client.before BeforeArgs.stops client.listed (client.beforeArgs params options) world
      befores left wound ∧
    Continues client (befores.map Visit.stage) transport pulls wound left later

/-- What a stream calls: the transport's stream, or its fallback where the card offers none. -/
def StreamTransport.sending (transport : StreamTransport Input Others World) (streaming : World → Bool)
    (world : World) : TransportCall Input StreamResponse Others World :=
  if streaming world then .stream transport.subscribe transport.next
  else .once fun input options world =>
    let sent := transport.sendMessage input options world
    (sent.1.map SendMessageResult.streamValue, sent.2)

namespace CallClient

variable {client : CallClient Interceptor Input Result Others World}

/-- The after phase that starts with a value. -/
def unwinding (client : CallClient Interceptor Input Result Others World) (value : Result)
    (options : Option (RequestOptions Others)) (interceptors : Option (List Interceptor)) (world : World) :
    Unwinding Interceptor Result Others World :=
  { client.interceptAfter { result := value, options } interceptors world with value }

theorem unwinding_unwinds (value : Result) (options : Option (RequestOptions Others))
    (interceptors : Option (List Interceptor)) (world : World) :
    (client.unwinding value options interceptors world).Unwinds client
      (interceptors.getD client.listed) options world :=
  pass_follows _ _ _

theorem deliver_answered (next : World → Option Result × World) (options : Option (RequestOptions Others))
    (pulls : Nat) (world : World) :
    Answered client client.listed options next pulls world (client.deliver next options pulls world).1 := by
  induction pulls generalizing world with
  | zero => exact .enough
  | succ pulls ih =>
      rcases pulled : next world with ⟨_ | event, opened⟩
      · have closes : (next world).1 = none := congrArg Prod.fst pulled
        simpa only [deliver, pulled] using Answered.closed closes
      · have unwinds := client.unwinding_unwinds event options none opened
        cases left : (client.interceptAfter { result := event, options } none opened).left with
        | none =>
            have ends : (client.unwinding event options none opened).ends = true := by
              simp only [Unwinding.ends, unwinding, left, Option.all_none]
            simp only [deliver, pulled, left]
            exact .ended _ pulled unwinds ends
        | some args =>
            have ends : (client.unwinding event options none opened).ends = args.earlyReturn := by
              simp only [Unwinding.ends, unwinding, left, Option.all_some]
            by_cases stops : args.earlyReturn = true
            · simp only [deliver, pulled, left, if_pos stops]
              exact .ended _ pulled unwinds (ends.trans stops)
            · simp only [deliver, pulled, left, if_neg stops]
              exact .goes _ pulled unwinds (ends.trans (by simpa using stops)) (ih _)

/-- A single answer, which is one of a stream that no more is asked of. -/
theorem answered_one {next : World → Option Result × World} {world answered : World}
    {wound : List Interceptor} {options : Option (RequestOptions Others)}
    (unwinding : Unwinding Interceptor Result Others World)
    (answers : next world = (some unwinding.value, answered))
    (unwinds : unwinding.Unwinds client wound options answered) :
    Answered client wound options next 1 world (.answer unwinding.value :: unwinding.executed) := by
  cases ends : unwinding.ends with
  | true => exact .ended unwinding answers unwinds ends
  | false => simpa only [List.append_nil] using Answered.goes unwinding answers unwinds ends .enough

/-- What a method does behind a before phase that let it is to call its transport. -/
def Proceeds (client : CallClient Interceptor Input Result Others World)
    (transport : World → TransportCall Input Result Others World) (pulls : Nat)
    (proceed : BeforeArgs Input Result Others → World →
      List (Executed Interceptor Input Result Others) × World) : Prop :=
  ∀ args world, ∃ answers,
    (proceed args world).1 = .transport (transport world).endpoint args.input args.options :: answers ∧
      (transport world).Answers client client.listed pulls args world answers

theorem answerOnce_proceeds (pulls : Nat)
    (transportCall : Input → Option (RequestOptions Others) → World → Option Result × World) :
    client.Proceeds (fun _ => .once transportCall) pulls (client.answerOnce transportCall) := by
  intro args world
  rcases called : transportCall args.input args.options world with ⟨_ | value, answered⟩
  · have closes : (transportCall args.input args.options world).1 = none := congrArg Prod.fst called
    exact ⟨[.closed], by simp only [answerOnce, called]; rfl, .closed closes⟩
  · have one := answered_one _ called (client.unwinding_unwinds value args.options none answered)
    exact ⟨_, by simp only [answerOnce, called]; rfl, one⟩

theorem answerStream_proceeds (pulls : Nat)
    (subscribe : Input → Option (RequestOptions Others) → World → World)
    (next : World → Option Result × World) :
    client.Proceeds (fun _ => .stream subscribe next) pulls (client.answerStream subscribe next pulls) :=
  fun _ _ => ⟨_, rfl, deliver_answered _ _ _ _⟩

theorem intercepted_disciplined (params : Input) (options : Option (RequestOptions Others)) {pulls : Nat}
    {transport : World → TransportCall Input Result Others World}
    {proceed : BeforeArgs Input Result Others → World →
      List (Executed Interceptor Input Result Others) × World}
    (proceeds : client.Proceeds transport pulls proceed) (world : World) :
    Disciplined client transport params options pulls world
      (client.intercepted params options proceed world).1 := by
  rcases wound : client.interceptBefore (client.beforeArgs params options) world with ⟨befores, left, later⟩
  have follows : Follows client.before BeforeArgs.stops client.listed (client.beforeArgs params options)
      world befores left later := by
    have walked := @pass_follows _ _ _ client.before BeforeArgs.stops client.listed
      (client.beforeArgs params options) world
    rwa [← interceptBefore, wound] at walked
  cases left with
  | none => exact ⟨befores, none, later, [], by simp only [intercepted, wound, List.append_nil], follows, rfl⟩
  | some args =>
      cases early : args.earlyReturn with
      | some earlyReturn =>
          have unwinds := client.unwinding_unwinds earlyReturn args.options
            (some (befores.map Visit.stage)) later
          refine ⟨befores, some args, later, (client.unwinding earlyReturn args.options
            (some (befores.map Visit.stage)) later).executed, ?_, follows, ?_⟩
          · simp only [intercepted, wound, early]
            rfl
          · simp only [Continues, early]
            exact ⟨_, rfl, unwinds, rfl⟩
      | none =>
          obtain ⟨answers, proceeded, answered⟩ := proceeds args later
          have all := follows.all_stages (by simp [BeforeArgs.stops, early])
          refine ⟨befores, some args, later, (proceed args later).1, ?_, follows, ?_⟩
          · simp only [intercepted, wound, early]
          · simp only [Continues, early]
            exact ⟨answers, proceeded, all ▸ answered⟩

/-- Every method keeps the discipline, whatever its interceptors and the transport do. -/
theorem calls_disciplined (client : CallClient Interceptor Input Result Others World)
    (streamClient : CallClient Interceptor Input StreamResponse Others World) (params : Input)
    (options : Option (RequestOptions Others)) (world : World) :
    (∀ transportCall, Disciplined client (fun _ => .once transportCall) params options 1 world
      (client.executeWithInterceptors params options transportCall world).1) ∧
    (∀ transport streaming pulls,
      Disciplined streamClient (transport.sending streaming) params options (pulls + 1) world
        (streamClient.sendMessageStream transport streaming params options (pulls + 1) world).1) ∧
    (∀ transport pulls,
      Disciplined streamClient (fun _ => .stream transport.subscribe transport.next) params options
        (pulls + 1) world (streamClient.resubscribeTask transport params options (pulls + 1) world).1) := by
  refine ⟨fun transportCall => ?_, fun transport streaming pulls => ?_, fun transport pulls => ?_⟩
  · exact intercepted_disciplined params options (answerOnce_proceeds 1 transportCall) world
  · refine intercepted_disciplined params options (fun args world => ?_) world
    -- the card decides between the stream and the fallback only behind the before phase
    by_cases streams : streaming world = true
    · have sends : transport.sending streaming world = .stream transport.subscribe transport.next := if_pos streams
      rw [sends, if_pos streams]
      exact answerStream_proceeds (pulls + 1) transport.subscribe transport.next args world
    · rw [StreamTransport.sending, if_neg streams, if_neg streams]
      exact answerOnce_proceeds (pulls + 1) _ args world
  · exact intercepted_disciplined params options (answerStream_proceeds (pulls + 1) _ _) world

end CallClient

end A2A.Client
