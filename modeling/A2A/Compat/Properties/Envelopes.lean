import A2A.Compat.JsonRpc

namespace A2A.Compat

open Library Errors Server

/-! What both JSON-RPC handlers answer: one response object or a stream of them, under one id. -/

variable {ς π ρ σ τ : Type} {response : JsonRpcResponse ρ} {id : JsonValue}

/-- The `id` member of a request body, whatever its type; `null` if there is none. -/
def idOf : RequestBody → JsonValue
  | .text (.ok rpcRequest) | .value rpcRequest => (field rpcRequest "id").getD .null
  | .text (.error _) => .null

/-- The id of a request body where it is one that a request may have. -/
def validIdOf (body : RequestBody) : JsonValue :=
  if idIsValid (idOf body) then idOf body else .null

/-- The promise resolves, and all it resolves with is well formed and has the given id. -/
def Echoes (response : JsonRpcResponse ρ) (events : List ρ) (id : JsonValue) : Prop :=
  ∃ resolution, response.resolution events = some resolution ∧
    ∀ envelope ∈ resolution.envelopes, envelope.WellFormed ∧ envelope.id = id

/-- The response's own record of the id. -/
inductive Carries (id : JsonValue) : JsonRpcResponse ρ → Prop
  | failed {error} : Carries id (.failed id error)
  | result {value} : Carries id (.result id value)
  | stream : Carries id (.stream id)

theorem Carries.echoes (carries : Carries id response) (events : List ρ) :
    Echoes response events id := by
  cases carries with
  | failed => exact ⟨_, rfl, by simp [Resolution.envelopes, Envelope.WellFormed]⟩
  | result => exact ⟨_, rfl, by simp [Resolution.envelopes, Envelope.WellFormed]⟩
  | stream =>
      refine ⟨_, rfl, ?_⟩
      intro envelope listed
      obtain ⟨event, -, rfl⟩ := List.mem_map.mp listed
      exact ⟨⟨rfl, rfl⟩, rfl⟩

theorem callHandler_carries (handler : RequestHandler ς π ρ) (id : JsonValue) (method : HandlerMethod)
    (params : Option JsonValue) (decoded : π) (context : CallContext ς) :
    Carries id (callHandler handler id method params decoded context).response := by
  simp only [callHandler]
  split
  · exact .stream
  · split
    · exact .result
    · exact .failed

theorem dispatch_carries (handler : RequestHandler ς π ρ) (id : JsonValue) (methodName : String)
    (params : Option JsonValue) (context : CallContext ς) :
    Carries id (dispatch handler id methodName params context).response := by
  simp only [dispatch]
  split
  · exact .failed
  · split
    · exact .failed
    · split
      · exact .failed
      · exact .failed
      · split
        · exact .failed
        · exact callHandler_carries ..

/-- What `readRequest` makes of a body: an error for a body that has no id, or the request. -/
inductive Reads {ε : Type} (body : RequestBody) : Except ε JsonValue → Prop
  | refused {thrown} : idOf body = .null → Reads body (.error thrown)
  | request {rpcRequest} : idOf body = (field rpcRequest "id").getD .null →
      (rpcRequest = .null → body = .text (.ok .null)) → Reads body (.ok rpcRequest)

/-- No request is `null` but that of the text `null`. -/
theorem Reads.of_present {ε : Type} {body : RequestBody} {read : Except ε JsonValue} (reads : Reads body read)
    (present : body ≠ .text (.ok .null)) :
    (∃ thrown, read = .error thrown ∧ idOf body = .null) ∨
      ∃ rpcRequest, read = .ok rpcRequest ∧ rpcRequest ≠ .null ∧
        idOf body = (field rpcRequest "id").getD .null := by
  cases reads with
  | @refused thrown unnamed => exact .inl ⟨thrown, rfl, unnamed⟩
  | @request rpcRequest named absent => exact .inr ⟨rpcRequest, rfl, fun null => present (absent null), named⟩

theorem readRequest_reads (body : RequestBody) : Reads body (readRequest body) := by
  cases body with
  | text parsed =>
      cases parsed with
      | error message => exact .refused rfl
      | ok rpcRequest => exact .request rfl (fun null => by rw [null])
  | value value =>
      cases value with
      | object fields => exact .request rfl nofun
      | array values => exact .request rfl nofun
      | _ => exact .refused rfl

/-- A request that is read gets its own id back, or `null` if it has none. -/
theorem handle_carries (handler : RequestHandler ς π ρ) {body : RequestBody}
    (present : body ≠ .text (.ok .null)) (context : CallContext ς) :
    Carries (idOf body) (handle handler body context).response := by
  unfold handle
  rcases (readRequest_reads body).of_present present with
    ⟨thrown, read, unnamed⟩ | ⟨rpcRequest, read, filled, named⟩
  · rw [read, unnamed]
    exact .failed
  · rw [read, named]
    cases rpcRequest with
    | null => exact absurd rfl filled
    | _ =>
        dsimp only
        split
        · exact .failed
        · exact dispatch_carries ..

namespace LegacyJsonRpc

theorem callHandler_carries (handler : RequestHandler ς π ρ)
    (toCompat : HandlerMethod → ρ → Except Thrown σ) (id : JsonValue) (method : HandlerMethod)
    (decoded : π) (context : CallContext ς) :
    Carries id (callHandler handler toCompat id method decoded context).response := by
  simp only [callHandler]
  split
  · exact .stream
  · split
    · exact .result
    · exact .failed

theorem dispatch_carries (handler : RequestHandler ς π ρ)
    (toCompat : HandlerMethod → ρ → Except Thrown σ) (id : JsonValue) (methodName : String)
    (params : Option JsonValue) (context : CallContext ς) :
    Carries id (dispatch handler toCompat id methodName params context).response := by
  simp only [dispatch]
  split
  · exact .failed
  · split
    · exact .failed
    · split
      · exact .failed
      · exact .failed
      · split
        · exact .failed
        · exact callHandler_carries ..

theorem readRequest_reads (body : RequestBody) : Reads body (readRequest body) := by
  cases body with
  | text parsed =>
      cases parsed with
      | error message => exact .refused rfl
      | ok rpcRequest => exact .request rfl (fun null => by rw [null])
  | value value =>
      cases value with
      | object fields => exact .request rfl nofun
      | array values => exact .request rfl nofun
      | _ => exact .refused rfl

theorem handle_carries (handler : RequestHandler ς π ρ)
    (toCompat : HandlerMethod → ρ → Except Thrown σ) {body : RequestBody}
    (present : body ≠ .text (.ok .null)) (context : CallContext ς) :
    Carries (idOf body) (handle handler toCompat body context).response := by
  unfold handle
  rcases (readRequest_reads body).of_present present with
    ⟨thrown, read, unnamed⟩ | ⟨rpcRequest, read, filled, named⟩
  · rw [read, unnamed]
    exact .failed
  · rw [read, named]
    cases rpcRequest with
    | null => exact absurd rfl filled
    | _ =>
        dsimp only
        split
        · exact .failed
        · exact dispatch_carries ..

end LegacyJsonRpc

/-- Both handlers answer every body but the text `null`, and echo its id as they find it. -/
theorem handle_echoes (handler : RequestHandler ς π ρ) (legacyHandler : RequestHandler ς π σ)
    (toCompat : HandlerMethod → σ → Except Thrown τ) (body : RequestBody)
    (present : body ≠ .text (.ok .null)) (context : CallContext ς) (events : List ρ)
    (legacyEvents : List τ) :
    Echoes (handle handler body context).response events (idOf body) ∧
      Echoes (LegacyJsonRpc.handle legacyHandler toCompat body context).response legacyEvents
        (idOf body) :=
  ⟨(handle_carries handler present context).echoes events,
    (LegacyJsonRpc.handle_carries legacyHandler toCompat present context).echoes legacyEvents⟩

/-- A request handler that answers every call with nothing. -/
def silentHandler : RequestHandler Unit Unit Unit where
  streaming := .ok true
  fromJSON := fun _ _ => .ok ()
  serve := fun _ => ([], .ok ())

def plainContext : CallContext Unit := .new ⟨none, none, none, none, none⟩

def getTaskBody : RequestBody :=
  .value (.object [("jsonrpc", .string "2.0"), ("id", .number 7), ("method", .string "GetTask"),
    ("params", .object [("id", .string "t")])])

theorem handle_echoes_getTask :
    getTaskBody ≠ .text (.ok .null) ∧
      Echoes (handle silentHandler getTaskBody plainContext).response [] (.number 7) ∧
      Echoes (LegacyJsonRpc.handle silentHandler (fun _ value => .ok value) getTaskBody
        plainContext).response [] (.number 7) :=
  ⟨nofun, handle_echoes silentHandler silentHandler (fun _ value => .ok value) getTaskBody nofun
    plainContext [] []⟩

/-- An object is no id, and comes back as the id of the answer. -/
theorem handle_echoes_object :
    let body : RequestBody := .value (.object [("jsonrpc", .string "2.0"), ("method", .string "foo"),
      ("id", .object [])])
    ¬ Echoes (handle silentHandler body plainContext).response [] (validIdOf body) ∧
      ¬ Echoes (LegacyJsonRpc.handle silentHandler (fun _ value => .ok value) body
        plainContext).response [] (validIdOf body) := by
  refine ⟨?_, ?_⟩
  · rintro ⟨resolution, resolved, lawful⟩
    cases resolved
    exact nomatch (lawful _ (List.mem_singleton_self _)).2
  · rintro ⟨resolution, resolved, lawful⟩
    cases resolved
    exact nomatch (lawful _ (List.mem_singleton_self _)).2

end A2A.Compat
