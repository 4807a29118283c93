import A2A.Compat.Transports
import A2A.Library.Codec

namespace A2A.Compat

open Library Server

/-! Which part of a task's history the three v0.3 transports return. -/

/-- A v0.3 request that returns a task. -/
inductive Query where
  | getTask (params : Legacy.TaskQueryParams)
  | sendMessage (params : Legacy.MessageSendParams)

namespace Query

def historyLength : Query → Option Int
  | .getTask params => params.historyLength
  | .sendMessage params => params.configuration.bind Legacy.MessageSendConfiguration.historyLength

/-- The task that the query is about, before its history is cut. -/
def Concerns (handler : Handler) (stored : A2A.Task) : Query → Prop
  | .getTask params =>
      handler.load params.id = some stored ∧
        FromProto.extractTaskId (ToProto.generateTaskName params.id) = .ok params.id
  | .sendMessage _ => handler.ended = stored

def jsonRpc (handler : Handler) : Query → Except CompatError Legacy.Task
  | .getTask params => JsonRpc.getTask handler params
  | .sendMessage params => JsonRpc.sendMessage handler params

/-- Over REST the number is written into the query string, or into the JSON of the request. -/
def rest (handler : Handler) : Query → Except CompatError Proto.Task
  | .getTask params => Rest.getTask handler params.id (params.historyLength.map toString)
  | .sendMessage params => do
      let body ← ToProto.messageSendParams params
      Rest.sendMessage handler "" body

def grpc (handler : Handler) : Query → Except CompatError Proto.Task
  | .getTask params => Grpc.getTask handler (ToProto.taskQueryParams params)
  | .sendMessage params => do
      let request ← ToProto.messageSendParams params
      Grpc.sendMessage handler request

/-- The history length that the request handler is called with over REST. -/
def restLength : Query → Option Int
  | .getTask params => params.historyLength
  | .sendMessage _ => none

/-- The history length that it is called with over gRPC. -/
def grpcLength : Query → Option Int
  | .getTask params => some (params.historyLength.getD 0)
  | .sendMessage _ => none

/-- No transport cuts what another one returns: a get names a length, unless there is no history,
and a length that comes with a message leaves the history whole. -/
def Spared (stored : A2A.Task) : Query → Prop
  | .getTask params => params.historyLength = none → stored.history = []
  | .sendMessage params =>
      ∀ length ∈ params.configuration.bind Legacy.MessageSendConfiguration.historyLength,
        (stored.history.length : Int) ≤ length

end Query

/-- The three tasks carry one list of messages, as JSON in the first and as protobuf in the others. -/
structure SameHistory (overJsonRpc : Legacy.Task) (overRest overGrpc : Proto.Task) : Prop where
  rest : (overJsonRpc.history.getD []).mapM ToProto.message = .ok overRest.history
  grpc : (overJsonRpc.history.getD []).mapM ToProto.message = .ok overGrpc.history

theorem toCompatTask_history {core : A2A.Task} {task : Legacy.Task} (translated : toCompatTask core = .ok task) :
    core.history.mapM toCompatMessage = .ok (task.history.getD []) := by
  rw [toCompatTask] at translated
  obtain ⟨status, _, rest⟩ := bind_eq_ok.mp translated
  obtain ⟨history, mapped, rest⟩ := bind_eq_ok.mp rest
  obtain ⟨artifacts, _, same⟩ := bind_eq_ok.mp rest
  cases same
  simpa using mapped

theorem toProtoTask_history {task : Legacy.Task} {proto : Proto.Task} (encoded : ToProto.task task = .ok proto) :
    (task.history.getD []).mapM ToProto.message = .ok proto.history := by
  rw [ToProto.task] at encoded
  obtain ⟨status, _, rest⟩ := bind_eq_ok.mp encoded
  obtain ⟨artifacts, _, rest⟩ := bind_eq_ok.mp rest
  obtain ⟨history, mapped, same⟩ := bind_eq_ok.mp rest
  cases same
  exact mapped

/-- A history that a protobuf peer gets is as long as the one the handler returned. -/
theorem length_encoded {core : A2A.Task} {task : Legacy.Task} {proto : Proto.Task}
    (translated : toCompatTask core = .ok task) (encoded : ToProto.task task = .ok proto) :
    proto.history.length = core.history.length :=
  (length_of_mapM_ok (toProtoTask_history encoded)).trans
    (length_of_mapM_ok (toCompatTask_history translated))

namespace Query

variable {handler : Handler} {stored : A2A.Task} {query : Query}

theorem jsonRpc_core {overJsonRpc : Legacy.Task} (concerns : query.Concerns handler stored)
    (returned : query.jsonRpc handler = .ok overJsonRpc) :
    toCompatTask (applyHistoryLengthSemantics query.historyLength stored) = .ok overJsonRpc := by
  cases query with
  | getTask params =>
      rw [jsonRpc, JsonRpc.getTask, Handler.getTask, concerns.1] at returned
      exact returned
  | sendMessage params =>
      rw [jsonRpc, JsonRpc.sendMessage] at returned
      obtain ⟨request, translated, returned⟩ := bind_eq_ok.mp returned
      rw [toCoreSendMessageRequest] at translated
      obtain ⟨message, _, same⟩ := bind_eq_ok.mp translated
      cases same
      rw [← concerns]
      cases configured : params.configuration <;>
        simpa [Handler.sendMessage, historyLengthOf, historyLength, toCoreSendMessageConfiguration,
          configured] using returned

/-- A request that was decoded from protobuf carries no history length to the handler. -/
theorem historyLengthOf_decoded {request : Proto.SendMessageRequest} {params : Legacy.MessageSendParams}
    {tenant : String} {coreRequest : A2A.SendMessageRequest}
    (decoded : FromProto.messageSendParams request = .ok params)
    (translated : toCoreSendMessageRequest params tenant = .ok coreRequest) :
    historyLengthOf coreRequest = none := by
  rw [FromProto.messageSendParams] at decoded
  cases present : request.request with
  | none =>
      rw [present] at decoded
      cases decoded
  | some value =>
      rw [present] at decoded
      obtain ⟨message, _, same⟩ := bind_eq_ok.mp decoded
      cases same
      rw [toCoreSendMessageRequest] at translated
      obtain ⟨coreMessage, _, same⟩ := bind_eq_ok.mp translated
      cases same
      cases request.configuration <;> rfl

theorem rest_core {overRest : Proto.Task} (concerns : query.Concerns handler stored)
    (natural : ∀ length ∈ query.historyLength, 0 ≤ length) (returned : query.rest handler = .ok overRest) :
    ∃ task, toCompatTask (applyHistoryLengthSemantics query.restLength stored) = .ok task ∧
      ToProto.task task = .ok overRest := by
  cases query with
  | getTask params =>
      rw [rest, Rest.getTask] at returned
      obtain ⟨parsed, read, returned⟩ := bind_eq_ok.mp returned
      have kept : parsed = params.historyLength := by
        cases length : params.historyLength with
        | none =>
            rw [length] at read
            cases read
            rfl
        | some value =>
            have positive : 0 ≤ value := natural value length
            obtain ⟨count, rfl⟩ := Int.eq_ofNat_of_zero_le positive
            have written : toString (count : Int) = toString count := rfl
            rw [length, Option.map_some, written, Rest.parseHistoryLength?, Rest.parseHistoryLength,
              Decimal.parseInt_toString] at read
            simp only [if_neg (show ¬ (count : Int) < 0 by omega)] at read
            cases read
            rfl
      rw [Handler.getTask, concerns.1, kept] at returned
      exact bind_eq_ok.mp returned
  | sendMessage params =>
      rw [rest] at returned
      obtain ⟨body, _, returned⟩ := bind_eq_ok.mp returned
      rw [Rest.sendMessage] at returned
      obtain ⟨decoded, read, returned⟩ := bind_eq_ok.mp returned
      obtain ⟨_, _, returned⟩ := bind_eq_ok.mp returned
      obtain ⟨request, translated, returned⟩ := bind_eq_ok.mp returned
      rw [Handler.sendMessage, historyLengthOf_decoded read translated, concerns] at returned
      exact bind_eq_ok.mp returned

theorem grpc_core {overGrpc : Proto.Task} (concerns : query.Concerns handler stored)
    (returned : query.grpc handler = .ok overGrpc) :
    ∃ task, toCompatTask (applyHistoryLengthSemantics query.grpcLength stored) = .ok task ∧
      ToProto.task task = .ok overGrpc := by
  cases query with
  | getTask params =>
      rw [grpc, Grpc.getTask] at returned
      obtain ⟨decoded, read, returned⟩ := bind_eq_ok.mp returned
      rw [FromProto.taskQueryParams, ToProto.taskQueryParams, concerns.2] at read
      cases read
      rw [Handler.getTask, concerns.1] at returned
      exact bind_eq_ok.mp returned
  | sendMessage params =>
      rw [grpc] at returned
      obtain ⟨request, _, returned⟩ := bind_eq_ok.mp returned
      rw [Grpc.sendMessage] at returned
      obtain ⟨decoded, read, returned⟩ := bind_eq_ok.mp returned
      obtain ⟨coreRequest, translated, returned⟩ := bind_eq_ok.mp returned
      rw [Handler.sendMessage, historyLengthOf_decoded read translated, concerns] at returned
      exact bind_eq_ok.mp returned

end Query

theorem length_applyHistoryLengthSemantics (historyLength : Option Int) (task : A2A.Task) :
    (applyHistoryLengthSemantics historyLength task).history.length =
      match historyLength with
      | none => task.history.length
      | some length => min task.history.length length.toNat := by
  cases historyLength with
  | none => rfl
  | some length =>
      by_cases cut : length ≤ 0
      · simp [applyHistoryLengthSemantics, cut, Int.toNat_of_nonpos cut]
      · simp only [applyHistoryLengthSemantics, if_neg cut, List.length_drop]
        omega

/-- A length that the history does not exceed cuts nothing. -/
theorem applyHistoryLengthSemantics_eq_self {historyLength : Option Int} {task : A2A.Task}
    (long : ∀ length ∈ historyLength, (task.history.length : Int) ≤ length) :
    applyHistoryLengthSemantics historyLength task = task := by
  cases historyLength with
  | none => rfl
  | some length =>
      have bound := long length rfl
      by_cases cut : length ≤ 0
      · have empty : task.history = [] := List.length_eq_zero_iff.mp (by omega)
        rw [applyHistoryLengthSemantics, if_pos cut, ← empty]
      · rw [applyHistoryLengthSemantics, if_neg cut,
          show task.history.length - length.toNat = 0 by omega, List.drop_zero]

namespace Query

variable {stored : A2A.Task} {query : Query}

theorem Spared.cores (spared : query.Spared stored) :
    applyHistoryLengthSemantics query.restLength stored =
        applyHistoryLengthSemantics query.historyLength stored ∧
      applyHistoryLengthSemantics query.grpcLength stored =
        applyHistoryLengthSemantics query.historyLength stored := by
  cases query with
  | getTask params =>
      refine ⟨rfl, ?_⟩
      cases length : params.historyLength with
      | none =>
          have empty := spared length
          simp only [grpcLength, historyLength, length, Option.getD_none]
          exact applyHistoryLengthSemantics_eq_self (by simp [empty])
      | some value => simp [grpcLength, historyLength, length]
  | sendMessage params =>
      have whole := applyHistoryLengthSemantics_eq_self spared
      exact ⟨whole.symm, whole.symm⟩

/-- Where the handler returns histories of one length over JSON-RPC and over gRPC, nothing was cut
over JSON-RPC that gRPC returns. -/
theorem spared_of_length (natural : ∀ length ∈ query.historyLength, 0 ≤ length)
    (same : (applyHistoryLengthSemantics query.grpcLength stored).history.length =
      (applyHistoryLengthSemantics query.historyLength stored).history.length) : query.Spared stored := by
  rw [length_applyHistoryLengthSemantics, length_applyHistoryLengthSemantics] at same
  cases query with
  | getTask params =>
      intro unset
      simp only [grpcLength, historyLength, unset, Option.getD_none, Int.toNat_zero] at same
      exact List.length_eq_zero_iff.mp (by omega)
  | sendMessage params =>
      intro length named
      have positive := natural length named
      have configured : (Query.sendMessage params).historyLength = some length := named
      simp only [grpcLength, configured] at same
      omega

end Query

/-- The three transports return one history for a query exactly when the length it names, or fails
to name, cuts nothing that one of them returns. -/
theorem histories_agree_iff {handler : Handler} {stored : A2A.Task} {query : Query}
    {overJsonRpc : Legacy.Task} {overRest overGrpc : Proto.Task} (concerns : query.Concerns handler stored)
    (natural : ∀ length ∈ query.historyLength, 0 ≤ length)
    (jsonRpc : query.jsonRpc handler = .ok overJsonRpc) (rest : query.rest handler = .ok overRest)
    (grpc : query.grpc handler = .ok overGrpc) :
    SameHistory overJsonRpc overRest overGrpc ↔ query.Spared stored := by
  have translated := query.jsonRpc_core concerns jsonRpc
  obtain ⟨restTask, restTranslated, restEncoded⟩ := query.rest_core concerns natural rest
  obtain ⟨grpcTask, grpcTranslated, grpcEncoded⟩ := query.grpc_core concerns grpc
  constructor
  · intro same
    refine Query.spared_of_length natural ?_
    have returned := length_of_mapM_ok (toCompatTask_history translated)
    have received := length_of_mapM_ok same.grpc
    have encoded := length_encoded grpcTranslated grpcEncoded
    omega
  · intro spared
    rw [spared.cores.1, translated] at restTranslated
    rw [spared.cores.2, translated] at grpcTranslated
    cases restTranslated
    cases grpcTranslated
    exact ⟨toProtoTask_history restEncoded, toProtoTask_history grpcEncoded⟩

def question : A2A.Message where
  messageId := "m"
  contextId := "c"
  taskId := "t"
  role := .user
  parts := [⟨some (.text "hi"), none, "", ""⟩]
  metadata := none
  extensions := []
  referenceTaskIds := []

/-- A task with one message in its history. -/
def asked : A2A.Task where
  id := "t"
  contextId := "c"
  status := some ⟨.working, none, none⟩
  artifacts := []
  history := [question]
  metadata := none

def askedHandler : Handler where
  load id := if id = "t" then some asked else none
  ended := asked

theorem asked_concerned (historyLength : Option Int) :
    (Query.getTask ⟨"t", historyLength⟩).Concerns askedHandler asked :=
  have named : FromProto.extractTaskId (ToProto.generateTaskName "t") = .ok "t" := by decide +kernel
  ⟨rfl, named⟩

theorem histories_agree_on_one :
    (Query.getTask ⟨"t", some 1⟩).Concerns askedHandler asked ∧
      ∃ overJsonRpc overRest overGrpc, (Query.getTask ⟨"t", some 1⟩).jsonRpc askedHandler = .ok overJsonRpc ∧
        (Query.getTask ⟨"t", some 1⟩).rest askedHandler = .ok overRest ∧
        (Query.getTask ⟨"t", some 1⟩).grpc askedHandler = .ok overGrpc ∧
        (SameHistory overJsonRpc overRest overGrpc ↔ (Query.getTask ⟨"t", some 1⟩).Spared asked) :=
  ⟨asked_concerned (some 1), _, _, _, rfl, rfl, rfl,
    histories_agree_iff (asked_concerned (some 1)) (by simp [Query.historyLength]) rfl rfl rfl⟩

/-- A get that names no length: JSON-RPC returns the message, gRPC does not. -/
theorem histories_differ :
    ¬ ∀ (handler : Handler) (stored : A2A.Task) (query : Query) (overJsonRpc : Legacy.Task)
      (overRest overGrpc : Proto.Task), query.Concerns handler stored →
      (∀ length ∈ query.historyLength, 0 ≤ length) → query.jsonRpc handler = .ok overJsonRpc →
      query.rest handler = .ok overRest → query.grpc handler = .ok overGrpc →
      SameHistory overJsonRpc overRest overGrpc := by
  intro always
  have same := always askedHandler asked (.getTask ⟨"t", none⟩) _ _ _ (asked_concerned none)
    (by simp [Query.historyLength]) rfl rfl rfl
  have lengths := length_of_mapM_ok same.grpc
  exact absurd lengths (by decide)

end A2A.Compat
