import A2A.Server.Scenario
import A2A.Server.Semantics.Opening

namespace A2A.Server

open Library

/-! The extensions header against the extensions a call activates.

While nothing has reached the queue of a call, the call has no answer, so every
route but the streaming JSON-RPC one still waits with its head.  That route has
sent it before the executor even starts.
-/

/-- An activation that adds to the list is made before anything has reached the executor's bus,
and not for a JSON-RPC stream; and no list is dropped by an error route. -/
def headWaits (state : HttpState) (label : HttpLabel) : Bool :=
  match label.action, state.exchanges label.pid with
  | .activate uri, some exchange =>
      (exchange.activatedExtensions.getD []).contains uri ||
        !exchange.headFirst && (state.server.calls label.pid).any Call.unheard
  | .writeHead, some exchange =>
      exchange.sender (state.server.calls label.pid) ≠ some .handleError ||
        exchange.activatedExtensions.isNone
  | _, _ => true

theorem extensionsHeader_eq (activated : List String) :
    extensionsHeader activated = Extensions.createFromAll none activated :=
  (Extensions.createFromAll_none activated).symm

theorem extensionsHeader_snoc (activated : List String) (uri : String) :
    extensionsHeader (activated ++ [uri]) =
      some (Extensions.createFrom (extensionsHeader activated) uri) := by
  rw [extensionsHeader_eq, extensionsHeader_eq, Extensions.createFromAll_snoc]

/-- Activating what the list already has. -/
theorem createFrom_listed {current : Option Extensions} {uri : String}
    (listed : (current.getD []).contains uri = true) :
    some (Extensions.createFrom current uri) = current := by
  cases current with
  | none => simp at listed
  | some extensions =>
      rw [Option.getD_some] at listed
      simp only [Extensions.createFrom, Option.getD_some, listed, if_true]

namespace Exchange

structure Echoes (exchange : Exchange) (call : Option Call) : Prop where
  listed : exchange.activatedExtensions = extensionsHeader exchange.activated
  written : ∀ header, exchange.head = some header → header = exchange.activatedExtensions
  late : exchange.head.isSome = true → exchange.headFirst = false →
    (∃ streams, exchange.routing = .called streams) →
    ∃ record, call = some record ∧ record.opening = false

variable {exchange : Exchange} {call : Option Call}

theorem Echoes.new (transport : Transport) (routing : Routing) (options : ServerCallContextOptions)
    (updates : List ContextUpdate) :
    (Exchange.new transport routing ((CallContext.new options).updateAll updates) updates).Echoes
      call where
  listed := by
    rw [extensionsHeader_eq]
    exact CallContext.updateAll_activatedExtensions _ updates
  written := nofun
  late := nofun

/-- A head that goes out before the call is made lists what the context builder activated. -/
theorem Echoes.writeFirst (echoes : exchange.Echoes call) (first : exchange.headFirst = true) :
    (exchange.writeHead .jsonRpcHandler).Echoes call where
  listed := echoes.listed
  written header sent := (Option.some.inj sent).symm
  late _ waits := by
    change exchange.headFirst = false at waits
    simp [first] at waits

/-- A head is sent for a call only once the call has been answered. -/
theorem sender_resolved {record : Call} {sender : HeadSender} {streams : Bool}
    (sends : exchange.sender (some record) = some sender) (waits : exchange.headFirst = false)
    (called : exchange.routing = .called streams) : record.resolved = true := by
  have settled : ∀ {senderOf : Outcome → HeadSender}, record.outcome.map senderOf = some sender →
      record.resolved = true := by
    intro senderOf due
    obtain ⟨outcome, answered, _⟩ := Option.map_eq_some_iff.mp due
    simp [Call.resolved, answered]
  cases streams with
  | true =>
      cases route : exchange.transport with
      | jsonRpc => simp [headFirst, route, called] at waits
      | rest =>
          simp only [Exchange.sender, route, called] at sends
          split at sends
          · assumption
          · cases sends
  | false =>
      cases route : exchange.transport <;> simp only [Exchange.sender, route, called] at sends <;>
        exact settled sends

theorem Echoes.writeHead {sender : HeadSender} (echoes : exchange.Echoes call)
    (opens : ∀ record, call = some record → record.Opens)
    (sends : exchange.sender call = some sender)
    (kept : sender ≠ .handleError ∨ exchange.activatedExtensions = none) :
    (exchange.writeHead sender).Echoes call where
  listed := echoes.listed
  written header sent := by
    have same : sender.header exchange = header := Option.some.inj sent
    rw [← same]
    change sender.header exchange = exchange.activatedExtensions
    cases sender with
    | handleError => exact (kept.resolve_left (· rfl)).symm
    | _ => rfl
  late _ waits called := by
    obtain ⟨streams, called⟩ := called
    change exchange.headFirst = false at waits
    change exchange.routing = .called streams at called
    cases call with
    | none => cases streams <;> cases route : exchange.transport <;>
        simp_all [Exchange.sender, headFirst]
    | some record =>
        have resolved := sender_resolved sends waits called
        refine ⟨record, rfl, ?_⟩
        cases opening : record.opening with
        | false => rfl
        | true => simpa [resolved] using ((opens record rfl).unanswered opening).1

theorem Echoes.activate {record : Call} {uri : String} {streams : Bool}
    (echoes : exchange.Echoes (some record)) (called : exchange.routing = .called streams)
    (executing : record.execution.isSome = true)
    (waits : (exchange.activatedExtensions.getD []).contains uri = true ∨
      (exchange.headFirst = false ∧ record.unheard = true)) :
    (exchange.addActivatedExtension uri).Echoes (some record) where
  listed := by
    simp only [addActivatedExtension, extensionsHeader_snoc, echoes.listed]
  written header sent := by
    change exchange.head = some header at sent
    rcases waits with listed | ⟨later, quiet⟩
    · rw [echoes.written header sent]
      exact (createFrom_listed listed).symm
    · obtain ⟨other, same, closed⟩ := echoes.late (by simp [sent]) later ⟨streams, called⟩
      cases same
      simp [Call.opening, executing, quiet] at closed
  late := echoes.late

end Exchange

namespace HttpState

variable {handler : Handler} {state next : HttpState} {label : HttpLabel} {pid : Pid}
  {exchange : Exchange}

structure Echoes (state : HttpState) : Prop where
  wellFormed : state.server.WellFormed
  opens : state.server.Opens
  exchanges : ∀ pid exchange, state.exchanges pid = some exchange →
    exchange.Echoes (state.server.calls pid)

/-- One exchange is new or has changed. -/
theorem Echoes.setExchange (echoes : state.Echoes)
    (changed : exchange.Echoes (state.server.calls pid)) : (state.setExchange pid exchange).Echoes where
  wellFormed := echoes.wellFormed
  opens := echoes.opens
  exchanges other found present := by
    by_cases same : other = pid
    · subst same
      simp only [HttpState.setExchange, Function.update_self, Option.some.injEq] at present
      exact present ▸ changed
    · simp only [HttpState.setExchange, Function.update_of_ne same] at present
      exact echoes.exchanges other found present

/-- The request handler has taken a step. -/
theorem Echoes.serve {server : State} {label : Label} (echoes : state.Echoes)
    (stepped : state.server.step handler label = some server) :
    ({ state with server } : HttpState).Echoes where
  wellFormed := State.wellFormed_step echoes.wellFormed stepped
  opens := State.opens_step echoes.wellFormed echoes.opens stepped
  exchanges pid exchange found := by
    obtain ⟨listed, written, late⟩ := echoes.exchanges pid exchange found
    refine ⟨listed, written, fun sent waits called => ?_⟩
    obtain ⟨record, present, closed⟩ := late sent waits called
    exact State.opening_step echoes.wellFormed echoes.opens stepped present closed

theorem Echoes.step (echoes : state.Echoes) (waits : headWaits state label = true)
    (stepped : state.step handler label = some next) : next.Echoes := by
  obtain ⟨pid, action⟩ := label
  cases action with
  | receive transport request options updates fresh =>
      simp only [HttpState.step] at stepped
      split at stepped
      · cases stepped
      · simp only [HttpState.receive] at stepped
        split at stepped
        · cases stepped
          exact echoes.setExchange (.new _ _ _ _)
        · obtain ⟨server, begun, rfl⟩ := Option.map_eq_some_iff.mp stepped
          have stepped : state.server.step handler ⟨pid, .call request _ _ fresh⟩ = some server := begun
          refine (echoes.serve stepped).setExchange ?_
          split
          · rename_i first
            exact (Exchange.Echoes.new _ _ _ _).writeFirst first
          · exact .new _ _ _ _
  | refuse transport handled options updates =>
      simp only [HttpState.step] at stepped
      split at stepped
      · cases stepped
      · cases stepped
        exact echoes.setExchange (.new _ _ _ _)
  | serve action =>
      obtain ⟨server, served, rfl⟩ := Option.map_eq_some_iff.mp stepped
      exact echoes.serve served
  | activate uri =>
      simp only [HttpState.step, HttpState.activate] at stepped
      split at stepped
      · rename_i exchange execution found running
        split at stepped
        · rename_i streams called
          cases stepped
          obtain ⟨record, present, executing⟩ := Option.bind_eq_some_iff.mp running
          refine echoes.setExchange ?_
          have before := echoes.exchanges pid exchange found
          rw [present] at before ⊢
          refine before.activate called (by simp [executing]) ?_
          simpa [headWaits, found, present] using waits
        · cases stepped
      · cases stepped
  | writeHead =>
      simp only [HttpState.step, HttpState.writeHead] at stepped
      split at stepped
      · rename_i exchange found
        split at stepped
        · obtain ⟨sender, sends, rfl⟩ := Option.map_eq_some_iff.mp stepped
          refine echoes.setExchange ((echoes.exchanges pid exchange found).writeHead
            (fun record present => echoes.opens pid record present) sends ?_)
          simpa [headWaits, found, sends] using waits
        · cases stepped
      · cases stepped

theorem echoes_start (taskStore : InMemoryTaskStore)
    (pushNotificationStore : InMemoryPushNotificationStore) (taskIdToBus : String → Option BusId) :
    (HttpState.start (.initial taskStore pushNotificationStore taskIdToBus)).Echoes where
  wellFormed := State.wellFormed_initial _ _ _
  opens := State.opens_initial _ _ _
  exchanges := nofun

end HttpState

/-- Every response head names what was activated for its request, each extension once and in the
order of activation: over JSON-RPC and over REST, streaming or not. -/
theorem head_lists_activated {handler : Handler} {taskStore : InMemoryTaskStore}
    {pushNotificationStore : InMemoryPushNotificationStore} {taskIdToBus : String → Option BusId}
    {labels : List HttpLabel} {state : HttpState} {pid : Pid} {exchange : Exchange}
    {header : Option Extensions}
    (runs : (httpSystem handler).Runs (fun state label => headWaits state label = true)
      (.start (.initial taskStore pushNotificationStore taskIdToBus)) labels state)
    (found : state.exchanges pid = some exchange) (sent : exchange.head = some header) :
    header = extensionsHeader exchange.activated := by
  have echoes := runs.invariant HttpState.Echoes (HttpState.echoes_start _ _ _)
    (fun echoes waits stepped => echoes.step waits stepped)
  have holds := echoes.exchanges pid exchange found
  exact (holds.written header sent).trans holds.listed

section

open Scenario

/-- A streamed message whose executor activates an extension, publishes its task, and is done. -/
def activatingSchedule (transport : Transport) : List HttpLabel :=
  let served (labels : List Label) : List HttpLabel :=
    labels.map fun label => ⟨label.pid, .serve label.action⟩
  let options : ServerCallContextOptions := {
    requestedExtensions := some ["urn:ext"]
    user := none
    tenant := none
    requestedVersion := some "1.0"
    state := none }
  let stream := Request.sendMessageStream (params (message "m" "") false)
  [⟨0, .receive transport stream options [] (fresh "T")⟩] ++ served (resumes 0 1) ++
    [⟨0, .activate "urn:ext"⟩] ++ served ([publishes 0 0 (taskEvent "T" .completed)] ++ resumes 0 4)

/-- The head and the activated extensions of one exchange. -/
def HttpState.echoed (state : HttpState) (pid : Pid) :
    Option (Option (Option Extensions) × List String) :=
  (state.exchanges pid).map fun exchange => (exchange.head, exchange.activated)

theorem head_lists_activated_stream :
    ∃ state exchange,
      (httpSystem (server false)).Runs (fun state label => headWaits state label = true)
        (.start (seeded ⟨"", ""⟩ [])) (activatingSchedule .rest ++ [⟨0, .writeHead⟩]) state ∧
      state.exchanges 0 = some exchange ∧ exchange.head = some (some ["urn:ext"]) ∧
      some ["urn:ext"] = extensionsHeader exchange.activated := by
  have ran : ((httpSystem (server false)).checkedRun headWaits (.start (seeded ⟨"", ""⟩ []))
      (activatingSchedule .rest ++ [⟨0, .writeHead⟩])).bind (fun state => state.echoed 0) =
        some (some (some ["urn:ext"]), ["urn:ext"]) := by
    decide +kernel
  obtain ⟨state, completed, echoed⟩ := Option.bind_eq_some_iff.mp ran
  obtain ⟨exchange, found, facts⟩ := Option.map_eq_some_iff.mp echoed
  have runs := @System.runs_of_checkedRun _ _ (httpSystem (server false))
    (fun state label => headWaits state label = true) _ _ _ headWaits (fun _ => True)
    (fun _ _ _ passed => passed) (fun _ _ _ => trivial) trivial completed
  have sent := congrArg Prod.fst facts
  exact ⟨state, exchange, runs, found, sent, head_lists_activated runs found sent⟩

/-- The executor activates its extension before it publishes anything, yet over JSON-RPC the head
went out without it; over REST the same call is answered with the header. -/
theorem stream_head_misses_activated :
    ((httpSystem (server false)).run (.start (seeded ⟨"", ""⟩ []))
        (activatingSchedule .jsonRpc)).bind (fun state => state.echoed 0) =
      some (some none, ["urn:ext"]) ∧
    ((httpSystem (server false)).run (.start (seeded ⟨"", ""⟩ []))
        (activatingSchedule .rest ++ [⟨0, .writeHead⟩])).bind (fun state => state.echoed 0) =
      some (some (some ["urn:ext"]), ["urn:ext"]) ∧
    extensionsHeader ["urn:ext"] = some ["urn:ext"] := by
  decide +kernel

end

end A2A.Server
