import A2A.Server.Scenario
import A2A.Server.Semantics.Answers
import A2A.Server.Semantics.Twins

namespace A2A.Server

open Library

/-! `historyLength` as an input of the whole handler.

The truncation changes its argument in place.  As long as it cuts nothing that anyone else still
reads or is pushed, a run does not depend on the history length of a request beyond that
request's own answer.
-/

def Action.withHistoryLength (historyLength : Option Int) : Action → Action
  | .call request context requestedExtensions fresh =>
      .call (request.withHistoryLength historyLength) context requestedExtensions fresh
  | action => action

def Label.withHistoryLength (pid : Pid) (historyLength : Option Int) (label : Label) : Label :=
  if label.pid = pid then { label with action := label.action.withHistoryLength historyLength }
  else label

namespace Call

variable {handler : Handler} {pid : Pid} {historyLength : Option Int} {chosen : Prop}
  {call twin : Call}

/-- The records of one call in the two runs; `chosen` says that its request differs. -/
inductive Alike (handler : Handler) (historyLength : Option Int) (chosen : Prop) (call : Call) :
    Call → Prop
  | same : ¬ chosen → Alike handler historyLength chosen call call
  | twin {other : Call} : chosen → call.Twin handler historyLength other →
      Alike handler historyLength chosen call other

namespace Alike

theorem map {listener : Call → Call}
    (kept : ∀ {twin}, call.Twin handler historyLength twin →
      (listener call).Twin handler historyLength (listener twin))
    (alike : call.Alike handler historyLength chosen twin) :
    (listener call).Alike handler historyLength chosen (listener twin) := by
  cases alike with
  | same other => exact .same other
  | twin own twins => exact .twin own (kept twins)

theorem parts (alike : call.Alike handler historyLength chosen twin) :
    twin.pc = call.pc ∧ twin.context = call.context ∧ twin.eventQueue = call.eventQueue ∧
      twin.execution = call.execution ∧ twin.notifications = call.notifications ∧
      twin.isStream = call.isStream ∧ twin.executorBus = call.executorBus := by
  cases alike with
  | same other => exact ⟨rfl, rfl, rfl, rfl, rfl, rfl, rfl⟩
  | twin own twins =>
      cases twins
      cases requested : call.request <;>
        simp [recast, isStream, executorBus, Request.withHistoryLength, requested]

theorem executes (alike : call.Alike handler historyLength chosen twin)
    (execution : Option Execution) :
    { call with execution }.Alike handler historyLength chosen { twin with execution } := by
  cases alike with
  | same other => exact .same other
  | twin own twins =>
      cases twins with
      | intro answered core exact => exact .twin own (.intro answered core exact)

theorem mayReport (alike : call.Alike handler historyLength chosen twin) :
    twin.mayReport = call.mayReport := by
  simp only [Call.mayReport, alike.parts]

theorem mayPublish (alike : call.Alike handler historyLength chosen twin) (id : EventId)
    (event : AgentExecutionEvent) : twin.mayPublish pid id event = call.mayPublish pid id event := by
  cases id with
  | made number => rfl
  | contextTask owner => cases event <;> simp only [Call.mayPublish, alike.parts]

theorem awaits {id : EventId} (alike : call.Alike handler historyLength chosen twin) :
    twin.Awaits id ↔ call.Awaits id := by
  simp only [Awaits, alike.parts]

theorem listen (alike : call.Alike handler historyLength chosen twin)
    (taskIdToBus : String → Option BusId) (effect : Effect) :
    (effect.listen taskIdToBus call).Alike handler historyLength chosen
      (effect.listen taskIdToBus twin) := by
  have receives : ∀ bus id event, (call.receive bus id event).Alike handler historyLength chosen
      (twin.receive bus id event) := fun bus id event =>
    alike.map fun twins => by cases twins with | intro answered core exact => exact .intro answered core exact
  have finishes : ∀ bus, (call.receiveFinished bus).Alike handler historyLength chosen
      (twin.receiveFinished bus) := fun bus =>
    alike.map fun twins => by cases twins with | intro answered core exact => exact .intro answered core exact
  have removes : ∀ bus, (call.removeListeners bus).Alike handler historyLength chosen
      (twin.removeListeners bus) := fun bus =>
    alike.map fun twins => by cases twins with | intro answered core exact => exact .intro answered core exact
  cases effect with
  | publish bus id event => exact receives bus id event
  | finished bus => exact finishes bus
  | cleanup taskId =>
      simp only [Effect.listen]
      cases taskIdToBus taskId with
      | none => exact alike
      | some bus => exact removes bus
  | _ => exact alike

end Alike

/-- A publication is awaited by whom it reaches, and nothing else is. -/
theorem listen_awaits {id : EventId} {taskIdToBus : String → Option BusId} {effect : Effect}
    (awaits : (effect.listen taskIdToBus call).Awaits id) :
    call.Awaits id ∨ ∃ bus event, effect = .publish bus id event := by
  have quiet : ∀ {after : Call}, after.pc = call.pc →
      after.eventQueue.map Queue.eventQueue = call.eventQueue.map Queue.eventQueue →
      after.Awaits id → call.Awaits id := by
    intro after counter queued awaits
    rcases awaits with ⟨queue, attached, member⟩ | working
    · rw [attached] at queued
      obtain ⟨earlier, found, same⟩ := Option.map_eq_some_iff.mp queued.symm
      exact .inl ⟨earlier, found, same ▸ member⟩
    · exact .inr (counter ▸ working)
  cases effect with
  | publish bus published event =>
      rcases awaits with ⟨queue, attached, member⟩ | working
      · obtain ⟨earlier, found, rfl⟩ := Option.map_eq_some_iff.mp attached
        simp only [Queue.handleEvent] at member
        split at member
        · rcases List.mem_append.mp member with old | new
          · exact .inl (.inl ⟨earlier, found, old⟩)
          · cases List.mem_singleton.mp new
            exact .inr ⟨bus, event, rfl⟩
        · exact .inl (.inl ⟨earlier, found, member⟩)
      · exact .inl (.inr working)
  | finished bus =>
      exact .inl (@quiet (call.receiveFinished bus) rfl (receiveFinished_queued bus call) awaits)
  | cleanup taskId =>
      simp only [Effect.listen] at awaits
      cases registered : taskIdToBus taskId with
      | none =>
          simp only [registered] at awaits
          exact .inl awaits
      | some bus =>
          simp only [registered] at awaits
          exact .inl (@quiet (call.removeListeners bus) rfl (removeListeners_queued bus call) awaits)
  | _ => exact .inl awaits

/-- A resumed call's execution is the one it had, or a new one. -/
theorem Resumed.mayReport {view : View} {fate : Fate} {after : Call} {effects : List Effect}
    (wellFormed : call.WellFormed) (resumed : Resumed handler view pid call fate after effects)
    (reports : after.mayReport = true) : call.mayReport = true := by
  cases executing : call.execution with
  | none => simp [Call.mayReport, executing]
  | some execution =>
      have kept : after.execution = call.execution := by
        cases resumed.busUse wellFormed with
        | unchanged same | attached _ _ same => exact same
        | prepared _ absent | started _ absent | startedPrepared _ _ absent =>
            cases executing.symm.trans absent
      have streaming : after.isStream = call.isStream := by
        simp only [isStream, (resumed.origin wellFormed).1]
      simpa only [Call.mayReport, kept, streaming] using reports

end Call

theorem Call.begin_twin {handler : Handler} {view : View} (historyLength : Option Int) (events : EventHeap)
    (request : Request) (context : ServerCallContext) (requestedExtensions : Option (List String))
    (fresh : Fresh) :
    (handler.begin view request context requestedExtensions fresh).Twin handler historyLength
      (handler.begin { view with event := events } (request.withHistoryLength historyLength) context
        requestedExtensions fresh) := by
  cases request with
  | sendMessage params | sendMessageStream params =>
      simp only [Handler.begin, Request.withHistoryLength, configured_message]
      cases params.message with
      | none => exact .intro rfl rfl fun _ => rfl
      | some message =>
          simp only
          split
          · exact .intro rfl rfl fun _ => rfl
          · split <;> exact .intro rfl rfl fun _ => rfl
  | resubscribe taskId =>
      simp only [Handler.begin, Request.withHistoryLength]
      split
      · cases view.eventBus taskId <;> exact .intro rfl rfl fun _ => rfl
      · exact .intro rfl rfl fun _ => rfl
  | listTasks params =>
      simp only [Handler.begin, Request.withHistoryLength]
      split
      · exact .intro rfl rfl fun _ => rfl
      · split <;> exact .intro rfl rfl fun _ => rfl
  | cancelTask | getTask => exact .intro rfl rfl fun _ => rfl
  | _ =>
      simp only [Handler.begin, Request.withHistoryLength]
      split <;> exact .intro rfl rfl fun _ => rfl

theorem Call.begin_awaits {handler : Handler} {view : View} (request : Request)
    (context : ServerCallContext) (requestedExtensions : Option (List String)) (fresh : Fresh)
    (id : EventId) : ¬ (handler.begin view request context requestedExtensions fresh).Awaits id := by
  have begun := @Call.begin_cases handler view request context requestedExtensions fresh
  generalize handler.begin view request context requestedExtensions fresh = call at begun ⊢
  rintro (⟨queue, queued, member⟩ | working)
  · cases begun <;> cases queued
    cases member
  · cases begun with
    | starts =>
        simp only [Call.resolveReferences] at working
        split at working <;> cases working
    | loads counter => rcases counter with rfl | rfl | rfl | rfl <;> cases working
    | _ => cases working

theorem map_core_trim (event : Option AgentExecutionEvent) (historyLength : Option Int) :
    (event.map (AgentExecutionEvent.trim historyLength)).map AgentExecutionEvent.core =
      event.map AgentExecutionEvent.core := by
  cases event <;> simp

namespace State

variable {handler : Handler} {pid other : Pid} {historyLength : Option Int}
  {state twin next : State} {effect : Effect} {effects : List Effect} {call after : Call}

/-- The event is the task in the request context of a call whose execution may still report it. -/
def Reports (state : State) (id : EventId) : Prop :=
  ∃ owner, id = .contextTask owner ∧
    ∀ call, state.calls owner = some call → call.mayReport = true

/-- Some call still reads the event. -/
def Awaits (state : State) (id : EventId) : Prop :=
  (∃ pid call, state.calls pid = some call ∧ call.Awaits id) ∨ state.Reports id

/-- Some call reads the event after the call that is handling it, or an execution may report it. -/
def AwaitsBehind (state : State) (pid : Pid) (id : EventId) : Prop :=
  (∃ other call, state.calls other = some call ∧
    ((∃ queue, call.eventQueue = some queue ∧ id ∈ queue.eventQueue) ∨
      (other ≠ pid ∧ call.pc.reads = some id))) ∨ state.Reports id

/-- If the step hands out a result, the truncation cuts nothing that others see. -/
def SparesOthers (handler : Handler) (pid : Pid) (historyLength : Option Int) (state : State)
    (label : Label) : Prop :=
  ∀ call fate id event, label = ⟨pid, .resume fate⟩ → state.calls pid = some call →
    call.pc = .map id → state.events id = some event →
    call.Spares handler historyLength (state.AwaitsBehind pid id)
      (state.view pid (handler.scope call.context)) fate event

theorem reporting (found : state.calls other = some call)
    (kept : after.mayReport = true → call.mayReport = true) (earlier : Call)
    (present : state.calls other = some earlier) (reports : after.mayReport = true) :
    earlier.mayReport = true := by
  cases found.symm.trans present
  exact kept reports

theorem Reports.before {id : EventId}
    (kept : ∀ call, state.calls other = some call → after.mayReport = true → call.mayReport = true)
    (reports : (state.setCall other after).Reports id) : state.Reports id := by
  obtain ⟨owner, rfl, pending⟩ := reports
  refine ⟨owner, rfl, fun call found => ?_⟩
  by_cases same : owner = other
  · subst same
    exact kept call found (pending after setCall_self)
  · exact pending call (by rwa [setCall_of_ne same])

theorem Reports.apply {id : EventId} (reports : (state.apply other effect).Reports id) :
    state.Reports id := by
  obtain ⟨owner, rfl, pending⟩ := reports
  refine ⟨owner, rfl, fun call found => @Call.listen_mayReport call state.taskIdToBus effect ?_⟩
  exact pending _ (by rw [apply_calls, found, Option.map_some])

/-- The states of the two runs. -/
structure Twin (handler : Handler) (pid : Pid) (historyLength : Option Int) (state twin : State) :
    Prop where
  rest : ∃ calls events, twin = { state with calls, events }
  calls : ∀ other, Option.Rel (Call.Alike handler historyLength (other = pid)) (state.calls other)
    (twin.calls other)
  events : ∀ id, (twin.events id).map AgentExecutionEvent.core =
      (state.events id).map AgentExecutionEvent.core ∧
    (state.Awaits id → twin.events id = state.events id)

namespace Twin

theorem view (twins : Twin handler pid historyLength state twin) (other : Pid) (scope : Scope) :
    twin.view other scope = { state.view other scope with event := twin.events } := by
  obtain ⟨calls, events, rfl⟩ := twins.rest
  rfl

theorem unknown (twins : Twin handler pid historyLength state twin) {id : EventId}
    (unknown : state.events id = none) : twin.events id = none := by
  have same := (twins.events id).1
  rw [unknown] at same
  exact Option.map_eq_none_iff.mp same

/-- The record of a call in the second run. -/
theorem record (twins : Twin handler pid historyLength state twin)
    (found : state.calls other = some call) :
    ∃ again, twin.calls other = some again ∧ call.Alike handler historyLength (other = pid) again := by
  have related := twins.calls other
  rw [found] at related
  generalize twin.calls other = again at related ⊢
  cases related with
  | some alike => exact ⟨_, rfl, alike⟩

theorem absent (twins : Twin handler pid historyLength state twin)
    (absent : state.calls other = none) : twin.calls other = none := by
  have related := twins.calls other
  rw [absent] at related
  generalize twin.calls other = record at related ⊢
  cases related
  rfl

theorem setCall {again : Call} (twins : Twin handler pid historyLength state twin)
    (alike : after.Alike handler historyLength (other = pid) again)
    (awaits : ∀ id, after.Awaits id → state.Awaits id)
    (reports : ∀ call, state.calls other = some call → after.mayReport = true →
      call.mayReport = true) :
    Twin handler pid historyLength (state.setCall other after) (twin.setCall other again) where
  rest := by
    obtain ⟨calls, events, rfl⟩ := twins.rest
    exact ⟨_, _, rfl⟩
  calls third := by
    by_cases same : third = other
    · subst same
      rw [setCall_self, setCall_self]
      exact .some alike
    · rw [setCall_of_ne same, setCall_of_ne same]
      exact twins.calls third
  events id := by
    refine ⟨(twins.events id).1, fun awaited => (twins.events id).2 ?_⟩
    rcases awaited with ⟨third, record, found, reads⟩ | reported
    · by_cases same : third = other
      · subst same
        cases setCall_self.symm.trans found
        exact awaits id reads
      · rw [setCall_of_ne same] at found
        exact .inl ⟨third, record, found, reads⟩
    · exact .inr (reported.before reports)

theorem apply (twins : Twin handler pid historyLength state twin) (other : Pid) (effect : Effect) :
    Twin handler pid historyLength (state.apply other effect) (twin.apply other effect) where
  rest := by
    obtain ⟨calls, events, rfl⟩ := twins.rest
    cases effect with
    | cleanup taskId =>
        simp only [State.apply]
        cases state.taskIdToBus taskId <;> exact ⟨_, _, rfl⟩
    | _ => exact ⟨_, _, rfl⟩
  calls third := by
    have buses : twin.taskIdToBus = state.taskIdToBus := by
      obtain ⟨calls, events, rfl⟩ := twins.rest
      rfl
    rw [apply_calls, apply_calls, buses]
    have related := twins.calls third
    generalize state.calls third = record at related ⊢
    generalize twin.calls third = again at related ⊢
    cases related with
    | none => exact .none
    | some alike => exact .some (alike.listen _ _)
  events id := by
    have awaited : (state.apply other effect).Awaits id →
        state.Awaits id ∨ ∃ bus event, effect = .publish bus id event := by
      rintro (⟨third, record, found, awaits⟩ | reports)
      · rw [apply_calls] at found
        obtain ⟨earlier, present, rfl⟩ := Option.map_eq_some_iff.mp found
        exact (Call.listen_awaits awaits).imp_left fun reads => .inl ⟨third, earlier, present, reads⟩
      · exact .inl (.inr reports.apply)
    have kept : (∀ bus event, effect ≠ .publish bus id event) →
        ((state.apply other effect).Awaits id → twin.events id = state.events id) := by
      intro silent awaits
      refine (twins.events id).2 ((awaited awaits).resolve_right ?_)
      rintro ⟨bus, event, rfl⟩
      exact silent bus event rfl
    cases effect with
    | publish bus published event =>
        by_cases same : id = published
        · subst same
          simp [State.apply, mapCalls]
        · simpa [State.apply, mapCalls, Function.update_of_ne same] using
            ⟨(twins.events id).1, kept (by rintro _ _ ⟨⟩; exact same rfl)⟩
    | trim trimmed length =>
        by_cases same : id = trimmed
        · subst same
          refine ⟨?_, fun awaits => by simp [State.apply, kept (by simp) awaits]⟩
          simp only [State.apply, Function.update_self, map_core_trim]
          exact (twins.events id).1
        · simpa [State.apply, Function.update_of_ne same] using
            ⟨(twins.events id).1, kept (by simp)⟩
    | cleanup taskId =>
        have still : (state.apply other (.cleanup taskId)).events = state.events ∧
            (twin.apply other (.cleanup taskId)).events = twin.events := by
          simp only [State.apply]
          constructor <;> split <;> rfl
        rw [still.1, still.2]
        exact ⟨(twins.events id).1, kept (by simp)⟩
    | _ => exact ⟨(twins.events id).1, kept (by simp)⟩

theorem foldl (twins : Twin handler pid historyLength state twin) (other : Pid)
    (effects : List Effect) :
    Twin handler pid historyLength (effects.foldl (State.apply other) state)
      (effects.foldl (State.apply other) twin) := by
  induction effects generalizing state twin with
  | nil => exact twins
  | cons effect rest ih => exact ih (twins.apply other effect)

theorem commit {again : Call} (twins : Twin handler pid historyLength state twin)
    (alike : after.Alike handler historyLength (other = pid) again)
    (awaits : ∀ id, after.Awaits id → state.Awaits id)
    (reports : ∀ call, state.calls other = some call → after.mayReport = true →
      call.mayReport = true) (effects : List Effect) :
    Twin handler pid historyLength (state.commit other (after, effects))
      (twin.commit other (again, effects)) :=
  (twins.setCall alike awaits reports).foldl other effects

/-- The truncation in the step of the request's own call. -/
theorem trimmed {again : Call} {other : List Effect} {id : EventId} {event : AgentExecutionEvent}
    (twins : Twin handler pid historyLength state twin) (found : state.calls pid = some call)
    (counter : call.pc = .map id) (known : state.events id = some event)
    (alike : after.Twin handler historyLength again)
    (frame : call.Frame after) (left : after.pc.reads = none)
    (trims : Call.Trims historyLength (state.AwaitsBehind pid id) id event effects other) :
    Twin handler pid historyLength (state.commit pid (after, effects))
      (twin.commit pid (again, other)) := by
  have awaits : ∀ id, after.Awaits id → call.Awaits id := fun id =>
    frame.awaits fun other reads => by simp [left] at reads
  have reports : after.mayReport = true → call.mayReport = true := by
    simp only [Call.mayReport, frame.execution, frame.isStream, imp_self]
  have moved := twins.setCall (.twin rfl alike)
    (fun id reads => .inl ⟨pid, call, found, awaits id reads⟩) (reporting found reports)
  cases trims with
  | none => exact moved
  | @trim first cut =>
      have same : twin.events id = some event :=
        ((twins.events id).2 (.inl ⟨pid, call, found, .inr (by rw [counter]; rfl)⟩)).trans known
      have behind : (state.setCall pid after).Awaits id → state.AwaitsBehind pid id := by
        rintro (⟨other, record, present, reads⟩ | reported)
        · by_cases own : other = pid
          · subst own
            cases setCall_self.symm.trans present
            rcases reads with ⟨queue, queued, member⟩ | working
            · have kept := frame.queued
              rw [queued] at kept
              obtain ⟨earlier, attached, equal⟩ := Option.map_eq_some_iff.mp kept.symm
              exact .inl ⟨other, call, found, .inl ⟨earlier, attached, equal ▸ member⟩⟩
            · simp [left] at working
          · rw [setCall_of_ne own] at present
            exact .inl ⟨other, record, present, reads.imp_right fun working => ⟨own, working⟩⟩
        · exact .inr (reported.before (reporting found reports))
      refine ⟨?_, moved.calls, fun third => ?_⟩
      · obtain ⟨calls, events, rfl⟩ := twins.rest
        exact ⟨_, _, rfl⟩
      · by_cases own : third = id
        · subst own
          have cutEvent : (state.commit pid (after, [.trim third first])).events third =
              some (event.trim first) := by simp [State.commit, State.apply, known]
          have cutAgain : (twin.commit pid (again, [.trim third historyLength])).events third =
              some (event.trim historyLength) := by simp [State.commit, State.apply, same]
          rw [cutEvent, cutAgain]
          exact ⟨by simp, fun reads => by rw [cut (behind reads)]⟩
        · have kept : (state.commit pid (after, [.trim id first])).events third = state.events third :=
            Function.update_of_ne own _ _
          have keptAgain : (twin.commit pid (again, [.trim id historyLength])).events third =
              twin.events third := Function.update_of_ne own _ _
          rw [kept, keptAgain]
          exact moved.events third

theorem agree {again : Call} (twins : Twin handler pid historyLength state twin)
    (found : state.calls other = some call)
    (alike : call.Alike handler historyLength (other = pid) again) :
    again.Agree state.events twin.events := fun id =>
  ⟨(twins.events id).1, fun awaits =>
    (twins.events id).2 (.inl ⟨other, call, found, alike.awaits.mp awaits⟩)⟩

/-- The rejection handler copies the same history in the two runs, when it copies any. -/
theorem reap {keepBusAliveStates : List TaskState} {execution : Execution} {fresh : FailureFresh}
    (twins : Twin handler pid historyLength state twin) (found : state.calls other = some call)
    (executing : call.execution = some execution) :
    execution.reap keepBusAliveStates call.isStream (twin.contextTask other execution) fresh =
      execution.reap keepBusAliveStates call.isStream (state.contextTask other execution) fresh := by
  refine Execution.reap_congr fresh fun reports => ?_
  have pending : state.Reports (.contextTask other) := by
    refine ⟨other, rfl, fun record present => ?_⟩
    cases found.symm.trans present
    simpa only [Call.mayReport, executing] using reports
  simp only [contextTask, (twins.events (.contextTask other)).2 (.inr pending)]

/-- One resumed call in the two runs. -/
theorem resumed {fate : Fate} (twins : Twin handler pid historyLength state twin)
    (wellFormed : state.WellFormed)
    (spares : state.SparesOthers handler pid historyLength ⟨other, .resume fate⟩)
    (found : state.calls other = some call)
    (resumed : call.resume handler (state.view other (handler.scope call.context)) other fate =
      some (after, effects)) :
    ∃ reached, twin.step handler ⟨other, .resume fate⟩ = some reached ∧
      Twin handler pid historyLength (state.commit other (after, effects)) reached := by
  obtain ⟨again, stored, alike⟩ := twins.record found
  have cases' := Call.resume_cases resumed
  have awaits : ∀ id, after.Awaits id → state.Awaits id := fun id reads =>
    .inl ⟨other, call, found, cases'.awaits (wellFormed other call found) reads⟩
  have reports := reporting found (cases'.mayReport (wellFormed other call found))
  have context : again.context = call.context := alike.parts.2.1
  have continues : twin.step handler ⟨other, .resume fate⟩ =
      (again.resume handler (state.view other (handler.scope call.context)) other fate).map
        (twin.commit other) := by
    simp only [State.step, stored, State.resumeCall, context, twins.view]
    rw [Call.resume_congr (twins.agree found alike)]
  rw [continues]
  cases alike with
  | same differs =>
      rw [resumed]
      exact ⟨_, rfl, twins.commit (.same differs) awaits reports effects⟩
  | twin own alike =>
      subst own
      by_cases mapping : ∃ id, call.pc = .map id
      · obtain ⟨id, counter⟩ := mapping
        obtain ⟨event, known, goes⟩ := Call.resume_mapping counter resumed
        rw [Call.resume_map counter known goes] at resumed
        have related := alike.mapEvent counter known (spares call fate id event rfl found counter known)
        obtain ⟨frame, left⟩ := Call.mapEvent_left resumed
        have counterAgain : again.pc = .map id := by
          cases alike
          exact counter
        rw [Call.resume_map counterAgain known goes]
        rw [resumed] at related
        generalize again.mapEvent handler _ id fate = result at related ⊢
        cases related with
        | @some _ reached related =>
            exact ⟨_, rfl, twins.trimmed found counter known related.1 frame left related.2⟩
      · have related := @Call.Twin.resume handler (state.view other (handler.scope call.context)) other
          call historyLength again alike fate fun id counter => mapping ⟨id, counter⟩
        rw [resumed] at related
        generalize again.resume handler _ other fate = result at related ⊢
        cases related with
        | @some _ reached related =>
            obtain ⟨answer, trims⟩ := reached
            obtain ⟨alike, same⟩ := related
            cases same
            exact ⟨_, rfl, twins.commit (.twin rfl alike) awaits reports effects⟩

/-- A step of the second run with the same label. -/
theorem relabelled {label : Label} (unnamed : ∀ request context extensions fresh,
    label.action ≠ .call request context extensions fresh) :
    label.withHistoryLength pid historyLength = label := by
  obtain ⟨other, action⟩ := label
  simp only [Label.withHistoryLength]
  split
  · cases action with
    | call request context extensions fresh => exact absurd rfl (unnamed request context extensions fresh)
    | _ => rfl
  · rfl

theorem step {label : Label} (twins : Twin handler pid historyLength state twin)
    (wellFormed : state.WellFormed) (spares : state.SparesOthers handler pid historyLength label)
    (stepped : state.step handler label = some next) :
    ∃ reached, twin.step handler (label.withHistoryLength pid historyLength) = some reached ∧
      Twin handler pid historyLength next reached := by
  obtain ⟨after, effects, steppedTo, rfl⟩ := step_cases stepped
  have awaiting : ∀ {other : Pid} {call : Call}, state.calls other = some call →
      ∀ id, call.Awaits id → state.Awaits id := fun found id reads => .inl ⟨_, _, found, reads⟩
  cases steppedTo with
  | @begun other request context requestedExtensions fresh absent =>
      have begins : ∀ request,
          twin.step handler ⟨other, .call request context requestedExtensions fresh⟩ =
            some (twin.setCall other (handler.begin
              { state.view other (handler.scope context) with event := twin.events } request context
              requestedExtensions fresh)) := by
        intro request
        simp only [State.step, State.beginCall, twins.absent absent, twins.view]
      have blank := @Call.begin_awaits handler (state.view other (handler.scope context)) request context
        requestedExtensions fresh
      simp only [Label.withHistoryLength]
      split
      · rename_i own
        have begun := @Call.begin_twin handler (state.view other (handler.scope context)) historyLength
          twin.events request context requestedExtensions fresh
        exact ⟨_, begins _, twins.setCall (.twin own begun) (fun id reads => absurd reads (blank id))
          fun call found => by cases absent.symm.trans found⟩
      · rename_i differs
        exact ⟨_, begins _, twins.setCall (.same differs) (fun id reads => absurd reads (blank id))
          fun call found => by cases absent.symm.trans found⟩
  | resumed found resumed =>
      rw [relabelled (by simp)]
      exact twins.resumed wellFormed spares found resumed
  | @published other call bus id event found executor unknown permitted =>
      obtain ⟨again, stored, alike⟩ := twins.record found
      rw [relabelled (by simp)]
      refine ⟨twin.commit other (again, [.publish bus id event]), ?_,
        twins.commit alike (awaiting found) (reporting found fun reports => reports) _⟩
      simp only [State.step, stored, State.publish, alike.parts, executor, twins.unknown unknown,
        alike.mayPublish, permitted, if_true]
  | @finishedBus other call bus found executor =>
      obtain ⟨again, stored, alike⟩ := twins.record found
      rw [relabelled (by simp)]
      refine ⟨twin.commit other (again, [.finished bus]), ?_,
        twins.commit alike (awaiting found) (reporting found fun reports => reports) _⟩
      simp only [State.step, stored, State.finishBus, alike.parts, executor, Option.map_some]
  | @executorReturned other call execution found executing running
  | @executorThrew other call execution _ found executing running =>
      obtain ⟨again, stored, alike⟩ := twins.record found
      rw [relabelled (by simp)]
      refine ⟨_, ?_, twins.setCall (alike.executes _) (fun id reads => awaiting found id reads)
        (reporting found fun reports => ?_)⟩
      · simp only [State.step, stored, State.executorSettled, alike.parts, executing, running, if_true]
      · exact Call.running_mayReport executing running reports
  | @reaped other call execution fresh after effects found executing unknownTask unknownStatus differ
      reaped madeTask madeStatus =>
      obtain ⟨again, stored, alike⟩ := twins.record found
      rw [relabelled (by simp)]
      refine ⟨_, ?_, twins.commit (alike.executes (some after)) (fun id reads => awaiting found id reads)
        (reporting found fun reports => ?_) effects⟩
      · simp only [State.step, stored, State.executorReaped, alike.parts, executing,
          twins.unknown unknownTask, twins.unknown unknownStatus, Option.isNone_none, differ, ne_eq,
          not_false_eq_true, madeTask, madeStatus, and_self, if_true, twins.reap found executing, reaped,
          Option.map_some]
      · cases Execution.reap_settles reaped <;> cases reports
  | @abandoned other call after found abandoned =>
      obtain ⟨again, stored, alike⟩ := twins.record found
      rw [relabelled (by simp)]
      obtain ⟨last, counter, rfl⟩ := Call.abandon_cases abandoned
      have left := @Call.Alike.map handler historyLength (other = pid) call again
        (fun call => call.stopQueue.finish .done) (fun twins => twins.stopQueue.finish .done .done) alike
      refine ⟨_, ?_, twins.setCall left ?_ (reporting found fun reports => reports)⟩
      · simp only [State.step, stored, Call.abandon, alike.parts, counter, Option.map_some]
      · exact fun id reads => awaiting found id ((Call.stopQueue_frame.trans
          (Call.finish_frame _)).awaits (fun other reads => by cases reads) reads)

end Twin

end State

section

open Scenario

/-- Another call publishes nothing and reads nothing of the event that the only consumer handles. -/
def alone (state : State) (label : Label) : Bool :=
  label.pid == 0 &&
    match state.calls 0 with
    | some call =>
        call.pc.reads.all fun id =>
          id.isMade && !call.eventQueue.any fun queue => queue.eventQueue.contains id
    | none => true

theorem sparesOthers_alone {historyLength : Option Int} {state : State} {label : Label}
    (within : Within [0] state) (passes : alone state label = true) :
    state.SparesOthers (server false) 0 historyLength label := by
  intro call fate id event _ found counter _
  have unawaited : ¬ state.AwaitsBehind 0 id := by
    rintro (⟨other, record, present, reads⟩ | ⟨owner, rfl, _⟩)
    · have own : other = 0 := by simpa using within other record present
      subst own
      cases found.symm.trans present
      rcases reads with ⟨queue, queued, member⟩ | ⟨differs, _⟩
      · simp [alone, found, queued, counter, Pc.reads, member] at passes
      · exact differs rfl
    · simp [alone, found, counter, Pc.reads, EventId.isMade] at passes
  simp only [Call.Spares]
  split
  · exact ⟨fun _ _ _ awaits => absurd awaits unawaited, fun _ _ pushes => by cases pushes⟩
  · intro _ _
    split
    · trivial
    · rintro (awaits | ⟨pushes, _⟩)
      · exact absurd awaits unawaited
      · cases pushes
    · exact fun _ _ pushes => by cases pushes
    · exact fun _ _ pushes => by cases pushes
  · trivial

def startedTask : AgentExecutionEvent :=
  .task { task "T" .working with history := [message "a" "T", message "b" "T"] }

/-- A first result is handed out while, if `shared`, a second consumer still has it queued. -/
def truncatingSchedule (shared : Bool) : List Label :=
  [calls 0 (.sendMessage (params (message "m" "T") true)) (context "tenant" "user") ""] ++
    resumes 0 3 ++
    (if shared then
      [calls 1 (.sendMessage (params (message "n" "T") true)) (context "tenant" "user") ""] ++
        resumes 1 3
    else []) ++
    [publishes 0 0 startedTask] ++ resumes 0 4 ++ (if shared then resumes 1 4 else [])

def truncatingStart : State := seeded ⟨"tenant", "user"⟩ [task "T" .working]

def storedIds (state : State) : Option (List String) :=
  (state.row ⟨"tenant", "user"⟩ "T").map fun task => task.history.map Message.messageId

/-- The first result that is cut is the task of the request's own context, and `execute()` rejects. -/
def reportingSchedule : List Label :=
  [calls 0 (.sendMessage (params (message "m" "T") true)) (context "tenant" "user") ""] ++
    resumes 0 3 ++ [publishes 0 (.contextTask 0) startedTask] ++ resumes 0 4 ++
    [throws 0, reaps 0 7 8] ++ resumes 0 8

example : (((handlerSystem (server false)).run truncatingStart reportingSchedule).bind storedIds,
    ((handlerSystem (server false)).run truncatingStart
      (reportingSchedule.map (Label.withHistoryLength 0 (some 1)))).bind storedIds) =
    (some ["a", "b", "m", "failure"], some ["b", "m", "failure"]) := rfl

end

end A2A.Server
