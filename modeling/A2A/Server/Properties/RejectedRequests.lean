import A2A.Server.Scenario
import A2A.Server.Semantics.Buses

namespace A2A.Server

open Library

/-! What a request that never reaches its executor leaves in the task store.

`_createRequestContext` saves the incoming message before it loads the reference
tasks and checks the agent card, so a follow-up that is refused by one of the
later checks has already changed its task.
-/

/-- The waits after the history save; no step from them writes a task. -/
def Pc.resolving : Pc → Bool
  | .loadReferences _ _ _ _ _ | .getAgentCard _ _ _ _ | .savePushConfig _ _ | .finished => true
  | _ => false

namespace Call

variable {handler : Handler} {view : View} {pid : Pid} {call after : Call} {effects : List Effect}
  {fate : Fate}

/-- Past the history save, and not yet at its executor. -/
structure Resolving (call : Call) : Prop where
  waits : call.pc.resolving = true
  unstarted : call.execution = none
  sends : call.isSend = true

theorem resolveReferences_resolving (message : Message) (task : Option Task) (taskId : String)
    (unstarted : call.execution = none) (sends : call.isSend = true) :
    (call.resolveReferences message task taskId).Resolving := by
  refine ⟨?_, unstarted, sends⟩
  simp only [resolveReferences]
  split <;> rfl

theorem finish_resolving (outcome : Outcome) (unstarted : call.execution = none)
    (sends : call.isSend = true) : (call.finish outcome).Resolving :=
  ⟨rfl, unstarted, sends⟩

theorem Resolving.resumed (resolving : call.Resolving)
    (resumed : call.resume handler view pid fate = some (after, effects)) :
    (∀ effect ∈ effects, effect.saves = false) ∧ (after.execution.isSome = true ∨ after.Resolving) := by
  obtain ⟨waits, unstarted, sends⟩ := resolving
  have joinedQuiet : ∀ {taskId : String} {bus : BusId} {effects : List Effect},
      Joined view pid taskId bus effects → ∀ effect ∈ effects, effect.saves = false := by
    intro taskId bus effects joined
    cases joined <;> simp [Effect.saves]
  cases resume_cases resumed with
  | answered _ configures =>
      refine ⟨fun effect member => ?_, .inr (finish_resolving _ unstarted sends)⟩
      have kind := configures effect member
      cases effect <;> simp [Effect.configures, Effect.saves] at kind ⊢
  | referenceLoaded counter =>
      refine ⟨by simp, .inr ⟨?_, unstarted, sends⟩⟩
      simp only
      split <;> rfl
  | @contextBuilt _ _ _ _ extensions _ _ counter created =>
      have sending : { call with requestedExtensions := extensions }.isSend = true := sends
      cases contextCreated_cases sending created with
      | configures => exact ⟨by simp, .inr ⟨rfl, unstarted, sends⟩⟩
      | configuresStream _ joined => exact ⟨joinedQuiet joined, .inr ⟨rfl, unstarted, sends⟩⟩
      | runs joined => exact ⟨joinedQuiet joined, .inl rfl⟩
  | configSaved => exact ⟨by simp [Effect.saves], .inl rfl⟩
  | configSavedFirst _ _ joined =>
      have quiet := joinedQuiet (createOrGetBus_joined joined)
      exact ⟨by simpa [Effect.saves] using quiet, .inl rfl⟩
  | taskAccepted counter | historySaved counter | loopEnded counter | forwarded counter
  | violated counter | taken counter | lockFailed counter | merged counter | skipped counter
  | saveFailed counter | saved counter | yielded counter | mapped counter | closed counter
  | continued counter | consumed counter | cancelAttached counter | cancelDirect counter
  | cancelExecuted counter | cancelSaved counter | resubscribeRefused counter
  | resubscribed counter | configTaskFound counter | misdirected counter =>
      rw [counter] at waits
      cases waits

end Call

namespace State

variable {handler : Handler} {state final : State} {pid : Pid} {call : Call} {fate : Fate}

/-- A step of one call leaves it a record that its own effects have at most reached as events. -/
theorem resume_step (found : state.calls pid = some call)
    (stepped : state.step handler ⟨pid, .resume fate⟩ = some final) :
    ∃ after effects record,
      call.resume handler (state.view pid (handler.scope call.context)) pid fate =
        some (after, effects) ∧
      final = state.commit pid (after, effects) ∧ final.calls pid = some record ∧
      after.Overheard record := by
  simp only [step, found, resumeCall, Option.map_eq_some_iff] at stepped
  obtain ⟨⟨after, effects⟩, resumed, rfl⟩ := stepped
  have present : ∃ record, (state.commit pid (after, effects)).calls pid = some record := by
    have kept : ∀ (effects : List Effect) (state : State), (∃ record, state.calls pid = some record) →
        ∃ record, (effects.foldl (apply pid) state).calls pid = some record := by
      intro effects
      induction effects with
      | nil => exact fun _ present => present
      | cons effect rest ih =>
          rintro state ⟨record, present⟩
          exact ih _ ⟨_, by rw [apply_calls, present]; rfl⟩
    exact kept effects _ ⟨after, setCall_self⟩
  obtain ⟨record, present⟩ := present
  rcases commit_overheard present with ⟨_, overheard⟩ | ⟨differ, _⟩
  · exact ⟨after, effects, record, resumed, rfl, present, overheard⟩
  · exact absurd rfl differ

/-- The call has started its executor, or is past its history save with the store as given. -/
def Settled (store : InMemoryTaskStore) (pid : Pid) (state : State) : Prop :=
  ∃ call, state.calls pid = some call ∧ call.WellFormed ∧
    (call.execution.isSome = true ∨ call.Resolving ∧ state.taskStore = store)

theorem settled_step {store : InMemoryTaskStore} (settled : Settled store pid state)
    (stepped : state.step handler ⟨pid, .resume fate⟩ = some final) : Settled store pid final := by
  obtain ⟨call, found, wellFormed, before⟩ := settled
  obtain ⟨after, effects, record, resumed, rfl, present, overheard⟩ := resume_step found stepped
  have formed := wellFormed.resumed (Call.resume_cases resumed)
  have started : after.execution.isSome = true → record.execution.isSome = true := by
    intro executing
    have core := congrArg Option.isSome overheard.execution
    simpa [executing] using core
  refine ⟨record, present, formed.overheard overheard, ?_⟩
  rcases before with executing | ⟨resolving, rfl⟩
  · refine .inl (started ?_)
    cases (Call.resume_cases resumed).busUse wellFormed with
    | unchanged same | attached _ _ same => rw [same]; exact executing
    | prepared _ idle | started _ idle | startedPrepared _ _ idle => simp [idle] at executing
  · obtain ⟨quiet, executing | ⟨waits, unstarted, sends⟩⟩ := resolving.resumed resumed
    · exact .inl (started executing)
    · refine .inr ⟨⟨by rw [overheard.pc]; exact waits, ?_, overheard.isSend.trans sends⟩,
        (foldl_taskStore quiet).1⟩
      have core := overheard.execution
      rw [unstarted] at core
      simpa using core

/-- One call resumed again and again, while nobody else moves. -/
def resumes (pid : Pid) (fates : List Fate) : List Label := fates.map (fun fate => ⟨pid, .resume fate⟩)

theorem settled_run {store : InMemoryTaskStore} {fates : List Fate}
    (settled : Settled store pid state)
    (ran : (handlerSystem handler).run state (resumes pid fates) = some final) :
    Settled store pid final := by
  induction fates generalizing state with
  | nil => cases ran; exact settled
  | cons fate rest ih =>
      obtain ⟨next, stepped, continued⟩ := Option.bind_eq_some_iff.mp ran
      exact ih (settled_step settled stepped) continued

theorem settled_setCall {after : Call} (formed : after.WellFormed) (resolving : after.Resolving) :
    Settled state.taskStore pid (state.setCall pid after) :=
  ⟨after, setCall_self, formed, .inr ⟨resolving, rfl⟩⟩

end State

/-- A request that sends a message, from its first step on: the outcome of every operation it
waits for is given by `fates`. -/
def requestRun (pid : Pid) (request : Request) (context : ServerCallContext)
    (requestedExtensions : Option (List String)) (fresh : Fresh) (fates : List Fate) : List Label :=
  ⟨pid, .call request context requestedExtensions fresh⟩ :: State.resumes pid fates

/-- The message is a follow-up that passes the checks on its task, and the store operations on
that task succeed. -/
def JoinsHistory (handler : Handler) (start : State) (context : ServerCallContext)
    (params : SendMessageRequest) (fates : List Fate) : Prop :=
  ∃ message task rest, params.message = some message ∧ message.messageId ≠ "" ∧
    message.taskId ≠ "" ∧ start.row (handler.scope context) message.taskId = some task ∧
    task.state.any terminalStateList.contains = false ∧
    (message.contextId = "" ∨ task.contextId = "" ∨ message.contextId = task.contextId) ∧
    fates = .ok :: .ok :: rest

section

variable {handler : Handler} {start state : State} {pid : Pid} {request : Request}
  {context : ServerCallContext} {requestedExtensions : Option (List String)} {fresh : Fresh}
  {params : SendMessageRequest} {fates : List Fate} {message : Message} {call : Call}

/-- How a sending request begins: refused, on its way to its executor, or loading its task. -/
theorem begin_sends (view : View)
    (asks : request = .sendMessage params ∨ request = .sendMessageStream params) :
    (∃ reason, handler.begin view request context requestedExtensions fresh =
        (Call.blank request context requestedExtensions fresh).reject reason ∧
      ∀ message, params.message = some message → message.messageId = "") ∨
    ∃ message, params.message = some message ∧ message.messageId ≠ "" ∧
      ((message.taskId = "" ∧ (handler.begin view request context requestedExtensions fresh).Resolving) ∨
        (message.taskId ≠ "" ∧ handler.begin view request context requestedExtensions fresh =
          { Call.blank request context requestedExtensions fresh with
            resultManager := ResultManager.new.setContext message
            pc := .loadTask message })) := by
  have sends : (Call.blank request context requestedExtensions fresh).isSend = true := by
    rcases asks with rfl | rfl <;> rfl
  rcases asks with rfl | rfl
  all_goals
    simp only [Handler.begin]
    split
    · rename_i message carried
      split
      · rename_i unnamed
        refine .inl ⟨_, rfl, fun other same => ?_⟩
        cases carried.symm.trans same
        exact unnamed
      · rename_i named
        refine .inr ⟨message, carried, named, ?_⟩
        split
        · rename_i first
          exact .inl ⟨first, Call.resolveReferences_resolving _ _ _ rfl sends⟩
        · rename_i follows
          exact .inr ⟨follows, rfl⟩
    · rename_i missing
      refine .inl ⟨_, rfl, fun other same => ?_⟩
      rw [missing] at same
      cases same

theorem run_begin (ran : (handlerSystem handler).run start
      (requestRun pid request context requestedExtensions fresh fates) = some state) :
    (handlerSystem handler).run
      (start.setCall pid (handler.begin (start.view pid (handler.scope context)) request context
        requestedExtensions fresh)) (State.resumes pid fates) = some state := by
  obtain ⟨next, stepped, continued⟩ := Option.bind_eq_some_iff.mp ran
  simp only [handlerSystem, State.step, State.beginCall] at stepped
  split at stepped
  · cases stepped
  · cases stepped
    exact continued

theorem run_resume {fate : Fate} (found : start.calls pid = some call)
    (ran : (handlerSystem handler).run start (State.resumes pid (fate :: fates)) = some state) :
    ∃ after effects,
      call.resume handler (start.view pid (handler.scope call.context)) pid fate =
        some (after, effects) ∧
      (handlerSystem handler).run (start.commit pid (after, effects)) (State.resumes pid fates) =
        some state := by
  obtain ⟨next, stepped, continued⟩ := Option.bind_eq_some_iff.mp ran
  simp only [handlerSystem, State.step, found, State.resumeCall, Option.map_eq_some_iff] at stepped
  obtain ⟨⟨after, effects⟩, resumed, rfl⟩ := stepped
  exact ⟨after, effects, resumed, continued⟩

theorem refused_run {reason : ServerError} (formed : call.WellFormed)
    (unstarted : call.execution = none) (sends : call.isSend = true)
    (ran : (handlerSystem handler).run (start.commit pid (call.reject reason, []))
      (State.resumes pid fates) = some state) :
    State.Settled start.taskStore pid state := by
  have first : State.Settled start.taskStore pid (start.setCall pid (call.reject reason)) :=
    State.settled_setCall (formed.finish _) (Call.finish_resolving _ unstarted sends)
  exact State.settled_run first ran

theorem saveHistory_run {task : Task} (formed : call.WellFormed) (sends : call.isSend = true)
    (unstarted : call.execution = none) (waiting : call.pc = .saveHistory message task)
    (found : start.calls pid = some call)
    (ran : (handlerSystem handler).run start (State.resumes pid fates) = some state) :
    (∃ rest, fates = .ok :: rest ∧
        State.Settled (start.taskStore.save (handler.scope call.context)
          (Call.appendHistory task message)) pid state) ∨
      (∀ rest, fates ≠ .ok :: rest) ∧
        (state.taskStore = start.taskStore ∨ State.Settled start.taskStore pid state) := by
  cases fates with
  | nil =>
      cases ran
      exact .inr ⟨by simp, .inl rfl⟩
  | cons fate rest =>
      obtain ⟨after, effects, resumed, continued⟩ := run_resume found ran
      have formedNext := formed.resumed (Call.resume_cases resumed)
      cases fate with
      | fail error =>
          simp only [Call.resume, Call.resumeFailed, waiting, Option.some.injEq, Prod.mk.injEq] at resumed
          obtain ⟨rfl, rfl⟩ := resumed
          exact .inr ⟨by simp, .inr (refused_run formed unstarted sends continued)⟩
      | ok =>
          simp only [Call.resume, Call.resumeOk, waiting, Option.some.injEq, Prod.mk.injEq] at resumed
          obtain ⟨rfl, rfl⟩ := resumed
          refine .inl ⟨rest, rfl, State.settled_run ?_ continued⟩
          exact ⟨_, State.setCall_self, formedNext, .inr
            ⟨Call.resolveReferences_resolving _ _ _ unstarted sends, rfl⟩⟩

/-- A follow-up at its first `await`: the history save is what it leaves in the store, if the
executor is not reached. -/
theorem followUp_store (named : message.messageId ≠ "") (follows : message.taskId ≠ "")
    (carried : params.message = some message) (formed : call.WellFormed)
    (sends : call.isSend = true) (unstarted : call.execution = none) (owned : call.context = context)
    (loading : call.pc = .loadTask message) (found : start.calls pid = some call)
    (ran : (handlerSystem handler).run start (State.resumes pid fates) = some state) :
    (JoinsHistory handler start context params fates ∧
      ∃ task, start.row (handler.scope context) message.taskId = some task ∧
        State.Settled (start.taskStore.save (handler.scope context)
          (Call.appendHistory task message)) pid state) ∨
    ¬ JoinsHistory handler start context params fates ∧
      (state.taskStore = start.taskStore ∨ State.Settled start.taskStore pid state) := by
  subst owned
  have only : ∀ {other : Message}, params.message = some other → other = message := fun same =>
    Option.some.inj (same.symm.trans carried)
  cases fates with
  | nil =>
      cases ran
      exact .inr ⟨by rintro ⟨_, _, _, _, _, _, _, _, _, ⟨⟩⟩, .inl rfl⟩
  | cons fate rest =>
      obtain ⟨after, effects, resumed, continued⟩ := run_resume found ran
      cases fate with
      | fail error =>
          simp only [Call.resume, Call.resumeFailed, loading, Option.some.injEq, Prod.mk.injEq] at resumed
          obtain ⟨rfl, rfl⟩ := resumed
          exact .inr ⟨by rintro ⟨_, _, _, _, _, _, _, _, _, ⟨⟩⟩,
            .inr (refused_run formed unstarted sends continued)⟩
      | ok =>
          simp only [Call.resume, Call.resumeOk, loading, Option.some.injEq, Prod.mk.injEq] at resumed
          obtain ⟨rfl, rfl⟩ := resumed
          have row : (start.view pid (handler.scope call.context)).load message.taskId =
              start.row (handler.scope call.context) message.taskId := rfl
          rw [row] at continued
          cases stored : start.row (handler.scope call.context) message.taskId with
          | none =>
              rw [stored] at continued
              refine .inr ⟨?_, .inr (refused_run formed unstarted sends continued)⟩
              rintro ⟨other, task, _, same, _, _, present, _⟩
              cases only same
              rw [stored] at present
              cases present
          | some task =>
              rw [stored] at continued
              simp only [Call.taskLoaded] at continued
              split at continued
              · rename_i terminal
                refine .inr ⟨?_, .inr (refused_run formed unstarted sends continued)⟩
                rintro ⟨other, _, _, same, _, _, present, open', _⟩
                cases only same
                cases stored.symm.trans present
                simp [terminal] at open'
              · rename_i open'
                split at continued
                · rename_i mismatch
                  refine .inr ⟨?_, .inr (refused_run formed unstarted sends continued)⟩
                  rintro ⟨other, _, _, same, _, _, present, _, agrees, _⟩
                  cases only same
                  cases stored.symm.trans present
                  tauto
                · rename_i agrees
                  have accepted : Call.Resumed handler
                      (start.view pid (handler.scope call.context)) pid call .ok
                      { call with pc := .saveHistory message task } [] :=
                    .taskAccepted loading stored (by simpa using open')
                  rcases saveHistory_run (formed.resumed accepted) sends unstarted rfl
                    State.setCall_self continued with ⟨rest, rfl, saved⟩ | ⟨unsaved, kept⟩
                  · refine .inl ⟨⟨message, task, rest, carried, named, follows, stored,
                      by simpa using open', by tauto, rfl⟩, task, rfl, saved⟩
                  · refine .inr ⟨?_, kept⟩
                    rintro ⟨_, _, more, _, _, _, _, _, _, same⟩
                    exact unsaved more (List.cons.inj same).2

/-- A request whose executor is not reached leaves the store as it was, unless it is a follow-up
whose message has been accepted into its task's history by then. -/
theorem rejected_request_keeps_store
    (asks : request = .sendMessage params ∨ request = .sendMessageStream params)
    (ran : (handlerSystem handler).run start
      (requestRun pid request context requestedExtensions fresh fates) = some state)
    (found : state.calls pid = some call) (unstarted : call.execution = none) :
    state.taskStore = start.taskStore ↔ ¬ JoinsHistory handler start context params fates := by
  have continued := run_begin ran
  have settles : ∀ {store : InMemoryTaskStore}, State.Settled store pid state →
      state.taskStore = store := by
    rintro store ⟨record, present, _, executing | ⟨_, same⟩⟩
    · cases present.symm.trans found
      simp [unstarted] at executing
    · exact same
  have formed := @Call.WellFormed.begin handler (start.view pid (handler.scope context)) request
    context requestedExtensions fresh
  rcases begin_sends (start.view pid (handler.scope context)) asks with
    ⟨reason, begun, unnamed⟩ | ⟨message, carried, named, ⟨first, resolving⟩ | ⟨follows, begun⟩⟩
  · rw [begun] at continued formed
    have sends : (Call.blank request context requestedExtensions fresh).isSend = true := by
      rcases asks with rfl | rfl <;> rfl
    have first : State.Settled start.taskStore pid (start.setCall pid
        ((Call.blank request context requestedExtensions fresh).reject reason)) :=
      State.settled_setCall formed (Call.finish_resolving _ rfl sends)
    refine iff_of_true (settles (State.settled_run first continued)) ?_
    rintro ⟨message, _, _, carried, named, _⟩
    exact named (unnamed message carried)
  · have first' : State.Settled start.taskStore pid (start.setCall pid _) :=
      State.settled_setCall formed resolving
    refine iff_of_true (settles (State.settled_run first' continued)) ?_
    rintro ⟨other, _, _, same, _, follows, _⟩
    cases carried.symm.trans same
    exact follows first
  · have sends : (handler.begin (start.view pid (handler.scope context)) request context
        requestedExtensions fresh).isSend = true := by
      rw [begun]
      rcases asks with rfl | rfl <;> rfl
    have idle : (handler.begin (start.view pid (handler.scope context)) request context
        requestedExtensions fresh).execution = none := by rw [begun]; rfl
    have owned : (handler.begin (start.view pid (handler.scope context)) request context
        requestedExtensions fresh).context = context := by rw [begun]; rfl
    have outcome := followUp_store named follows carried formed sends idle owned (by rw [begun])
      State.setCall_self continued
    rcases outcome with ⟨joins, task, stored, saved⟩ | ⟨apart, kept⟩
    · refine iff_of_false (fun same => ?_) (fun apart => apart joins)
      -- the saved row has one message more than the old one
      have keyed : task.id = message.taskId := InMemoryTaskStore.load_id stored
      have loads : start.row (handler.scope context) message.taskId =
          some (Call.appendHistory task message) := by
        rw [State.row, ← same, settles saved, ← keyed]
        exact InMemoryTaskStore.load_save_self _ _ (Call.appendHistory task message)
      have grown := congrArg Task.history (Option.some.inj (stored.symm.trans loads))
      simp [Call.appendHistory] at grown
    · exact iff_of_true (kept.elim id settles) apart

/-- A follow-up on an unknown task. -/
theorem rejected_request_keeps_store_unknown :
    let start := Scenario.seeded ⟨"tenant", "user"⟩ []
    ∃ state, (handlerSystem (Scenario.server false)).run start
        (requestRun 0 (.sendMessage (Scenario.params (Scenario.message "m" "t") false))
          (Scenario.context "tenant" "user") none (Scenario.fresh "uuid") [.ok]) = some state ∧
      state.taskStore = start.taskStore := by
  intro start
  have ran : (handlerSystem (Scenario.server false)).run start
      (requestRun 0 (.sendMessage (Scenario.params (Scenario.message "m" "t") false))
        (Scenario.context "tenant" "user") none (Scenario.fresh "uuid") [.ok]) = some _ := rfl
  refine ⟨_, ran, (rejected_request_keeps_store (.inl rfl) ran rfl rfl).mpr ?_⟩
  rintro ⟨_, _, _, _, _, _, _, _, _, ⟨⟩⟩

/-- An agent whose card requires an extension. -/
def demandingServer : Handler :=
  { Scenario.server false with
    agentCard := ⟨some ⟨true, false, [⟨"urn:extension", "", true⟩]⟩⟩ }

/-- A follow-up that does not declare the required extension is refused, and stays in the history. -/
theorem refused_followUp_stays_in_history :
    ¬ ∀ (handler : Handler) (start state : State) (pid : Pid) (params : SendMessageRequest)
      (context : ServerCallContext) (requestedExtensions : Option (List String)) (fresh : Fresh)
      (fates : List Fate) (call : Call) (reason : ServerError),
      (handlerSystem handler).run start
          (requestRun pid (.sendMessage params) context requestedExtensions fresh fates) = some state →
      state.calls pid = some call → call.execution = none → call.outcome = some (.error reason) →
      state.taskStore = start.taskStore := by
  intro leavesStore
  have same := leavesStore demandingServer
    (Scenario.seeded ⟨"tenant", "user"⟩ [Scenario.task "t" .working]) _ 0
    (Scenario.params (Scenario.message "m" "t") false) (Scenario.context "tenant" "user") none
    (Scenario.fresh "uuid") [.ok, .ok, .ok] _ _ rfl rfl rfl rfl
  have rows := congrArg (fun store : InMemoryTaskStore =>
    (store.load ⟨"tenant", "user"⟩ "t").map (fun task => task.history.length)) same
  exact absurd rows (by decide)

end

end A2A.Server
