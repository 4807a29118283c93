import A2A.Server.Semantics.Configs
import A2A.Server.Semantics.Contexts

namespace A2A.Server

open Library

/-! Two parties that use one handler.

A division says which calls, scopes and tasks are whose.  The bus registry knows a task by its id
alone, so the parties are kept apart only where no task id with a bus is used by both: then a
call's record and the effects of its steps name nothing but what its own party has.
-/

/-- What the one party has; all else is the other's. -/
structure Division where
  calls : Pid → Bool
  scopes : Scope → Bool
  tasks : String → Bool

/-- The task whose bus a request may join, create or send events to. -/
def Request.joins (fresh : Fresh) : Request → Option String
  | .sendMessage params | .sendMessageStream params =>
      params.message.map fun message => if message.taskId = "" then fresh.taskUuid else message.taskId
  | .cancelTask id | .resubscribe id => some id
  | _ => none

namespace Division

variable (division : Division)

/-- The part of the registry that one party sees. -/
def registry (side : Bool) (taskIdToBus : String → Option BusId) (taskId : String) : Option BusId :=
  if division.tasks taskId = side then taskIdToBus taskId else none

/-- The events of one party, given whose each event is. -/
def heap (owner : EventId → Bool) (side : Bool) (events : EventHeap) : EventHeap :=
  fun id => if owner id = side then events id else none

/-- The effect is about what one party has. -/
def Affects (owner : EventId → Bool) (side : Bool) : Effect → Prop
  | .saveTask scope _ _ | .savePushConfig scope _ _ _ _ | .deletePushConfig scope _ _ =>
      division.scopes scope = side
  | .acquire _ | .release _ => True
  | .register taskId bus => division.tasks taskId = side ∧ division.calls bus = side
  | .cleanup taskId => division.tasks taskId = side
  | .publish bus id _ => division.calls bus = side ∧ owner id = side
  | .finished bus => division.calls bus = side
  | .trim id _ => owner id = side

end Division

namespace Call

/-- The task whose bus the call is still going to look up. -/
def joins (call : Call) : Option String :=
  match call.pc with
  | .cancelLoad => some (requestTaskId call.request)
  | .savePushConfig requestContext _ => some requestContext.taskId
  | pc => pc.taskId

/-- The call holds a published event, in its queue or in its hands. -/
def Holds (call : Call) (id : EventId) : Prop :=
  (∃ queue, call.eventQueue = some queue ∧ id ∈ queue.eventQueue) ∨ call.pc.event = some id

/-- All that a call reads of the registry, the events and the locks is there. -/
structure Covered (call : Call) (view : View) (eventBus : String → Option BusId) (events : EventHeap)
    (holdsLock : String → Bool) : Prop where
  eventBus : ∀ taskId, call.joins = some taskId → eventBus taskId = view.eventBus taskId
  events : ∀ id, call.Holds id → events id = view.event id
  holdsLock : ∀ key, view.holdsLock key = true → holdsLock key = true

variable {handler : Handler} {view : View} {pid : Pid} {fate : Fate} {call after : Call}
  {effects : List Effect} {eventBus : String → Option BusId} {events : EventHeap}
  {holdsLock : String → Bool} {result : Call × List Effect}

theorem createOrGetBus_covered {taskId : String} (same : eventBus taskId = view.eventBus taskId) :
    createOrGetBus { view with eventBus, event := events, holdsLock } pid taskId =
      createOrGetBus view pid taskId := by
  simp only [createOrGetBus, same]

theorem contextCreated_covered {requestContext : RequestContext}
    (same : eventBus requestContext.taskId = view.eventBus requestContext.taskId) :
    contextCreated handler { view with eventBus, event := events, holdsLock } pid call requestContext =
      contextCreated handler view pid call requestContext := by
  simp only [contextCreated, createOrGetBus_covered same]

theorem agentCardServed_covered {message : Message} {task : Option Task} {taskId : String}
    {referenceTasks : Option (List Task)} (same : eventBus taskId = view.eventBus taskId) :
    agentCardServed handler { view with eventBus, event := events, holdsLock } pid call message task taskId
        referenceTasks =
      agentCardServed handler view pid call message task taskId referenceTasks := by
  simp only [agentCardServed]
  split
  · exact contextCreated_covered same
  · rfl

theorem cancelLoaded_covered {taskId : String} (loaded : Option Task)
    (same : eventBus taskId = view.eventBus taskId) :
    call.cancelLoaded { view with eventBus, event := events, holdsLock } taskId loaded =
      call.cancelLoaded view taskId loaded := by
  simp only [cancelLoaded, same]

theorem pull_covered (same : ∀ id, call.Holds id → events id = view.event id) :
    call.pull { view with eventBus, event := events, holdsLock } = call.pull view := by
  cases queued : call.eventQueue with
  | none => simp only [pull, queued]
  | some queue =>
      cases waiting : queue.eventQueue with
      | nil => simp only [pull, queued, waiting]
      | cons id rest =>
          have holds : call.Holds id := .inl ⟨queue, queued, by simp [waiting]⟩
          simp only [pull, queued, waiting, same id holds]

theorem next_covered {last : Option EventId} (counter : call.pc = .suspended last)
    (same : ∀ id, call.Holds id → events id = view.event id) :
    call.next { view with eventBus, event := events, holdsLock } last = call.next view last := by
  simp only [next]
  cases call.eventQueue with
  | none => rfl
  | some queue =>
      cases last with
      | none => rfl
      | some id =>
          have holds : call.Holds id := .inr (by rw [counter]; rfl)
          simp only [same id holds]

theorem mapEvent_covered {id : EventId} (counter : call.pc = .map id)
    (same : ∀ id, call.Holds id → events id = view.event id) :
    call.mapEvent handler { view with eventBus, event := events, holdsLock } id fate =
      call.mapEvent handler view id fate := by
  have holds : call.Holds id := .inr (by rw [counter]; rfl)
  simp only [mapEvent, same id holds]
  rfl

/-- A section that is entered can be entered: the locks held may be more. -/
theorem enterLock_covered {ref : EventRef} {key : Option String} (counter : call.pc = .lock ref key)
    (covered : call.Covered view eventBus events holdsLock)
    (entered : call.enterLock view ref key fate = some result) :
    call.enterLock { view with eventBus, event := events, holdsLock } ref key fate = some result := by
  have same : ref.resolve { view with eventBus, event := events, holdsLock } = ref.resolve view := by
    cases ref with
    | own event => rfl
    | published id => exact covered.events id (.inr (by rw [counter]; rfl))
  by_cases holds : key.all view.holdsLock = true
  · have still : key.all holdsLock = true := by
      cases key with
      | none => rfl
      | some key => exact covered.holdsLock key holds
    rw [enterLock, if_pos holds] at entered
    rw [enterLock, if_pos still, same]
    exact entered
  · rw [enterLock, if_neg holds] at entered
    cases entered

/-- A call goes on in the same way wherever all that it reads is the same. -/
theorem resume_covered (covered : call.Covered view eventBus events holdsLock)
    (resumed : call.resume handler view pid fate = some result) :
    call.resume handler { view with eventBus, event := events, holdsLock } pid fate = some result := by
  cases fate with
  | ok =>
      simp only [resume, resumeOk] at resumed ⊢
      cases counter : call.pc with
      | getAgentCard message task taskId referenceTasks =>
          have same := covered.eventBus taskId (by rw [joins, counter]; rfl)
          simpa only [counter, agentCardServed_covered same] using resumed
      | savePushConfig requestContext config =>
          have same := covered.eventBus requestContext.taskId (by rw [joins, counter])
          simpa only [counter, createOrGetBus_covered same] using resumed
      | cancelLoad =>
          have same := covered.eventBus (requestTaskId call.request) (by rw [joins, counter])
          simpa only [counter, cancelLoaded_covered _ same] using resumed
      | pull => simpa only [counter, pull_covered covered.events] using resumed
      | lock ref key =>
          rw [counter] at resumed
          exact enterLock_covered counter covered resumed
      | map id => simpa only [counter, mapEvent_covered counter covered.events] using resumed
      | suspended last => simpa only [counter, next_covered counter covered.events] using resumed
      | loadReferences message task taskId pending loaded =>
          rw [counter] at resumed
          cases pending <;> exact resumed
      | _ =>
          rw [counter] at resumed
          exact resumed
  | fail error =>
      simp only [resume, resumeFailed] at resumed ⊢
      cases counter : call.pc with
      | lock ref key =>
          rw [counter] at resumed
          exact enterLock_covered counter covered resumed
      | map id =>
          have same := covered.events id (.inr (by rw [counter]; rfl))
          simpa only [counter, same, mapEvent_covered counter covered.events] using resumed
      | _ =>
          rw [counter] at resumed
          exact resumed

/-- Whatever the call's record names is the party's own; the events are those the party has. -/
structure Belongs (division : Division) (handler : Handler) (side : Bool) (events : EventHeap)
    (call : Call) : Prop where
  scope : division.scopes (handler.scope call.context) = side
  joins : ∀ taskId, call.joins = some taskId → division.tasks taskId = side
  executing : ∀ execution, call.execution = some execution →
    division.tasks execution.requestContext.taskId = side
  bus : ∀ bus, call.bus = some bus → division.calls bus = side
  knows : call.Knows events

variable {division : Division} {owner : EventId → Bool} {side : Bool}

theorem heap_owner {id : EventId} (known : (Division.heap owner side events id).isSome = true) :
    owner id = side ∧ Division.heap owner side events id = events id := by
  by_cases same : owner id = side
  · exact ⟨same, if_pos same⟩
  · rw [Division.heap, if_neg same] at known
    cases known

/-- A party finds no bus but its own, when the registry keeps every task with its owner. -/
theorem registry_owner {taskIdToBus : String → Option BusId} {taskId : String} {bus : BusId}
    (registered : ∀ taskId bus, taskIdToBus taskId = some bus → division.calls bus = division.tasks taskId)
    (found : division.registry side taskIdToBus taskId = some bus) : division.calls bus = side := by
  by_cases named : division.tasks taskId = side
  · rw [Division.registry, if_pos named] at found
    exact (registered taskId bus found).trans named
  · rw [Division.registry, if_neg named] at found
    cases found

theorem Knows.holds {id : EventId} (knows : call.Knows events) (holds : call.Holds id) :
    (events id).isSome = true := by
  rcases holds with ⟨queue, queued, member⟩ | working
  · exact knows.queued queue queued id member
  · exact knows.current id working

/-- A call reads nothing of the other party's. -/
theorem Belongs.covered
    (belongs : call.Belongs division handler side (Division.heap owner side view.event)) :
    call.Covered view (division.registry side view.eventBus) (Division.heap owner side view.event)
      view.holdsLock where
  eventBus taskId joins := if_pos (belongs.joins taskId joins)
  events _ holds := (heap_owner (belongs.knows.holds holds)).2
  holdsLock _ holds := holds

/-- Once it goes on, a call is past the load of `cancelTask`. -/
theorem Resumed.loaded (wellFormed : call.WellFormed)
    (resumed : Resumed handler view pid call fate after effects) : after.pc ≠ .cancelLoad := by
  cases resumed with
  | historySaved =>
      simp only [resolveReferences]
      split <;> exact Pc.noConfusion
  | referenceLoaded => simp only; split <;> exact Pc.noConfusion
  | contextBuilt counter created =>
      cases wellFormed.contextBuilt counter created <;> exact Pc.noConfusion
  | loopEnded =>
      rw [leaveLoop_pc]
      exact leftPc_of (· ≠ .cancelLoad) Pc.noConfusion Pc.noConfusion call
  | forwarded =>
      exact forward_pc (· ≠ .cancelLoad) Pc.noConfusion Pc.noConfusion Pc.noConfusion _ Pc.noConfusion _ _ _
  | taken _ _ _ _ _ _ took =>
      rcases takeEvent_cases took with ⟨_, rfl, _⟩ | ⟨_, _, rfl, _⟩ <;> exact Pc.noConfusion
  | lockFailed _ _ _ _ failed | saveFailed _ _ failed =>
      exact processingFailed_pc (· ≠ .cancelLoad) Pc.noConfusion (fun _ _ => Pc.noConfusion) failed
  | @skipped ref | @saved ref => cases ref <;> exact Pc.noConfusion
  | mapped | consumed =>
      exact afterYield_pc (· ≠ .cancelLoad) Pc.noConfusion Pc.noConfusion Pc.noConfusion _ _
  | misdirected counter =>
      rw [counter]
      exact Pc.noConfusion
  | _ => exact Pc.noConfusion

theorem joins_none (calm : call.pc.starts = false) (past : call.pc ≠ .cancelLoad) : call.joins = none := by
  cases counter : call.pc <;> simp_all [joins, Pc.starts, Pc.taskId]

theorem resolveReferences_joins (message : Message) (task : Option Task) (taskId : String) :
    (call.resolveReferences message task taskId).joins = some taskId := by
  simp only [resolveReferences, joins]
  split
  · rename_i counter
    split at counter <;> cases counter
  · rename_i counter
    split at counter <;> cases counter
  · split <;> rfl

/-- What a call is about stays what it was about, also once its executor runs. -/
theorem Resumed.about {property : String → Prop} (wellFormed : call.WellFormed)
    (joins : ∀ taskId, call.joins = some taskId → property taskId)
    (executing : ∀ execution, call.execution = some execution → property execution.requestContext.taskId)
    (resumed : Resumed handler view pid call fate after effects) :
    (∀ taskId, after.joins = some taskId → property taskId) ∧
      ∀ execution, after.execution = some execution → property execution.requestContext.taskId := by
  have past := resumed.loaded wellFormed
  have left : after.pc.starts = false → ∀ taskId, after.joins = some taskId → property taskId := by
    intro calm taskId joining
    rw [joins_none calm past] at joining
    cases joining
  cases resumed.prepares wellFormed with
  | apart execution _ calm => exact ⟨left calm, execution ▸ executing⟩
  | @accepted message task loading =>
      refine ⟨?_, executing⟩
      rintro _ ⟨⟩
      exact joins _ (by rw [Call.joins, loading]; rfl)
  | @appended message task saving =>
      refine ⟨fun taskId joining => ?_, executing⟩
      rw [resolveReferences_joins] at joining
      cases joining
      exact joins _ (by rw [Call.joins, saving]; rfl)
  | @referred message task taskId reference pending loaded found loading =>
      have named := joins taskId (by rw [Call.joins, loading]; rfl)
      refine ⟨fun other joining => ?_, executing⟩
      cases pending <;> cases joining <;> exact named
  | @built _ message task taskId referenceTasks loading arrives =>
      have named := joins taskId (by rw [Call.joins, loading]; rfl)
      rcases arrives with ⟨starting, same⟩ | ⟨calm, bus, started⟩
      · refine ⟨fun other joining => ?_, same ▸ executing⟩
        cases counter : after.pc with
        | savePushConfig requestContext config =>
            rw [counter] at starting
            cases starting
            rw [Call.joins, counter] at joining
            cases joining
            exact named
        | _ =>
            rw [counter] at starting
            cases starting
      · refine ⟨left calm, fun execution found => ?_⟩
        cases started.symm.trans found
        exact named
  | configured saving started _ calm =>
      refine ⟨left calm, fun execution found => ?_⟩
      cases started.symm.trans found
      exact joins _ (by rw [Call.joins, saving])

theorem Joined.affects {taskId : String} {bus : BusId} (mine : division.calls pid = side)
    (named : division.tasks taskId = side) (joined : Joined view pid taskId bus effects) :
    ∀ effect ∈ effects, division.Affects owner side effect := by
  cases joined <;> simp [Division.Affects, named, mine]

theorem acquire_owned (key : Option String) :
    ∀ effect ∈ key.toList.map Effect.acquire, division.Affects owner side effect := by
  cases key <;> simp [Division.Affects]

theorem release_owned (key : Option String) :
    ∀ effect ∈ releaseEffects key, division.Affects owner side effect := by
  cases key <;> simp [releaseEffects, Division.Affects]

theorem trim_owned {id : EventId} {historyLength : Option Int} (own : owner id = side)
    (trims : effects = [] ∨ effects = [.trim id historyLength]) :
    ∀ effect ∈ effects, division.Affects owner side effect := by
  rcases trims with rfl | rfl <;> simp [Division.Affects, own]

theorem configures_owned (scope : division.scopes (handler.scope call.context) = side)
    (use : ConfigUse handler call fate effects)
    (configures : ∀ effect ∈ effects, effect.configures = true) :
    ∀ effect ∈ effects, division.Affects owner side effect := by
  cases use with
  | @stored taskId config rest _ others =>
      have none : rest = [] := List.eq_nil_iff_forall_not_mem.mpr fun effect member => by
        have differs := configures effect (List.mem_cons_of_mem _ member)
        rw [others effect member] at differs
        cases differs
      simp [none, Division.Affects, scope]
  | deleted => simp [Division.Affects, scope]
  | quiet others =>
      intro effect member
      have differs := configures effect member
      rw [others effect member] at differs
      cases differs

/-- Every effect of a resumed call is about what its party has. -/
theorem Resumed.affects (wellFormed : call.WellFormed) (mine : division.calls pid = side)
    (scope : division.scopes (handler.scope call.context) = side)
    (joins : ∀ taskId, call.joins = some taskId → division.tasks taskId = side)
    (own : ∀ id, call.pc.event = some id → owner id = side)
    (use : ConfigUse handler call fate effects)
    (resumed : Resumed handler view pid call fate after effects) :
    ∀ effect ∈ effects, division.Affects owner side effect := by
  cases resumed with
  | answered _ configures => exact configures_owned scope use configures
  | historySaved | cancelSaved | configSaved => simp [Division.Affects, scope]
  | @contextBuilt message task taskId referenceTasks _ _ _ loading created =>
      have named := joins taskId (by rw [Call.joins, loading]; rfl)
      cases wellFormed.contextBuilt loading created with
      | configures => simp
      | configuresStream _ joined | runs joined => exact joined.affects mine named
  | configSavedFirst saving _ joined =>
      have named := joins _ (by rw [Call.joins, saving])
      rw [List.forall_mem_cons]
      exact ⟨scope, (createOrGetBus_joined joined).affects mine named⟩
  | taken _ _ _ _ _ _ took =>
      rcases takeEvent_cases took with ⟨_, _, rfl⟩ | ⟨_, _, _, rfl⟩
      · simp
      · exact acquire_owned _
  | lockFailed _ _ _ _ failed | saveFailed _ _ failed =>
      refine List.forall_mem_append.mpr ⟨release_owned _, ?_⟩
      rcases processingFailed_cases failed with ⟨_, _, rfl, _⟩ | ⟨_, _, _, _, _, _, _, rfl⟩
      · simp
      · exact acquire_owned _
  | skipped => exact release_owned _
  | saved =>
      rw [List.forall_mem_cons]
      exact ⟨scope, release_owned _⟩
  | @yielded _ id _ _ stored params mapping =>
      refine @trim_owned _ _ _ _ id (historyLengthOf params) (own id (by rw [mapping]; rfl)) ?_
      cases stored
      · exact .inr rfl
      · exact .inl rfl
  | @mapped _ id _ _ _ _ _ mapping _ _ _ _ handedOut =>
      have mine := own id (by rw [mapping]; rfl)
      rcases handOutResults_cases handedOut with ⟨_, rfl⟩ | ⟨_, _, _, _, _, _, rfl | ⟨historyLength, rfl⟩⟩
      · simp
      · simp
      · exact trim_owned mine (.inr rfl)
  | _ => simp

theorem BusUse.owned (mine : division.calls pid = side)
    (bus : ∀ bus, call.bus = some bus → division.calls bus = side)
    (registered : ∀ taskId bus, view.eventBus taskId = some bus → division.calls bus = side)
    (use : BusUse view pid call fate after effects) :
    ∀ bus, after.bus = some bus → division.calls bus = side := by
  have joined : ∀ {taskId bus joins}, Joined view pid taskId bus joins → division.calls bus = side := by
    intro taskId bus joins joined
    cases joined with
    | existing found => exact registered _ _ found
    | created => exact mine
  intro other attached
  cases use with
  | unchanged _ same => exact bus other (same ▸ attached)
  | attached _ found _ same =>
      cases same.symm.trans attached
      exact registered _ _ found
  | prepared _ _ joins _ same | started _ _ joins _ _ same =>
      cases same.symm.trans attached
      exact joined joins
  | startedPrepared _ before _ _ _ same => exact bus other (before.trans (same.symm.trans attached))

/-- A party's call stays with its party: it comes to name nothing of the other's, and its effects
are about what its own party has. -/
theorem Belongs.resumed (wellFormed : call.WellFormed) (mine : division.calls pid = side)
    (belongs : call.Belongs division handler side (Division.heap owner side view.event))
    (registered : ∀ taskId bus, view.eventBus taskId = some bus → division.calls bus = division.tasks taskId)
    (resumed : call.resume handler view pid fate = some (after, effects)) :
    after.Belongs division handler side (Division.heap owner side view.event) ∧
      ∀ effect ∈ effects, division.Affects owner side effect := by
  have within := resume_covered belongs.covered resumed
  have cases' := resume_cases within
  have own : ∀ taskId bus, division.registry side view.eventBus taskId = some bus →
      division.calls bus = side := fun taskId bus => registry_owner registered
  obtain ⟨joins, executing⟩ := cases'.about wellFormed belongs.joins belongs.executing
  refine ⟨⟨?_, joins, executing, (cases'.busUse wellFormed).owned mine belongs.bus own,
    cases'.knows wellFormed belongs.knows⟩, ?_⟩
  · rw [(cases'.origin wellFormed).2.1]
    exact belongs.scope
  · exact cases'.affects wellFormed mine belongs.scope belongs.joins
      (fun id working => (heap_owner (belongs.knows.current id working)).1)
      (resume_configUse wellFormed within)

theorem begin_joins {request : Request} {context : ServerCallContext}
    {requestedExtensions : Option (List String)} {fresh : Fresh} {taskId : String}
    (joining : (handler.begin view request context requestedExtensions fresh).joins = some taskId) :
    request.joins fresh = some taskId := by
  cases request with
  | sendMessage params | sendMessageStream params =>
      simp only [Handler.begin] at joining
      split at joining
      · rename_i message carried
        split at joining
        · cases joining
        · split at joining
          · rename_i unnamed
            rw [resolveReferences_joins] at joining
            simpa [Request.joins, carried, unnamed] using joining
          · rename_i named
            simpa [Request.joins, carried, named, Call.joins, Pc.taskId] using joining
      · cases joining
  | cancelTask id => exact joining
  | getTask => cases joining
  | resubscribe id =>
      simp only [Handler.begin] at joining
      split at joining
      · split at joining <;> cases joining
      · cases joining
  | listTasks params =>
      simp only [Handler.begin] at joining
      split at joining
      · cases joining
      · split at joining <;> cases joining
  | _ =>
      simp only [Handler.begin] at joining
      split at joining <;> cases joining

theorem begin_covered (request : Request) (context : ServerCallContext)
    (requestedExtensions : Option (List String)) (fresh : Fresh)
    (same : ∀ taskId, request.joins fresh = some taskId → eventBus taskId = view.eventBus taskId) :
    handler.begin { view with eventBus, event := events, holdsLock } request context requestedExtensions
        fresh =
      handler.begin view request context requestedExtensions fresh := by
  cases request with
  | resubscribe id => simp only [Handler.begin, same id rfl]
  | _ => rfl

theorem begin_belongs {request : Request} {context : ServerCallContext} {fresh : Fresh}
    (requestedExtensions : Option (List String))
    (scope : division.scopes (handler.scope context) = side)
    (named : ∀ taskId, request.joins fresh = some taskId → division.tasks taskId = side)
    (registered : ∀ taskId bus, view.eventBus taskId = some bus → division.calls bus = division.tasks taskId)
    (events : EventHeap) :
    (handler.begin view request context requestedExtensions fresh).Belongs division handler side events := by
  have own : ∀ taskId, request.joins fresh = some taskId →
      division.registry side view.eventBus taskId = view.eventBus taskId :=
    fun taskId joining => if_pos (named taskId joining)
  obtain ⟨execution, _, attached⟩ := @begin_bus handler
    { view with eventBus := division.registry side view.eventBus } request context requestedExtensions fresh
  rw [begin_covered request context requestedExtensions fresh own] at execution attached
  refine ⟨?_, fun taskId joining => named taskId (begin_joins joining), ?_, ?_,
    (State.begin_blank _ _ _ _ _).1⟩
  · rw [(begin_origin request context requestedExtensions fresh).2]
    exact scope
  · intro running found
    rw [execution] at found
    cases found
  · intro bus found
    rcases attached with free | ⟨taskId, registeredBus, looked, same⟩
    · rw [free] at found
      cases found
    · cases same.symm.trans found
      exact registry_owner registered looked

end Call

end A2A.Server
