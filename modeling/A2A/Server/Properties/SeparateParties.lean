import A2A.Server.Scenario
import A2A.Server.Semantics.Shares

namespace A2A.Server

open Library

/-! Callers that do not see each other.

When two parties share neither a scope of the stores nor the id of a task with a bus, then the calls
of the one go on as if the other's had never been made: the same steps are possible, with the same
answers, and they leave the same rows.  The locks may be shared; a party can be kept waiting.
-/

/-- The caller keeps to the scopes and, where a bus comes into it, to the tasks of its party. -/
def Division.Separates (division : Division) (handler : Handler) (label : Label) : Prop :=
  ∀ request context requestedExtensions fresh,
    label.action = .call request context requestedExtensions fresh →
    division.scopes (handler.scope context) = division.calls label.pid ∧
      ∀ taskId, request.joins fresh = some taskId → division.tasks taskId = division.calls label.pid

def Effect.publication (pid : Pid) : Effect → Option Publication
  | .publish bus id event => some ⟨pid, bus, id, event⟩
  | _ => none

namespace State

variable {handler : Handler} {division : Division} {owner : EventId → Bool} {start state next : State}
  {label : Label} {pid : Pid} {call after : Call} {effect : Effect} {effects : List Effect}

theorem apply_publications (effect : Effect) :
    (state.apply pid effect).publications =
      state.publications ++ (effect.publication pid).toList := by
  cases effect with
  | cleanup taskId =>
      simp only [apply]
      cases state.taskIdToBus taskId <;> simp [mapCalls, Effect.publication]
  | _ => simp [apply, mapCalls, Effect.publication]

theorem foldl_publications (effects : List Effect) :
    (effects.foldl (apply pid) state).publications =
      state.publications ++ effects.filterMap (Effect.publication pid) := by
  induction effects generalizing state with
  | nil => simp
  | cons effect rest ih =>
      rw [List.foldl_cons, ih, apply_publications, List.append_assoc, List.filterMap_cons]
      cases effect.publication pid <;> rfl

theorem setCall_wellFormed (wellFormed : state.WellFormed) (own : call.WellFormed) :
    (state.setCall pid call).WellFormed := by
  intro other record found
  by_cases same : other = pid
  · subst same
    cases setCall_self.symm.trans found
    exact own
  · rw [setCall_of_ne same] at found
    exact wellFormed other record found

theorem apply_wellFormed (wellFormed : state.WellFormed) : (state.apply pid effect).WellFormed := by
  intro other record found
  rw [apply_calls] at found
  obtain ⟨call, present, rfl⟩ := Option.map_eq_some_iff.mp found
  exact (wellFormed other call present).overheard (Call.listen_overheard _ _)

/-- The effects of a step, one after the other: an event comes to a heap that does not know it. -/
theorem commit_rule {property : State → Prop} (wellFormed : state.WellFormed)
    (stepped : Stepped handler state label after effects)
    (start : property (state.setCall label.pid after))
    (applied : ∀ current effect, effect ∈ effects →
      (∀ bus id event, effect = .publish bus id event → current.events id = none) →
      property current → property (current.apply label.pid effect)) :
    property (state.commit label.pid (after, effects)) := by
  cases stepped with
  | begun => exact start
  | @resumed pid call fate after effects found resumed =>
      have silent := ((Call.resume_cases resumed).busUse (wellFormed pid call found)).silent
      have folded : ∀ (rest : List Effect) (current : State), (∀ effect ∈ rest, effect ∈ effects) →
          property current → property (rest.foldl (apply pid) current) := by
        intro rest
        induction rest with
        | nil => exact fun _ _ holds => holds
        | cons effect rest ih =>
            intro current among holds
            rw [List.forall_mem_cons] at among
            refine ih _ among.2 (applied current effect among.1 ?_ holds)
            rintro bus id event rfl
            cases silent _ among.1
      exact folded effects _ (fun _ member => member) start
  | published found _ unknown =>
      exact applied _ _ List.mem_cons_self (by rintro _ _ _ ⟨⟩; exact unknown) start
  | finishedBus => exact applied _ _ List.mem_cons_self (by simp) start
  | executorReturned | executorThrew | abandoned => exact start
  | @reaped pid call execution fresh changed effects found _ unknownTask unknownStatus differ reaped =>
      cases Execution.reap_settles reaped with
      | updated =>
          exact applied _ _ List.mem_cons_self (by rintro _ _ _ ⟨⟩; exact unknownStatus) start
      | announced =>
          refine applied _ _ (List.mem_cons_of_mem _ List.mem_cons_self) ?_
            (applied _ _ List.mem_cons_self (by rintro _ _ _ ⟨⟩; exact unknownTask) start)
          rintro _ _ _ ⟨⟩
          simpa [State.apply, Function.update_of_ne differ.symm] using unknownStatus
      | keptAlive => exact start
      | closed =>
          exact applied _ _ (List.mem_cons_of_mem _ List.mem_cons_self) (by simp)
            (applied _ _ List.mem_cons_self (by simp) start)

/-- A step names nothing of the other party's, in its call's record and in its effects. -/
theorem stepped_belongs (wellFormed : state.WellFormed) (divided : state.Divided handler division owner)
    (separates : division.Separates handler label)
    (authored : ∀ published ∈ (state.commit label.pid (after, effects)).publications,
      owner published.id = division.calls published.pid)
    (stepped : Stepped handler state label after effects) :
    after.Belongs division handler (division.calls label.pid)
        (Division.heap owner (division.calls label.pid) state.events) ∧
      ∀ effect ∈ effects, division.Affects owner (division.calls label.pid) effect := by
  have authors : ∀ bus id event, .publish bus id event ∈ effects →
      owner id = division.calls label.pid := by
    intro bus id event member
    refine authored ⟨label.pid, bus, id, event⟩ ?_
    rw [commit, foldl_publications]
    exact List.mem_append_right _ (List.mem_filterMap.mpr ⟨_, member, rfl⟩)
  have executes : ∀ {pid : Pid} {call : Call} {execution changed : Execution},
      state.calls pid = some call → call.execution = some execution →
      changed.requestContext = execution.requestContext →
      ({ call with execution := some changed }).Belongs division handler (division.calls pid)
        (Division.heap owner (division.calls pid) state.events) := by
    intro pid call execution changed found executing same
    have belongs := divided.calls pid call found
    refine ⟨belongs.scope, belongs.joins, ?_, belongs.bus, ?_⟩
    · rintro _ ⟨⟩
      rw [same]
      exact belongs.executing execution executing
    · exact ⟨belongs.knows.queued, belongs.knows.current, belongs.knows.saving, belongs.knows.own,
        belongs.knows.unqueued⟩
  cases stepped with
  | begun absent =>
      obtain ⟨scope, tasks⟩ := separates _ _ _ _ rfl
      exact ⟨Call.begin_belongs _ scope tasks divided.buses _, by simp⟩
  | @resumed pid call fate after effects found resumed =>
      exact (divided.calls pid call found).resumed (wellFormed pid call found) rfl divided.buses resumed
  | @published pid _ bus id event found publishes =>
      have belongs := divided.calls pid _ found
      refine ⟨belongs, ?_⟩
      rw [List.forall_mem_singleton]
      exact ⟨belongs.bus bus ((wellFormed pid _ found).executorBus publishes),
        authors bus id event List.mem_cons_self⟩
  | @finishedBus pid _ bus found publishes =>
      have belongs := divided.calls pid _ found
      refine ⟨belongs, ?_⟩
      rw [List.forall_mem_singleton]
      exact belongs.bus bus ((wellFormed pid _ found).executorBus publishes)
  | executorReturned found executing | executorThrew found executing =>
      exact ⟨executes found executing rfl, by simp⟩
  | @reaped pid call execution fresh changed effects found executing _ _ _ reaped =>
      have belongs := divided.calls pid call found
      have attached := belongs.bus _ ((wellFormed pid call found).executes execution executing).2.1
      have named := belongs.executing execution executing
      cases Execution.reap_settles reaped with
      | updated =>
          refine ⟨executes found executing rfl, ?_⟩
          rw [List.forall_mem_singleton]
          exact ⟨attached, authors _ _ _ List.mem_cons_self⟩
      | announced =>
          refine ⟨executes found executing rfl, ?_⟩
          rw [List.forall_mem_cons, List.forall_mem_singleton]
          exact ⟨⟨attached, authors _ _ _ List.mem_cons_self⟩,
            ⟨attached, authors _ _ _ (List.mem_cons_of_mem _ List.mem_cons_self)⟩⟩
      | keptAlive => exact ⟨executes found executing rfl, by simp⟩
      | closed =>
          refine ⟨executes found executing rfl, ?_⟩
          rw [List.forall_mem_cons, List.forall_mem_singleton]
          exact ⟨attached, named⟩
  | @abandoned pid call after found abandoned =>
      obtain ⟨_, _, rfl⟩ := Call.abandon_cases abandoned
      have belongs := divided.calls pid call found
      have frame : Call.Frame call (call.stopQueue.finish .done) :=
        Call.stopQueue_frame.trans (Call.finish_frame _)
      refine ⟨⟨belongs.scope, ?_, ?_, ?_, belongs.knows.moves frame rfl rfl (.inr rfl)⟩, by simp⟩
      · rintro taskId ⟨⟩
      · rw [frame.execution]
        exact belongs.executing
      · intro bus attached
        exact belongs.bus bus (frame.eventBus.symm.trans attached)

theorem setCall_divided (divided : state.Divided handler division owner)
    (belongs : call.Belongs division handler (division.calls pid)
      (Division.heap owner (division.calls pid) state.events)) :
    (state.setCall pid call).Divided handler division owner where
  calls other record found := by
    by_cases same : other = pid
    · subst same
      cases setCall_self.symm.trans found
      exact belongs
    · rw [setCall_of_ne same] at found
      exact divided.calls other record found
  buses := divided.buses

theorem divided_step (wellFormed : state.WellFormed) (divided : state.Divided handler division owner)
    (separates : division.Separates handler label)
    (authored : ∀ published ∈ next.publications, owner published.id = division.calls published.pid)
    (stepped : state.step handler label = some next) : next.Divided handler division owner := by
  obtain ⟨after, effects, steppedTo, rfl⟩ := step_cases stepped
  obtain ⟨belongs, affects⟩ := stepped_belongs wellFormed divided separates authored steppedTo
  exact commit_rule wellFormed steppedTo (setCall_divided divided belongs)
    fun _ effect member unknown holds => apply_divided (affects effect member) unknown holds

/-- A step of the other party leaves a party's part as it is. -/
theorem share_step_other (other : division.calls label.pid = false) (wellFormed : state.WellFormed)
    (divided : state.Divided handler division owner) (separates : division.Separates handler label)
    (authored : ∀ published ∈ next.publications, owner published.id = division.calls published.pid)
    (stepped : state.step handler label = some next) :
    next.share division owner start = state.share division owner start := by
  obtain ⟨after, effects, steppedTo, rfl⟩ := step_cases stepped
  obtain ⟨belongs, affects⟩ := stepped_belongs wellFormed divided separates authored steppedTo
  have holds : (state.commit label.pid (after, effects)).WellFormed ∧
      (state.commit label.pid (after, effects)).Divided handler division owner ∧
      (state.commit label.pid (after, effects)).share division owner start =
        state.share division owner start := by
    refine @commit_rule _ _ _ _ _ (fun current => current.WellFormed ∧
        current.Divided handler division owner ∧
        current.share division owner start = state.share division owner start) wellFormed steppedTo
      ⟨setCall_wellFormed wellFormed (stepped_wellFormed wellFormed steppedTo),
        setCall_divided divided belongs, share_setCall_other other⟩ ?_
    intro current effect member unknown holds
    obtain ⟨formed, apart, same⟩ := holds
    refine ⟨apply_wellFormed formed, apply_divided (affects effect member) unknown apart, ?_⟩
    rw [← same]
    exact share_apply_other other (other ▸ affects effect member) formed apart
  exact holds.2.2

theorem share_commit (own : division.calls pid = true)
    (affects : ∀ effect ∈ effects, division.Affects owner true effect) :
    (state.commit pid (call, effects)).share division owner start =
      (state.share division owner start).commit pid (call, effects) := by
  have folded : ∀ current : State, (effects.foldl (apply pid) current).share division owner start =
      effects.foldl (apply pid) (current.share division owner start) := by
    induction effects with
    | nil => exact fun _ => rfl
    | cons effect rest ih =>
        intro current
        rw [List.forall_mem_cons] at affects
        rw [List.foldl_cons, List.foldl_cons, ih affects.2, share_apply own affects.1]
  rw [commit, folded, share_setCall own, commit]

/-- The locks a party holds, with its own calls alone in the queues. -/
def heldAlone (division : Division) (state : State) (pid : Pid) (key : String) : Bool :=
  ((state.locks key).filter division.calls).head? = some pid

theorem share_view {scope : Scope} (within : division.scopes scope = true) (pid : Pid) :
    (state.share division owner start).view pid scope =
      { state.view pid scope with
        eventBus := division.registry true state.taskIdToBus
        event := Division.heap owner true state.events
        holdsLock := state.heldAlone division pid } := by
  simp only [view, share, View.mk.injEq]
  refine ⟨?_, ?_, ?_, trivial, trivial, rfl⟩
  · funext taskId
    exact ScopedStore.overlay_get? within taskId
  · exact congrArg OrderedMap.values (ScopedStore.overlay_bucket within)
  · funext taskId
    simp only [InMemoryPushNotificationStore.load,
      InMemoryPushNotificationStore.overlay_loadWithMetadata within]

/-- A lock that is held is held as well when the other party's calls are not in the queue. -/
theorem holds_alone (own : division.calls pid = true) (key : String)
    (holds : decide ((state.locks key).head? = some pid) = true) :
    state.heldAlone division pid key = true := by
  simp only [decide_eq_true_eq, heldAlone] at holds ⊢
  cases queue : state.locks key with
  | nil => simp [queue] at holds
  | cons first rest =>
      rw [queue, List.head?_cons, Option.some.injEq] at holds
      subst holds
      simp [own]

/-- The task in the request context of a party's call is in the party's part. -/
theorem share_contextTask (own : division.calls pid = true)
    (contexts : owner (.contextTask pid) = division.calls pid) (execution : Execution) :
    (state.share division owner start).contextTask pid execution = state.contextTask pid execution := by
  have same : (state.share division owner start).events (.contextTask pid) =
      state.events (.contextTask pid) := if_pos (contexts.trans own)
  simp only [contextTask, same]

/-- A step of a party's own is a step of its part. -/
theorem share_step (own : division.calls label.pid = true) (wellFormed : state.WellFormed)
    (contexts : ∀ pid, owner (.contextTask pid) = division.calls pid)
    (divided : state.Divided handler division owner) (separates : division.Separates handler label)
    (authored : ∀ published ∈ next.publications, owner published.id = division.calls published.pid)
    (stepped : state.step handler label = some next) :
    (state.share division owner start).step handler label = some (next.share division owner start) := by
  obtain ⟨after, effects, steppedTo, rfl⟩ := step_cases stepped
  obtain ⟨belongs, affects⟩ := stepped_belongs wellFormed divided separates authored steppedTo
  rw [own] at affects belongs
  rw [share_commit own affects]
  have unheard : ∀ {id : EventId}, state.events id = none →
      (state.share division owner start).events id = none := by
    intro id unknown
    change Division.heap owner true state.events id = none
    rw [Division.heap, unknown, ite_self]
  cases steppedTo with
  | @begun pid request context requestedExtensions fresh absent =>
      obtain ⟨scope, tasks⟩ := separates _ _ _ _ rfl
      rw [own] at scope tasks
      have same := @Call.begin_covered handler (state.view pid (handler.scope context))
        (division.registry true state.taskIdToBus) (Division.heap owner true state.events)
        (state.heldAlone division pid) request context requestedExtensions fresh
        fun taskId joining => if_pos (tasks taskId joining)
      simp only [State.step, beginCall, share_calls own, absent, share_view scope, same, commit_nil]
  | @resumed pid call fate after effects found resumed =>
      have belongs := divided.calls pid call found
      rw [own] at belongs
      have seen := @Call.Belongs.covered handler (state.view pid (handler.scope call.context)) call division
        owner true belongs
      have covered : call.Covered (state.view pid (handler.scope call.context))
          (division.registry true state.taskIdToBus) (Division.heap owner true state.events)
          (state.heldAlone division pid) := ⟨seen.eventBus, seen.events, holds_alone own⟩
      have again := Call.resume_covered covered resumed
      rw [← share_view belongs.scope] at again
      simp only [State.step, share_calls own, found, resumeCall]
      rw [again]
      rfl
  | published found publishes unknown permitted =>
      simp only [State.step, share_calls own, found, State.publish, publishes, unheard unknown,
        if_pos permitted]
  | finishedBus found publishes =>
      simp only [State.step, share_calls own, found, State.finishBus, publishes, Option.map_some]
  | executorReturned found executing running | executorThrew found executing running =>
      simp only [State.step, share_calls own, found, State.executorSettled, executing, if_pos running,
        commit_nil]
  | reaped found executing unknownTask unknownStatus differ reaped madeTask madeStatus =>
      simp only [State.step, share_calls own, found, State.executorReaped, executing,
        unheard unknownTask, unheard unknownStatus, Option.isNone_none, madeTask, madeStatus, true_and,
        and_true, if_pos differ, share_contextTask own (contexts _), reaped, Option.map_some]
  | abandoned found abandoned =>
      simp only [State.step, share_calls own, found, abandoned, Option.map_some, commit_nil]

theorem publications_step (stepped : state.step handler label = some next) :
    ∃ more, next.publications = state.publications ++ more := by
  obtain ⟨after, effects, _, rfl⟩ := step_cases stepped
  exact ⟨_, by rw [commit, foldl_publications, setCall_publications]⟩

/-- A call publishes the task of no request context but its own. -/
theorem stepped_publishes (wellFormed : state.WellFormed)
    (stepped : Stepped handler state label after effects) {bus : BusId} {event : AgentExecutionEvent}
    (member : .publish bus (.contextTask pid) event ∈ effects) : label.pid = pid := by
  cases stepped with
  | begun | executorReturned | executorThrew | abandoned | finishedBus => simp at member
  | @resumed _ call _ _ _ found resumed =>
      cases ((Call.resume_cases resumed).busUse (wellFormed _ call found)).silent _ member
  | published _ _ _ permitted =>
      simp only [List.mem_singleton, Effect.publish.injEq] at member
      obtain ⟨rfl, rfl, rfl⟩ := member
      cases event with
      | task data =>
          simp only [Call.mayPublish, Bool.and_eq_true, beq_iff_eq] at permitted
          exact permitted.1.symm
      | _ => cases permitted
  | reaped _ _ _ _ _ reaped madeTask madeStatus =>
      cases Execution.reap_settles reaped <;> simp at member
      · rw [← member.2.1] at madeStatus
        cases madeStatus
      · rcases member with member | member
        · rw [← member.2.1] at madeTask
          cases madeTask
        · rw [← member.2.1] at madeStatus
          cases madeStatus

/-- No event object is published twice, and the task of a request context by its own call. -/
structure Distinct (state : State) : Prop where
  known : ∀ published ∈ state.publications, (state.events published.id).isSome = true
  once : (state.publications.map Publication.id).Nodup
  own : ∀ published ∈ state.publications, ∀ pid, published.id = .contextTask pid → published.pid = pid

theorem apply_distinct (distinct : state.Distinct)
    (unknown : ∀ bus id event, effect = .publish bus id event → state.events id = none)
    (owned : ∀ bus event other, effect = .publish bus (.contextTask other) event → pid = other) :
    (state.apply pid effect).Distinct := by
  have kept : ∀ published ∈ state.publications,
      ((state.apply pid effect).events published.id).isSome = true :=
    fun published member => (apply_grows unknown).known (distinct.known published member)
  have added := @apply_publications state pid effect
  cases publishes : effect.publication pid with
  | none =>
      rw [publishes, Option.toList_none, List.append_nil] at added
      exact ⟨by rw [added]; exact kept, by rw [added]; exact distinct.once,
        by rw [added]; exact distinct.own⟩
  | some published =>
      rw [publishes, Option.toList_some] at added
      cases effect with
      | publish bus id event =>
          cases publishes
          refine ⟨?_, ?_, ?_⟩
          · rw [added, List.forall_mem_append, List.forall_mem_singleton]
            exact ⟨kept, by simp [apply]⟩
          · rw [added, List.map_append]
            refine List.nodup_append.mpr ⟨distinct.once, List.nodup_singleton _, ?_⟩
            intro other member fresh same alike
            obtain ⟨earlier, listed, rfl⟩ := List.mem_map.mp member
            have present := distinct.known earlier listed
            rw [alike, List.mem_singleton.mp same, unknown bus id event rfl] at present
            cases present
          · rw [added, List.forall_mem_append, List.forall_mem_singleton]
            refine ⟨distinct.own, ?_⟩
            rintro other rfl
            exact owned bus event other rfl
      | _ => cases publishes

theorem distinct_step (wellFormed : state.WellFormed) (distinct : state.Distinct)
    (stepped : state.step handler label = some next) : next.Distinct := by
  obtain ⟨after, effects, steppedTo, rfl⟩ := step_cases stepped
  refine commit_rule wellFormed steppedTo ⟨distinct.known, distinct.once, distinct.own⟩
    fun _ effect member unknown holds => apply_distinct holds unknown ?_
  rintro bus event other rfl
  exact stepped_publishes wellFormed steppedTo member

/-- Every event that is published on the way is still among the publications at the end. -/
theorem authored_runs {allowed : State → Label → Prop} {labels : List Label}
    (runs : (handlerSystem handler).Runs allowed start labels state)
    (authored : ∀ published ∈ state.publications, owner published.id = division.calls published.pid) :
    (handlerSystem handler).Runs (fun current label => allowed current label ∧
      ∀ next, current.step handler label = some next →
        ∀ published ∈ next.publications, owner published.id = division.calls published.pid)
      start labels state := by
  induction runs with
  | refl => exact .refl
  | snoc _ permitted stepped ih =>
      obtain ⟨more, grown⟩ := publications_step stepped
      refine .snoc (ih fun published member => authored published ?_) ⟨permitted, ?_⟩ stepped
      · rw [grown]
        exact List.mem_append_left _ member
      · intro next reached
        cases stepped.symm.trans reached
        exact authored

/-- The party whose call has published an event, or may. -/
def publisher (division : Division) (state : State) : EventId → Bool
  | .contextTask pid => division.calls pid
  | id => state.publications.any fun published => published.id = id && division.calls published.pid

theorem publisher_eq (distinct : state.Distinct) {published : Publication}
    (member : published ∈ state.publications) :
    state.publisher division published.id = division.calls published.pid := by
  cases named : published.id with
  | contextTask pid => rw [publisher, distinct.own published member pid named]
  | made number =>
      cases own : division.calls published.pid with
      | true => exact List.any_eq_true.mpr ⟨published, member, by simp [named, own]⟩
      | false =>
          refine List.any_eq_false.mpr fun other listed => ?_
          by_cases same : other.id = published.id
          · obtain rfl := List.inj_on_of_nodup_map distinct.once listed member same
            simp [own]
          · simp [← named, same]

theorem share_initial (owner : EventId → Bool) (taskStore : InMemoryTaskStore)
    (pushNotificationStore : InMemoryPushNotificationStore) :
    (State.initial taskStore pushNotificationStore fun _ => none).share division owner
        (.initial taskStore pushNotificationStore fun _ => none) =
      .initial taskStore pushNotificationStore fun _ => none := by
  have tasks : InMemoryTaskStore.overlay division.scopes taskStore taskStore = taskStore :=
    InMemoryTaskStore.ext (ScopedStore.overlay_self _ _)
  have configs : InMemoryPushNotificationStore.overlay division.scopes pushNotificationStore
      pushNotificationStore = pushNotificationStore :=
    congrArg InMemoryPushNotificationStore.mk (ScopedStore.overlay_self _ _)
  have buses : division.registry true (fun _ => none) = fun _ => none := funext fun _ => ite_self _
  have events : Division.heap owner true (fun _ => none) = fun _ => none := funext fun _ => ite_self _
  simp [share, initial, tasks, configs, buses, events]

end State

/-- Where the parties share no scope, and no task id with a bus, the calls of the one party go in any
run as they go in the run without the other's calls. -/
theorem parties_do_not_interfere {handler : Handler} {division : Division} {labels : List Label}
    {state : State} {taskStore : InMemoryTaskStore} {pushNotificationStore : InMemoryPushNotificationStore}
    (runs : (handlerSystem handler).Runs (fun _ label => division.Separates handler label)
      (.initial taskStore pushNotificationStore fun _ => none) labels state) :
    ∃ alone, (handlerSystem handler).run (.initial taskStore pushNotificationStore fun _ => none)
        (labels.filter fun label => division.calls label.pid) = some alone ∧
      (∀ pid, division.calls pid = true → alone.calls pid = state.calls pid) ∧
      (∀ scope, division.scopes scope = true →
        alone.taskStore.scopedStore.bucket scope = state.taskStore.scopedStore.bucket scope ∧
        alone.pushNotificationStore.scopedStore.bucket scope =
          state.pushNotificationStore.scopedStore.bucket scope) ∧
      (∀ taskId, division.tasks taskId = true → alone.taskIdToBus taskId = state.taskIdToBus taskId) ∧
      alone.writes = state.writes.filter (fun write => division.calls write.pid) ∧
      alone.publications = state.publications.filter (fun published => division.calls published.pid) := by
  have distinct := runs.invariant (fun current => current.WellFormed ∧ current.Distinct)
    ⟨State.wellFormed_initial _ _ _, ⟨by simp [State.initial], List.nodup_nil, by simp [State.initial]⟩⟩
    fun holds _ stepped => ⟨State.wellFormed_step holds.1 stepped, State.distinct_step holds.1 holds.2 stepped⟩
  have authors : ∀ published ∈ state.publications,
      state.publisher division published.id = division.calls published.pid :=
    fun published member => State.publisher_eq distinct.2 member
  have projected := @System.Runs.project _ _ _ _ _ _ _ (fun current => current.WellFormed ∧
      current.Divided handler division (state.publisher division))
    (fun label => division.calls label.pid)
    (fun current => current.share division (state.publisher division)
      (.initial taskStore pushNotificationStore fun _ => none)) (State.authored_runs runs authors) ?_ ?_ ?_ ?_
  · rw [State.share_initial] at projected
    refine ⟨_, projected, fun _ own => if_pos own, fun _ own => ⟨if_pos own, if_pos own⟩,
      fun _ own => if_pos own, rfl, rfl⟩
  · exact ⟨State.wellFormed_initial _ _ _, ⟨by simp [State.initial], by simp [State.initial]⟩⟩
  · intro current label next holds permitted stepped
    exact ⟨State.wellFormed_step holds.1 stepped,
      State.divided_step holds.1 holds.2 permitted.1 (permitted.2 next stepped) stepped⟩
  · intro current label next holds permitted stepped own
    exact State.share_step own holds.1 (fun _ => rfl) holds.2 permitted.1 (permitted.2 next stepped) stepped
  · intro current label next holds permitted stepped other
    exact State.share_step_other other holds.1 holds.2 permitted.1 (permitted.2 next stepped) stepped

section

open Scenario

/-- `Division.Separates`, as a check. -/
def separates (division : Division) (handler : Handler) (label : Label) : Bool :=
  match label.action with
  | .call request context _ fresh =>
      division.scopes (handler.scope context) == division.calls label.pid &&
        (request.joins fresh).all fun taskId => division.tasks taskId == division.calls label.pid
  | _ => true

theorem separates_sound {division : Division} {handler : Handler} {label : Label}
    (passed : separates division handler label = true) : division.Separates handler label := by
  intro request context requestedExtensions fresh same
  simp only [separates, same, Bool.and_eq_true, beq_iff_eq] at passed
  refine ⟨passed.1, fun taskId joins => ?_⟩
  simpa [joins] using passed.2

/-- Alice has the tenant `a` and the task `T`. -/
def aliceAlone : Division where
  calls := fun pid => pid = 0
  scopes := fun scope => scope.tenantKey = "a"
  tasks := fun taskId => taskId = "T"

/-- Alice's task is worked on while Bob starts one of his own and asks for hers. -/
def separateSchedule : List Label :=
  [calls 0 (.sendMessage (params (message "m" "") false)) (context "a" "alice") "T",
    calls 1 (.sendMessage (params (message "n" "") false)) (context "b" "bob") "U"] ++
    resumes 1 1 ++ resumes 0 1 ++
    [publishes 1 0 (taskEvent "U" .working), publishes 0 1 (taskEvent "T" .working)] ++
    resumes 0 3 ++ resumes 1 3 ++ [calls 2 (.getTask "T" none) (context "b" "bob") ""] ++ resumes 2 1 ++
    resumes 0 1 ++ [publishes 0 2 (statusEvent "T" .completed)] ++ resumes 0 4 ++ [returns 0, reaps 0 10 11]

theorem parties_do_not_interfere_alice :
    ∃ state alone, (handlerSystem (server false)).run (seeded ⟨"", ""⟩ []) separateSchedule = some state ∧
      (handlerSystem (server false)).run (seeded ⟨"", ""⟩ [])
        (separateSchedule.filter fun label => aliceAlone.calls label.pid) = some alone ∧
      alone.calls 0 = state.calls 0 ∧ alone.row ⟨"a", "alice"⟩ "T" = state.row ⟨"a", "alice"⟩ "T" ∧
      ((state.row ⟨"a", "alice"⟩ "T").bind Task.state, (state.row ⟨"b", "bob"⟩ "U").bind Task.state,
        (state.row ⟨"b", "bob"⟩ "T").bind Task.state) = (some .completed, some .working, none) := by
  have ran : ((handlerSystem (server false)).checkedRun (fun _ label => separates aliceAlone (server false) label)
      (seeded ⟨"", ""⟩ []) separateSchedule).map (fun state =>
        ((state.row ⟨"a", "alice"⟩ "T").bind Task.state, (state.row ⟨"b", "bob"⟩ "U").bind Task.state,
          (state.row ⟨"b", "bob"⟩ "T").bind Task.state)) = some (some .completed, some .working, none) := rfl
  obtain ⟨state, completed, rows⟩ := Option.map_eq_some_iff.mp ran
  have runs := @System.runs_of_checkedRun _ _ (handlerSystem (server false))
    (fun _ label => aliceAlone.Separates (server false) label) _ _ _ _ (fun _ => True)
    (fun _ _ _ passed => separates_sound passed) (fun _ _ _ => trivial) trivial completed
  obtain ⟨alone, again, records, buckets, _⟩ := parties_do_not_interfere runs
  refine ⟨state, alone, runs.to_run, again, records 0 rfl, ?_, rows⟩
  exact congrArg (fun bucket => OrderedMap.get? bucket "T") (buckets ⟨"a", "alice"⟩ rfl).1

end

end A2A.Server
