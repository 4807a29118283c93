import A2A.Server.Scenario
import A2A.Server.Semantics.Synced

namespace A2A.Server

open Library

/-! When the task that `sendMessage` answers with is the task in the store.

The result is the manager's current task, which is the stored one as long as no
save has failed, or the raw first task event of a non-blocking call.  The raw
event stands for the stored task only where merging it changes nothing.
-/

/-! ### What a merge leaves as it is -/

/-- The same task, whatever the order of its metadata's keys. -/
structure SameTask (first second : Task) : Prop where
  id : first.id = second.id
  contextId : first.contextId = second.contextId
  status : first.status = second.status
  artifacts : first.artifacts = second.artifacts
  history : first.history = second.history
  metadata : first.metadata.map OrderedMap.get? = second.metadata.map OrderedMap.get?

/-- The incoming artifacts begin with the persisted ones' ids, none of which comes again with
another artifact. -/
structure LeadsWith (persisted incoming : List Artifact) : Prop where
  ids : persisted.map Artifact.artifactId <+: incoming.map Artifact.artifactId
  apart : ∀ later ∈ incoming.drop persisted.length, ∀ stored ∈ persisted,
    later.artifactId ≠ stored.artifactId
  single : ∀ first ∈ incoming.take persisted.length, ∀ second ∈ incoming.take persisted.length,
    first.artifactId = second.artifactId → first = second

/-- Every persisted key is an incoming one. -/
def CoversKeys (persisted incoming : Option Metadata) : Prop :=
  (persisted.isSome = true → incoming.isSome = true) ∧
    ∀ key, ((persisted.getD .empty).get? key).isSome = true →
      ((incoming.getD .empty).get? key).isSome = true

/-- A task event that already is what merging it into the row makes of it, up to the messages
that a truncation drops. -/
structure AsMerged (historyLength : Option Int) (latestUserMessage : Option Message)
    (persisted : Option Task) (data : Task) : Prop where
  history : (∃ length, historyLength = some length ∧ length ≤ data.history.length) ∨
    (∀ latest, latestUserMessage = some latest → hasMessage data.history latest.messageId = true) ∧
      ∀ stored, persisted = some stored → data.history = [] → stored.history = []
  artifacts : ∀ stored, persisted = some stored → LeadsWith stored.artifacts data.artifacts
  metadata : ∀ stored, persisted = some stored → CoversKeys stored.metadata data.metadata

theorem incomingById_of_mem {incoming : List Artifact} {artifact : Artifact}
    (member : artifact ∈ incoming) :
    ∃ found, incomingById incoming artifact.artifactId = some found ∧ found ∈ incoming ∧
      found.artifactId = artifact.artifactId := by
  cases found : incomingById incoming artifact.artifactId with
  | none =>
      have absent := List.find?_eq_none.mp found artifact (List.mem_reverse.mpr member)
      simp at absent
  | some last =>
      have named := List.find?_some found
      exact ⟨last, rfl, List.mem_reverse.mp (List.mem_of_find?_eq_some found), by simpa using named⟩

/-- What takes the place of a persisted artifact has its id. -/
theorem replacement_id (incoming : List Artifact) (artifact : Artifact) :
    ((incomingById incoming artifact.artifactId).getD artifact).artifactId = artifact.artifactId := by
  cases found : incomingById incoming artifact.artifactId with
  | none => rfl
  | some last =>
      have named := List.find?_some found
      simpa using named

/-- The artifacts that merging puts in place of the persisted ones. -/
def replacements (persisted incoming : List Artifact) : List Artifact :=
  persisted.map fun artifact => (incomingById incoming artifact.artifactId).getD artifact

/-- The incoming artifacts under ids that are not persisted. -/
def additions (persisted incoming : List Artifact) : List Artifact :=
  incoming.filter fun artifact =>
    !persisted.any (fun stored => stored.artifactId = artifact.artifactId)

theorem mergeArtifacts_split (persisted incoming : List Artifact) :
    mergeArtifacts persisted incoming =
      replacements persisted incoming ++ additions persisted incoming := by
  unfold mergeArtifacts
  split
  · rename_i empty
    simp [List.isEmpty_iff.mp empty, replacements, additions]
  · split
    · rename_i empty
      simp [List.isEmpty_iff.mp empty, replacements, additions, incomingById]
    · rfl

theorem replacements_ids (persisted incoming : List Artifact) :
    (replacements persisted incoming).map Artifact.artifactId = persisted.map Artifact.artifactId := by
  rw [replacements, List.map_map]
  exact List.map_congr_left fun artifact _ => replacement_id incoming artifact

theorem mem_additions {persisted incoming : List Artifact} {artifact : Artifact} :
    artifact ∈ additions persisted incoming ↔
      artifact ∈ incoming ∧ ∀ stored ∈ persisted, stored.artifactId ≠ artifact.artifactId := by
  simp [additions]

theorem leadsWith_of_merge {persisted incoming : List Artifact}
    (same : replacements persisted incoming ++ additions persisted incoming = incoming) :
    LeadsWith persisted incoming := by
  have length : (replacements persisted incoming).length = persisted.length := by simp [replacements]
  have head : incoming.take persisted.length = replacements persisted incoming := by
    have cut := congrArg (List.take persisted.length) same
    rw [List.take_left' length] at cut
    exact cut.symm
  have tail : incoming.drop persisted.length = additions persisted incoming := by
    have cut := congrArg (List.drop persisted.length) same
    rw [List.drop_left' length] at cut
    exact cut.symm
  have last : ∀ artifact ∈ incoming.take persisted.length,
      incomingById incoming artifact.artifactId = some artifact := by
    intro artifact member
    obtain ⟨found, read, _⟩ := incomingById_of_mem (List.mem_of_mem_take member)
    rw [head] at member
    obtain ⟨stored, _, rfl⟩ := List.mem_map.mp member
    rw [replacement_id] at read ⊢
    rw [read]
    rfl
  refine ⟨?_, ?_, ?_⟩
  · rw [← replacements_ids persisted incoming, ← head]
    exact (List.take_prefix _ _).map _
  · intro later member stored present equal
    rw [tail] at member
    exact (mem_additions.mp member).2 stored present equal.symm
  · intro first one second two equal
    have same := last first one
    rw [equal, last second two, Option.some.injEq] at same
    exact same.symm

theorem merge_of_leadsWith {persisted incoming : List Artifact} (leads : LeadsWith persisted incoming) :
    replacements persisted incoming ++ additions persisted incoming = incoming := by
  have ids : (incoming.take persisted.length).map Artifact.artifactId =
      persisted.map Artifact.artifactId := by
    obtain ⟨rest, split⟩ := leads.ids
    rw [List.map_take, ← split]
    exact List.take_left' (by simp)
  have size : (incoming.take persisted.length).length = persisted.length := by
    simpa using congrArg List.length ids
  have placed : ∀ (index : Nat) (artifact stored : Artifact),
      (incoming.take persisted.length)[index]? = some artifact → persisted[index]? = some stored →
      (incomingById incoming stored.artifactId).getD stored = artifact := by
    intro index artifact stored there here
    have named : artifact.artifactId = stored.artifactId := by
      have equal := congrArg (fun (ids : List String) => ids[index]?) ids
      simp only [List.getElem?_map, there, here, Option.map_some, Option.some.injEq] at equal
      exact equal
    have member := List.mem_of_getElem? there
    obtain ⟨found, read, among, same⟩ := incomingById_of_mem (List.mem_of_mem_take member)
    rw [← named, read]
    rw [← List.take_append_drop persisted.length incoming] at among
    rcases List.mem_append.mp among with early | late
    · exact leads.single _ early _ member same
    · exact absurd (same.trans named) (leads.apart _ late _ (List.mem_of_getElem? here))
  have front : replacements persisted incoming = incoming.take persisted.length := by
    apply List.ext_getElem?
    intro index
    rw [replacements, List.getElem?_map]
    cases here : persisted[index]? with
    | none =>
        have beyond := List.getElem?_eq_none_iff.mp here
        exact (List.getElem?_eq_none (by omega)).symm
    | some stored =>
        have within : index < (incoming.take persisted.length).length := by
          have bound := (List.getElem?_eq_some_iff.mp here).1
          omega
        have there := List.getElem?_eq_getElem within
        rw [there, Option.map_some, placed index _ stored there here]
  have back : additions persisted incoming = incoming.drop persisted.length := by
    have early : additions persisted (incoming.take persisted.length) = [] := by
      refine List.eq_nil_iff_forall_not_mem.mpr fun artifact member => ?_
      obtain ⟨among, absent⟩ := mem_additions.mp member
      have named : artifact.artifactId ∈ persisted.map Artifact.artifactId :=
        ids ▸ List.mem_map_of_mem among
      obtain ⟨stored, present, equal⟩ := List.mem_map.mp named
      exact absent stored present equal
    have late : additions persisted (incoming.drop persisted.length) =
        incoming.drop persisted.length := by
      refine List.filter_eq_self.mpr fun artifact member => ?_
      simp only [Bool.not_eq_true', List.any_eq_false, decide_eq_true_eq]
      exact fun stored present equal => leads.apart artifact member stored present equal.symm
    calc additions persisted incoming
        = additions persisted (incoming.take persisted.length ++ incoming.drop persisted.length) := by
          rw [List.take_append_drop]
      _ = additions persisted (incoming.take persisted.length) ++
            additions persisted (incoming.drop persisted.length) := List.filter_append _ _
      _ = incoming.drop persisted.length := by rw [early, late, List.nil_append]
  rw [front, back, List.take_append_drop]

/-- Merging leaves the incoming artifacts as they are exactly when they lead with the persisted. -/
theorem mergeArtifacts_eq_iff {persisted incoming : List Artifact} :
    mergeArtifacts persisted incoming = incoming ↔ LeadsWith persisted incoming := by
  rw [mergeArtifacts_split]
  exact ⟨leadsWith_of_merge, merge_of_leadsWith⟩

theorem mergeMetadata_eq_iff {persisted incoming : Option Metadata} :
    incoming.map OrderedMap.get? = (mergeMetadata persisted incoming).map OrderedMap.get? ↔
      CoversKeys persisted incoming := by
  cases persisted with
  | none =>
      cases incoming with
      | none => simp [mergeMetadata, CoversKeys]
      | some metadata =>
          simp only [mergeMetadata, CoversKeys, Option.map_some, Option.some.injEq]
          refine ⟨fun _ => by simp, fun _ => funext fun key => ?_⟩
          simp [OrderedMap.get?_overlay]
  | some stored =>
      cases incoming with
      | none => simp [mergeMetadata, CoversKeys]
      | some metadata =>
          simp only [mergeMetadata, CoversKeys, Option.map_some, Option.some.injEq,
            Option.isSome_some, Option.getD_some, true_and, forall_const]
          constructor
          · intro same key present
            rw [congrFun same key]
            exact OrderedMap.isSome_get?_overlay _ _ present
          · intro covers
            funext key
            rw [OrderedMap.get?_overlay]
            cases found : metadata.get? key with
            | some value => rfl
            | none =>
                cases kept : stored.get? key with
                | none => rfl
                | some value =>
                    have present := covers key (by rw [kept]; rfl)
                    simp [found] at present

/-- `_applyHistoryLengthSemantics` on the history alone. -/
def truncate (historyLength : Option Int) (history : List Message) : List Message :=
  match historyLength with
  | none => history
  | some length => if length ≤ 0 then [] else history.drop (history.length - length.toNat)

theorem applyHistoryLengthSemantics_truncate (historyLength : Option Int) (task : Task) :
    applyHistoryLengthSemantics historyLength task =
      { task with history := truncate historyLength task.history } := by
  cases historyLength with
  | none => rfl
  | some length =>
      simp only [applyHistoryLengthSemantics, truncate]
      split <;> rfl

/-- Truncation hides what stands in front of enough messages. -/
theorem truncate_append_iff {historyLength : Option Int} {front history : List Message} :
    truncate historyLength history = truncate historyLength (front ++ history) ↔
      front = [] ∨ ∃ length, historyLength = some length ∧ length ≤ history.length := by
  cases historyLength with
  | none => simp [truncate]
  | some length =>
      simp only [truncate, Option.some.injEq, exists_eq_left']
      split
      · rename_i few
        simp only [true_iff]
        exact .inr (by omega)
      · rename_i positive
        constructor
        · intro same
          by_cases enough : length ≤ history.length
          · exact .inr enough
          · refine .inl (List.eq_nil_of_length_eq_zero ?_)
            have sizes := congrArg List.length same
            simp only [List.length_drop, List.length_append] at sizes
            omega
        · rintro (rfl | enough)
          · rfl
          · have cut : (front ++ history).length - length.toNat =
                front.length + (history.length - length.toNat) := by
              rw [List.length_append]
              omega
            rw [cut, List.drop_append]
            simp

/-- The merge with the row, before the user's message is looked for. -/
def mergeRow (persisted : Option Task) (data : Task) : Task :=
  match persisted with
  | some persisted => if persisted.id = data.id then mergePersisted persisted data else data
  | none => data

theorem mergeTaskEvent_eq (latestUserMessage : Option Message) (persisted : Option Task) (data : Task) :
    mergeTaskEvent latestUserMessage persisted data =
      prependUserMessage latestUserMessage (mergeRow persisted data) := rfl

theorem mergeRow_history {persisted : Option Task} {data : Task}
    (named : ∀ stored, persisted = some stored → stored.id = data.id) :
    ∃ earlier, (mergeRow persisted data).history = earlier ++ data.history ∧
      (earlier = [] ↔ ∀ stored, persisted = some stored → data.history = [] → stored.history = []) ∧
      (data.history ≠ [] → earlier = []) := by
  cases persisted with
  | none => exact ⟨[], by simp [mergeRow]⟩
  | some stored =>
      by_cases empty : data.history = []
      · exact ⟨stored.history, by simp [mergeRow, mergePersisted, named stored rfl, empty]⟩
      · exact ⟨[], by simp [mergeRow, mergePersisted, named stored rfl, empty]⟩

/-- What merging puts in front of the event's history. -/
theorem mergeTaskEvent_history (latestUserMessage : Option Message) {persisted : Option Task}
    {data : Task} (named : ∀ stored, persisted = some stored → stored.id = data.id) :
    ∃ front, (mergeTaskEvent latestUserMessage persisted data).history = front ++ data.history ∧
      (front = [] ↔
        (∀ latest, latestUserMessage = some latest → hasMessage data.history latest.messageId = true) ∧
          ∀ stored, persisted = some stored → data.history = [] → stored.history = []) := by
  obtain ⟨earlier, history, blank, nonempty⟩ := mergeRow_history named
  rw [mergeTaskEvent_eq]
  generalize mergeRow persisted data = merged at history
  cases latestUserMessage with
  | none => exact ⟨earlier, history, by simp [blank]⟩
  | some latest =>
      simp only [prependUserMessage]
      split
      · rename_i present
        refine ⟨earlier, history, fun empty => ⟨?_, blank.mp empty⟩, fun both => blank.mpr both.2⟩
        rintro _ ⟨⟩
        rwa [history, empty] at present
      · rename_i absent
        refine ⟨latest :: earlier, by simp [history], by simp, ?_⟩
        rintro ⟨carried, _⟩
        have present := carried latest rfl
        have some : data.history ≠ [] := by
          rintro empty
          simp [empty, hasMessage] at present
        rw [history, nonempty some, List.nil_append] at absent
        exact absurd present absent

/-- A truncated task event agrees with the truncated merge exactly when it already is what the
merge makes of it. -/
theorem agrees_merge_iff {historyLength : Option Int} {latestUserMessage : Option Message}
    {persisted : Option Task} {data : Task}
    (named : ∀ stored, persisted = some stored → stored.id = data.id) :
    SameTask (applyHistoryLengthSemantics historyLength data)
        (applyHistoryLengthSemantics historyLength
          (mergeTaskEvent latestUserMessage persisted data)) ↔
      AsMerged historyLength latestUserMessage persisted data := by
  obtain ⟨front, history, none⟩ := mergeTaskEvent_history latestUserMessage named
  have kept : ∀ task : Task, (prependUserMessage latestUserMessage task).id = task.id ∧
      (prependUserMessage latestUserMessage task).contextId = task.contextId ∧
      (prependUserMessage latestUserMessage task).artifacts = task.artifacts := by
    intro task
    simp only [prependUserMessage]
    split
    · exact ⟨rfl, rfl, rfl⟩
    · split <;> exact ⟨rfl, rfl, rfl⟩
  have artifacts : data.artifacts = (mergeTaskEvent latestUserMessage persisted data).artifacts ↔
      ∀ stored, persisted = some stored → LeadsWith stored.artifacts data.artifacts := by
    rw [mergeTaskEvent_eq, (kept _).2.2]
    cases persisted with
    | none => simp [mergeRow]
    | some stored =>
        simp only [mergeRow, if_pos (named stored rfl), mergePersisted, Option.some.injEq, forall_eq']
        exact eq_comm.trans mergeArtifacts_eq_iff
  have metadata : data.metadata.map OrderedMap.get? =
        (mergeTaskEvent latestUserMessage persisted data).metadata.map OrderedMap.get? ↔
      ∀ stored, persisted = some stored → CoversKeys stored.metadata data.metadata := by
    rw [mergeTaskEvent_eq, ResultManager.prependUserMessage_metadata]
    cases persisted with
    | none => simp [mergeRow]
    | some stored =>
        simp only [mergeRow, if_pos (named stored rfl), mergePersisted, Option.some.injEq, forall_eq']
        exact mergeMetadata_eq_iff
  have shared : data.id = (mergeTaskEvent latestUserMessage persisted data).id ∧
      data.contextId = (mergeTaskEvent latestUserMessage persisted data).contextId := by
    rw [mergeTaskEvent_eq, (kept _).1, (kept _).2.1]
    simp only [mergeRow]
    split
    · split <;> exact ⟨rfl, rfl⟩
    · exact ⟨rfl, rfl⟩
  simp only [applyHistoryLengthSemantics_truncate]
  constructor
  · intro agrees
    refine ⟨?_, artifacts.mp agrees.artifacts, metadata.mp agrees.metadata⟩
    have same := agrees.history
    simp only [history] at same
    rcases truncate_append_iff.mp same with empty | enough
    · exact .inr (none.mp empty)
    · exact .inl enough
  · intro merged
    refine ⟨shared.1, shared.2, (ResultManager.mergeTaskEvent_status latestUserMessage persisted data).symm,
      artifacts.mpr merged.artifacts, ?_, metadata.mpr merged.metadata⟩
    simp only [history]
    rcases merged.history with enough | empty
    · exact truncate_append_iff.mpr (.inr enough)
    · exact truncate_append_iff.mpr (.inl (none.mpr empty))

namespace State

variable {handler : Handler} {state next : State} {label : Label} {pid : Pid}
  {call after : Call} {taskId : String}

/-- The row that a mapped task event was merged into. -/
def mergedInto (taskStore : InMemoryTaskStore) (state : State) (scope : Scope) (data : Task) :
    Option Task :=
  (AgentExecutionEvent.task data).loads
    ((rowWrites state.writes scope data.id).dropLast.foldl Write.apply (taskStore.load scope data.id))

/-- While a call maps a task event of a task that it alone writes, the row is the merge of the
event with the row before. -/
theorem row_mapped {taskStore : InMemoryTaskStore}
    {pushNotificationStore : InMemoryPushNotificationStore} {taskIdToBus : String → Option BusId}
    {labels : List Label} {id : EventId} {data : Task}
    (runs : (handlerSystem handler).Runs (WrittenBy handler pid data.id)
      (.initial taskStore pushNotificationStore taskIdToBus) labels state)
    (tracked : Tracked handler pid data.id state) (found : state.calls pid = some call)
    (mapping : call.pc = .map id) (present : state.events id = some (.task data)) :
    state.row (handler.scope call.context) data.id =
        some (mergeTaskEvent call.resultManager.latestUserMessage
          (mergedInto taskStore state (handler.scope call.context) data) data) ∧
      ∀ stored, mergedInto taskStore state (handler.scope call.context) data = some stored →
        stored.id = data.id := by
  obtain ⟨earlier, log⟩ := (tracked.synced call found).mapping id data mapping present rfl
  have serial := ownRegister_serial (handler.scope call.context) runs
  have content : state.row (handler.scope call.context) data.id =
      (rowWrites state.writes (handler.scope call.context) data.id).foldl Write.apply
        (taskStore.load (handler.scope call.context) data.id) := serial.content
  have before : mergedInto taskStore state (handler.scope call.context) data =
      (AgentExecutionEvent.task data).loads
        (earlier.foldl Write.apply (taskStore.load (handler.scope call.context) data.id)) := by
    rw [mergedInto, log, List.dropLast_concat]
  refine ⟨?_, ?_⟩
  · rw [content, before, log, List.foldl_append]
    rfl
  · intro stored merged
    rw [before, AgentExecutionEvent.loads] at merged
    split at merged
    · refine Write.foldl_id ?_ (fun task loaded => InMemoryTaskStore.load_id loaded) merged
      intro write member
      obtain ⟨front, back, split⟩ := List.append_of_mem member
      refine (serial.logged front write
        (back ++ [.event call.resultManager.latestUserMessage (.task data)]) ?_).targets
      exact log.trans (by rw [split, List.append_assoc, List.cons_append])
    · cases merged

/-- A task that `sendMessage` answers with, and that nobody else writes, is the stored one unless
it is the raw first task event of a non-blocking call and merging changed it. -/
theorem result_is_stored_iff {taskStore : InMemoryTaskStore}
    {pushNotificationStore : InMemoryPushNotificationStore} {taskIdToBus : String → Option BusId}
    {labels : List Label} {params : SendMessageRequest} {result : Task}
    (runs : (handlerSystem handler).Runs (WrittenBy handler pid result.id)
      (.initial taskStore pushNotificationStore taskIdToBus) labels state)
    (stepped : state.step handler label = some next)
    (found : state.calls pid = some call) (sends : call.request = .sendMessage params)
    (waiting : call.outcome = none) (settled : next.calls pid = some after)
    (resolved : after.outcome = some (.task result)) :
    (∃ stored, next.row (handler.scope call.context) result.id = some stored ∧
        SameTask result (applyHistoryLengthSemantics (historyLengthOf params) stored)) ↔
      ∀ id data, isBlocking params = false → call.pc = .map id → state.events id = some (.task data) →
        AsMerged (historyLengthOf params) call.resultManager.latestUserMessage
          (mergedInto taskStore state (handler.scope call.context) data) data := by
  have tracked := runs.invariant (Tracked handler pid result.id) (tracked_initial _ _ _)
    fun tracked permitted stepped => tracked.step permitted stepped
  have synced := tracked.synced call found
  obtain ⟨record, effects, steppedTo, rfl⟩ := step_cases stepped
  have outcome : label.pid = pid ∧ record.outcome = some (.task result) := by
    rcases commit_overheard settled with ⟨same, overheard⟩ | ⟨_, before, earlier, overheard⟩
    · exact ⟨same.symm, overheard.outcome.symm.trans resolved⟩
    · cases found.symm.trans earlier
      cases (overheard.outcome.trans waiting).symm.trans resolved
  obtain ⟨rfl, answer⟩ := outcome
  have quiet : ∀ {changed : Call} {before : Call}, state.calls label.pid = some before →
      changed.outcome = before.outcome → changed.outcome = some (.task result) → False := by
    intro changed before present same equal
    cases found.symm.trans present
    cases (same.trans waiting).symm.trans equal
  cases steppedTo with
  | begun new => cases new.symm.trans found
  | published present | finishedBus present => exact (quiet present rfl answer).elim
  | executorReturned present | executorThrew present | reaped present =>
      exact (quiet present rfl answer).elim
  | abandoned present abandoned =>
      cases found.symm.trans present
      obtain ⟨_, _, rfl⟩ := Call.abandon_cases abandoned
      simp [Call.finish, Call.settle, Call.stopQueue, waiting] at answer
  | @resumed pid _ fate _ _ present resumed =>
      cases found.symm.trans present
      have own := tracked.wellFormed pid call found
      have kept : ∀ {taskId : String}, call.pc.saving = false →
          (state.commit pid (record, effects)).row (handler.scope call.context) taskId =
            state.row (handler.scope call.context) taskId := by
        intro taskId calm
        refine row_kept (store_kept tracked.wellFormed stepped fun _ => ?_).1
        simp only [pending, found, Option.bind_some]
        exact Call.pending_none calm
      rcases Call.resume_task own (synced.route (by simp [Call.isSend, sends])) sends waiting resumed answer with
        ⟨task, current, calm, rfl, apart⟩ | ⟨id, data, returns, mapping, known, rfl⟩
      · have named : (applyHistoryLengthSemantics (historyLengthOf params) task).id = task.id := by
          rw [applyHistoryLengthSemantics_truncate]
        refine ⟨fun _ id data returns mapping known => absurd known (apart id data returns mapping),
          fun _ => ⟨task, ?_, ⟨rfl, rfl, rfl, rfl, rfl, rfl⟩⟩⟩
        rw [kept calm]
        exact synced.current task waiting calm current named.symm
      · have named : (applyHistoryLengthSemantics (historyLengthOf params) data).id = data.id := by
          rw [applyHistoryLengthSemantics_truncate]
        rw [named] at runs tracked ⊢
        obtain ⟨row, identity⟩ := row_mapped runs tracked found mapping known
        rw [kept (by rw [mapping]; rfl), row]
        have merged := @agrees_merge_iff (historyLengthOf params) call.resultManager.latestUserMessage
          _ data identity
        constructor
        · rintro ⟨stored, ⟨⟩, same⟩ other event _ maps present
          cases mapping.symm.trans maps
          cases known.symm.trans present
          exact merged.mp same
        · intro holds
          exact ⟨_, rfl, merged.mpr (holds id data returns mapping known)⟩

end State

section

open Scenario

/-- One message, answered by a task and a final status. -/
def answerSchedule (returnImmediately : Bool) : List Label :=
  [calls 0 (.sendMessage (params (message "m" "") returnImmediately)) (context "tenant" "user") "T"] ++
    resumes 0 1 ++ [publishes 0 0 (taskEvent "T" .working)] ++
    if returnImmediately then resumes 0 3
    else resumes 0 4 ++ [publishes 0 1 (statusEvent "T" .completed)] ++ resumes 0 3

/-- What the last step of a run makes of the call's promise and of the task's row. -/
def answered (state : State) :
    Option (Request × ServerCallContext × Bool × String × Nat × Nat) :=
  (state.calls 0).bind fun call =>
    (state.step (server false) ⟨0, .resume .ok⟩).bind fun next =>
      (next.calls 0).bind fun after =>
        match after.outcome with
        | some (.task result) =>
            (next.row ⟨"tenant", "user"⟩ "T").map fun stored =>
              (call.request, call.context, call.outcome.isNone, result.id, result.history.length,
                stored.history.length)
        | _ => none

theorem answered_cases {state : State} {request : Request} {context : ServerCallContext}
    {id : String} {told kept : Nat}
    (answers : answered state = some (request, context, true, id, told, kept)) :
    ∃ call next after result stored, state.calls 0 = some call ∧
      state.step (server false) ⟨0, .resume .ok⟩ = some next ∧ next.calls 0 = some after ∧
      after.outcome = some (.task result) ∧ next.row ⟨"tenant", "user"⟩ "T" = some stored ∧
      call.request = request ∧ call.context = context ∧ call.outcome = none ∧ result.id = id ∧
      result.history.length = told ∧ stored.history.length = kept := by
  obtain ⟨call, found, rest⟩ := Option.bind_eq_some_iff.mp answers
  obtain ⟨next, stepped, rest⟩ := Option.bind_eq_some_iff.mp rest
  obtain ⟨after, settled, rest⟩ := Option.bind_eq_some_iff.mp rest
  split at rest
  · rename_i result resolved
    obtain ⟨stored, row, same⟩ := Option.map_eq_some_iff.mp rest
    simp only [Prod.mk.injEq, Option.isNone_iff_eq_none] at same
    exact ⟨call, next, after, result, stored, found, stepped, settled, resolved, row, same.1,
      same.2.1, same.2.2.1, same.2.2.2.1, same.2.2.2.2.1, same.2.2.2.2.2⟩
  · cases rest

/-- The runs in which the call takes every step. -/
theorem writtenBy_alone {handler : Handler} {pid : Pid} {start state : State} {labels : List Label}
    (taskId : String)
    (completed : (handlerSystem handler).checkedRun (fun _ label => label.pid == pid) start labels =
      some state) : (handlerSystem handler).Runs (WrittenBy handler pid taskId) start labels state :=
  @System.runs_of_checkedRun _ _ (handlerSystem handler) (WrittenBy handler pid taskId) _ _ _ _
    (fun _ => True) (fun _ _ _ passed differ => absurd (eq_of_beq passed) differ) (fun _ _ _ => trivial)
    trivial completed

theorem result_is_stored_iff_blocking :
    ∃ state next call after result, (handlerSystem (server false)).Runs
        (WrittenBy (server false) 0 result.id) (.initial .empty .empty (fun _ => none))
        (answerSchedule false) state ∧
      state.step (server false) ⟨0, .resume .ok⟩ = some next ∧ state.calls 0 = some call ∧
      call.request = .sendMessage (params (message "m" "") false) ∧ next.calls 0 = some after ∧
      after.outcome = some (.task result) ∧ result.history.length = 1 ∧
      ∃ stored, next.row ((server false).scope call.context) result.id = some stored ∧
        SameTask result stored := by
  have ran : ((handlerSystem (server false)).checkedRun (fun _ label => label.pid == 0)
      (.initial .empty .empty (fun _ => none)) (answerSchedule false)).bind answered =
      some (.sendMessage (params (message "m" "") false), context "tenant" "user", true, "T", 1, 1) := rfl
  obtain ⟨state, ranAll, rest⟩ := Option.bind_eq_some_iff.mp ran
  obtain ⟨call, next, after, result, stored, found, stepped, settled, resolved, row, sends, caller,
    waiting, id, told, kept⟩ := answered_cases rest
  have runs := writtenBy_alone result.id ranAll
  refine ⟨state, next, call, after, result, runs, stepped, found, sends, settled, resolved, told, ?_⟩
  exact (State.result_is_stored_iff runs stepped found sends waiting settled resolved).mpr
    (fun _ _ returns => by cases returns)

/-- A non-blocking caller is given the raw task event, without the message that the stored task
begins with. -/
theorem raw_event_answered :
    ¬ ∀ (handler : Handler) (taskStore : InMemoryTaskStore)
      (pushNotificationStore : InMemoryPushNotificationStore) (taskIdToBus : String → Option BusId)
      (labels : List Label) (state next : State) (label : Label) (pid : Pid) (call after : Call)
      (params : SendMessageRequest) (result : Task),
      (handlerSystem handler).Runs (WrittenBy handler pid result.id)
        (.initial taskStore pushNotificationStore taskIdToBus) labels state →
      state.step handler label = some next → state.calls pid = some call →
      call.request = .sendMessage params → call.outcome = none → next.calls pid = some after →
      after.outcome = some (.task result) →
      ∃ stored, next.row (handler.scope call.context) result.id = some stored ∧
        SameTask result (applyHistoryLengthSemantics (historyLengthOf params) stored) := by
  intro answersStored
  have ran : ((handlerSystem (server false)).checkedRun (fun _ label => label.pid == 0)
      (.initial .empty .empty (fun _ => none)) (answerSchedule true)).bind answered =
      some (.sendMessage (params (message "m" "") true), context "tenant" "user", true, "T", 0, 1) := rfl
  obtain ⟨state, ranAll, rest⟩ := Option.bind_eq_some_iff.mp ran
  obtain ⟨call, next, after, result, stored, found, stepped, settled, resolved, row, sends, caller,
    waiting, id, told, kept⟩ := answered_cases rest
  obtain ⟨other, present, same⟩ := answersStored _ _ _ _ _ _ _ _ _ _ _ _ _ (writtenBy_alone result.id ranAll)
    stepped found sends waiting settled resolved
  rw [id, caller, show (server false).scope (Scenario.context "tenant" "user") = ⟨"tenant", "user"⟩
    from rfl, row] at present
  cases present
  have history := same.history
  rw [show historyLengthOf (params (message "m" "") true) = none from rfl] at history
  have lengths := congrArg List.length history
  simp only [applyHistoryLengthSemantics] at lengths
  omega

end

end A2A.Server
