import A2A.Server.Scenario
import A2A.Server.Semantics.Writes

namespace A2A.Server

open Library

/-! What survives in a row when its writers do not overtake each other.

A row that is its log replayed has lost no update: what a write contributed is
still there unless a later write was meant to replace it.
-/

namespace Write

/-- The message that the request handler itself adds to the history. -/
def message : Write → Option Message
  | .append message => some message
  | .cancel status => status.message
  | .event _ _ => none

/-- The artifact that an update contributes its parts to. -/
def artifact : Write → Option Artifact
  | .event _ (.artifactUpdate data) => data.artifact
  | _ => none

/-- The status the write stores: its own, whatever was loaded. -/
def status : Write → Option (Option TaskStatus)
  | .append _ => none
  | .cancel status => some (some status)
  | .event _ merged => if merged.replacesStatus then some merged.status else none

/-- A task event with a history of its own stands for the whole history. -/
def replacesHistory : Write → Bool
  | .event _ (.task data) => data.id = "" || !data.history.isEmpty
  | _ => false

/-- A task event that lists the artifact, or an update that does not append, stands for the
whole artifact. -/
def replacesArtifact (artifactId : String) : Write → Bool
  | .event _ (.task data) =>
      data.id = "" || data.artifacts.any (fun artifact => artifact.artifactId = artifactId)
  | .event _ (.artifactUpdate data) =>
      !data.append && data.artifact.any (fun artifact => artifact.artifactId = artifactId)
  | _ => false

variable {taskId : String} {write : Write} {task after : Task} {row : Option Task}

/-! ### The history -/

theorem prependUserMessage_history (latestUserMessage : Option Message) (task : Task) :
    task.history ⊆ (prependUserMessage latestUserMessage task).history := by
  simp only [prependUserMessage]
  split
  · exact List.Subset.refl _
  · split
    · exact List.Subset.refl _
    · exact List.subset_cons_self _ _

theorem mergeStatusUpdate_history (task : Task) (data : TaskStatusUpdateEvent) :
    task.history ⊆ (mergeStatusUpdate task data).history := by
  simp only [mergeStatusUpdate]
  split
  · exact List.Subset.refl _
  · split
    · exact List.Subset.refl _
    · exact List.subset_append_left _ _

theorem history_kept (applied : Applied task write after) (kept : write.replacesHistory = false) :
    task.history ⊆ after.history := by
  cases applied with
  | appended | cancelled => exact List.subset_append_left _ _
  | skipped | extended => exact List.Subset.refl _
  | unnamed unnamed => simp [replacesHistory, unnamed] at kept
  | @merged latestUserMessage data named =>
      simp only [replacesHistory, Bool.or_eq_false_iff, Bool.not_eq_false'] at kept
      refine List.Subset.trans ?_ (prependUserMessage_history _ _)
      simp [mergePersisted, kept.2]
  | updated => exact mergeStatusUpdate_history _ _

/-! ### The artifacts -/

/-- The task has an artifact with the id, and the part in it. -/
def holdsPart (artifactId : String) (part : Part) (task : Task) : Prop :=
  ∃ artifact ∈ task.artifacts, artifact.artifactId = artifactId ∧ part ∈ artifact.parts

theorem mergeArtifacts_holds {persisted incoming : List Artifact} {artifact : Artifact}
    (stored : artifact ∈ persisted)
    (kept : incoming.any (fun other => other.artifactId = artifact.artifactId) = false) :
    artifact ∈ mergeArtifacts persisted incoming := by
  have absent : incomingById incoming artifact.artifactId = none := by
    simpa [incomingById] using kept
  simp only [mergeArtifacts]
  split
  · rename_i empty
    rw [List.isEmpty_iff.mp empty] at stored
    cases stored
  · split
    · exact stored
    · exact List.mem_append_left _ (List.mem_map.mpr ⟨artifact, stored, by rw [absent]; rfl⟩)

/-- An artifact of the list is kept by an update of another one, and extended by an append. -/
theorem updateArtifacts_holds {artifacts : List Artifact} {artifact update : Artifact} {append : Bool}
    (stored : artifact ∈ artifacts)
    (kept : append = true ∨ update.artifactId ≠ artifact.artifactId) :
    ∃ after ∈ updateArtifacts append update artifacts,
      after.artifactId = artifact.artifactId ∧ artifact.parts ⊆ after.parts := by
  induction artifacts with
  | nil => cases stored
  | cons existing rest ih =>
      simp only [updateArtifacts]
      rcases List.mem_cons.mp stored with rfl | later
      · split
        · rename_i same
          rcases kept with rfl | differ
          · exact ⟨_, List.mem_cons_self, rfl, List.subset_append_left _ _⟩
          · exact absurd same.symm differ
        · exact ⟨artifact, List.mem_cons_self, rfl, List.Subset.refl _⟩
      · split
        · exact ⟨artifact, List.mem_cons_of_mem _ later, rfl, List.Subset.refl _⟩
        · obtain ⟨after, member, same, parts⟩ := ih later
          exact ⟨after, List.mem_cons_of_mem _ member, same, parts⟩

/-- The parts of an update are in the artifact it names. -/
theorem updateArtifacts_adds (artifacts : List Artifact) (update : Artifact) (append : Bool) :
    ∃ after ∈ updateArtifacts append update artifacts,
      after.artifactId = update.artifactId ∧ update.parts ⊆ after.parts := by
  induction artifacts with
  | nil => exact ⟨update, List.mem_cons_self, rfl, List.Subset.refl _⟩
  | cons existing rest ih =>
      simp only [updateArtifacts]
      split
      · rename_i same
        cases append with
        | true => exact ⟨_, List.mem_cons_self, same, List.subset_append_right _ _⟩
        | false => exact ⟨update, List.mem_cons_self, rfl, List.Subset.refl _⟩
      · obtain ⟨after, member, same, parts⟩ := ih
        exact ⟨after, List.mem_cons_of_mem _ member, same, parts⟩

theorem artifact_kept {artifactId : String} {part : Part} (applied : Applied task write after)
    (kept : write.replacesArtifact artifactId = false) (holds : holdsPart artifactId part task) :
    holdsPart artifactId part after := by
  obtain ⟨artifact, stored, rfl, present⟩ := holds
  cases applied with
  | appended | cancelled | skipped | updated => exact ⟨artifact, stored, rfl, present⟩
  | unnamed unnamed => simp [replacesArtifact, unnamed] at kept
  | @merged latestUserMessage data named =>
      simp only [replacesArtifact, Bool.or_eq_false_iff] at kept
      refine ⟨artifact, ?_, rfl, present⟩
      rw [prependUserMessage_artifacts]
      exact mergeArtifacts_holds stored kept.2
  | @extended latestUserMessage data update updates =>
      have spared : data.append = true ∨ update.artifactId ≠ artifact.artifactId := by
        simpa [replacesArtifact, updates, or_iff_not_imp_left] using kept
      obtain ⟨extended, member, same, parts⟩ := updateArtifacts_holds stored spared
      exact ⟨extended, member, same, parts present⟩

/-! ### The status -/

theorem status_kept (applied : Applied task write after) (kept : write.status = none) :
    after.status = task.status := by
  cases applied with
  | appended | skipped | extended => rfl
  | cancelled | unnamed | merged | updated => cases kept

/-! ### One write -/

/-- What is left of a write after later ones: everything they do not replace. -/
structure Survives (write : Write) (later : List Write) (task : Task) : Prop where
  message : ∀ message, write.message = some message →
    (∀ other ∈ later, other.replacesHistory = false) → message ∈ task.history
  artifact : ∀ artifact, write.artifact = some artifact →
    (∀ other ∈ later, other.replacesArtifact artifact.artifactId = false) →
    ∀ part ∈ artifact.parts, holdsPart artifact.artifactId part task
  status : ∀ status, write.status = some status → (∀ other ∈ later, other.status = none) →
    task.status = status

/-- A write that stores a task stores its own contribution. -/
theorem Enabled.contributes (enabled : write.Enabled taskId row)
    (identified : ∀ task, row = some task → task.id = taskId) (applied : write.apply row = some after) :
    write.Survives [] after where
  message message contributed _ := by
    cases write with
    | append own =>
        obtain ⟨task, rfl, rfl⟩ := Option.map_eq_some_iff.mp applied
        cases contributed
        exact List.mem_append_right _ List.mem_cons_self
    | cancel status =>
        obtain ⟨task, rfl, rfl⟩ := Option.map_eq_some_iff.mp applied
        exact List.mem_append_right _ (by simp [show status.message = some message from contributed])
    | event latestUserMessage merged => cases contributed
  artifact artifact contributed _ := by
    cases write with
    | append | cancel => cases contributed
    | event latestUserMessage merged =>
        cases merged with
        | message | task | statusUpdate => cases contributed
        | artifactUpdate data =>
            have named : data.artifact = some artifact := contributed
            have saves := enabled.2
            cases row with
            | none =>
                simp [AgentExecutionEvent.loads, ResultManager.mergeInto, named] at saves
            | some task =>
                cases apply_cases enabled.targets (identified task rfl) applied with
                | skipped skips => simp [skips] at saves
                | @extended _ _ update updates =>
                    cases updates.symm.trans named
                    obtain ⟨stored, member, same, parts⟩ :=
                      updateArtifacts_adds task.artifacts artifact data.append
                    exact fun part present => ⟨stored, member, same, parts present⟩
  status status contributed _ := by
    cases write with
    | append => cases contributed
    | cancel own =>
        obtain ⟨task, rfl, rfl⟩ := Option.map_eq_some_iff.mp applied
        exact Option.some.inj contributed
    | event latestUserMessage merged =>
        obtain ⟨stored, saves⟩ := Option.isSome_iff_exists.mp enabled.2
        rw [apply, saves] at applied
        cases applied
        simp only [Write.status] at contributed
        split at contributed
        · rename_i replaces
          cases contributed
          rcases ResultManager.mergeInto_status saves with ⟨_, same⟩ | ⟨keeps, _⟩
          · exact same
          · simp [replaces] at keeps
        · cases contributed

/-- And it is still there after writes that do not replace it. -/
theorem Survives.later {later : List Write} (survives : write.Survives [] task)
    (identified : task.id = taskId) (targets : ∀ other ∈ later, other.Targets taskId) :
    ∃ after, later.foldl Write.apply (some task) = some after ∧ write.Survives later after := by
  have keeps : ∀ property : Task → Prop,
      (∀ other ∈ later, ∀ task after, Applied task other after → property task → property after) →
      property task → ∃ after, later.foldl Write.apply (some task) = some after ∧ property after :=
    fun property kept => foldl_keeps property targets
      (fun other member task after named target applied =>
        kept other member task after (apply_cases target named applied)) identified
  obtain ⟨after, folded, _⟩ := keeps (fun _ => True) (fun _ _ _ _ _ _ => trivial) trivial
  refine ⟨after, folded, ?_, ?_, ?_⟩
  · intro message contributed kept
    obtain ⟨same, refolded, present⟩ := keeps (fun task => message ∈ task.history)
      (fun other member _ _ applied => fun present => history_kept applied (kept other member) present)
      (survives.message message contributed (by simp))
    cases folded.symm.trans refolded
    exact present
  · intro artifact contributed kept part part_mem
    obtain ⟨same, refolded, present⟩ := keeps (holdsPart artifact.artifactId part)
      (fun other member _ _ applied => artifact_kept applied (kept other member))
      (survives.artifact artifact contributed (by simp) part part_mem)
    cases folded.symm.trans refolded
    exact present
  · intro status contributed kept
    obtain ⟨same, refolded, present⟩ := keeps (fun task => task.status = status)
      (fun other member _ _ applied => (status_kept applied (kept other member)).trans)
      (survives.status status contributed (by simp))
    cases folded.symm.trans refolded
    exact present

end Write

variable {handler : Handler} {state : State}

/-- No lost update: a row is its writes performed one after the other, and each of them is
still in it. -/
theorem contributions_survive {taskStore : InMemoryTaskStore}
    {pushNotificationStore : InMemoryPushNotificationStore} {taskIdToBus : String → Option BusId}
    {labels : List Label} (scope : Scope) (taskId : String)
    (runs : (handlerSystem handler).Runs (SavesExclusively handler)
      (.initial taskStore pushNotificationStore taskIdToBus) labels state) :
    state.row scope taskId =
        (rowWrites state.writes scope taskId).foldl Write.apply (taskStore.load scope taskId) ∧
      ∀ before write after, rowWrites state.writes scope taskId = before ++ write :: after →
        ∃ task, state.row scope taskId = some task ∧ write.Survives after task := by
  have serial := State.register_serial scope taskId runs
  refine ⟨serial.content, fun before write after split => ?_⟩
  have targets : ∀ other ∈ before ++ write :: after, other.Targets taskId := by
    intro other member
    obtain ⟨first, last, sameSplit⟩ := List.append_of_mem (split ▸ member)
    exact (serial.logged first other last sameSplit).targets
  simp only [List.forall_mem_append, List.forall_mem_cons] at targets
  have identified : ∀ task, before.foldl Write.apply (taskStore.load scope taskId) = some task →
      task.id = taskId := fun task =>
    Write.foldl_id targets.1 (fun _ loaded => taskStore.load_id loaded)
  have enabled := serial.logged before write after split
  obtain ⟨task, applied⟩ := enabled.applies
  obtain ⟨final, folded, survives⟩ := (enabled.contributes identified applied).later
    (Write.apply_id enabled.targets identified applied) targets.2.2
  refine ⟨final, ?_, survives⟩
  have content : state.row scope taskId = _ := serial.content
  rw [content, show (state.register handler scope taskId).log = _ from split, List.foldl_append,
    List.foldl_cons, applied, folded]

section

open Scenario

/-- `SavesExclusively`, for a state whose calls are all among `pids`. -/
def savesExclusively (handler : Handler) (pids : List Pid) (state : State) (label : Label) : Bool :=
  pids.contains label.pid &&
    match label.action with
    | .resume .ok =>
        (state.pending handler label.pid).all fun held =>
          pids.all fun other =>
            other = label.pid || (state.pending handler other).all fun lagging =>
              lagging.scope ≠ held.scope || lagging.task.id ≠ held.task.id
    | _ => true

theorem savesExclusively_sound {pids : List Pid} (state : State) (label : Label)
    (within : Within pids state) (passed : savesExclusively handler pids state label = true) :
    SavesExclusively handler state label := by
  intro resumed held holds other lagging differ lags sameScope sameRow
  simp only [savesExclusively, resumed, Bool.and_eq_true, holds, Option.all_some,
    List.all_eq_true] at passed
  have listed : other ∈ pids := by
    obtain ⟨record, present, _⟩ := Option.bind_eq_some_iff.mp lags
    exact within other record present
  simpa [differ, lags, sameScope, sameRow] using passed.2 other listed

/-- A follow-up message between the events of the first run. -/
def followUpSchedule : List Label :=
  [calls 0 (.sendMessage (params (message "m" "") false)) (context "tenant" "user") "T"] ++
    resumes 0 1 ++
    [publishes 0 0 (taskEvent "T" .working), publishes 0 1 (artifactEvent "T" "a" "x" true)] ++
    resumes 0 8 ++
    [calls 1 (.sendMessage (params (message "m2" "T") false)) (context "tenant" "user") ""] ++
    resumes 1 2

theorem contributions_survive_followUp :
    ∃ state first update last,
      (handlerSystem (server false)).Runs (SavesExclusively (server false)) (seeded ⟨"", ""⟩ [])
        followUpSchedule state ∧
      rowWrites state.writes ⟨"tenant", "user"⟩ "T" = [first, update, last] ∧
      update.artifact.map Artifact.artifactId = some "a" ∧
      last.message.map Message.messageId = some "m2" ∧
      ∃ task, state.row ⟨"tenant", "user"⟩ "T" = some task ∧ update.Survives [last] task := by
  have ran : ((handlerSystem (server false)).checkedRun (savesExclusively (server false) [0, 1])
        (seeded ⟨"", ""⟩ []) followUpSchedule).map (fun state =>
      (rowWrites state.writes ⟨"tenant", "user"⟩ "T").map fun write =>
        (write.artifact.map Artifact.artifactId, write.message.map Message.messageId)) =
      some [(none, none), (some "a", none), (none, some "m2")] := by
    decide
  obtain ⟨state, completed, facts⟩ := Option.map_eq_some_iff.mp ran
  have runs := System.runs_of_checkedRun savesExclusively_sound
    (fun within passed stepped => within_step within (by
      simp only [savesExclusively, Bool.and_eq_true] at passed
      exact passed.1) stepped) (within_seeded _ _ _) completed
  obtain ⟨first, others, written, _, rest⟩ := List.map_eq_cons_iff.mp facts
  obtain ⟨update, others, rfl, updates, rest⟩ := List.map_eq_cons_iff.mp rest
  obtain ⟨last, others, rfl, appends, rest⟩ := List.map_eq_cons_iff.mp rest
  cases List.map_eq_nil_iff.mp rest
  exact ⟨state, first, update, last, runs, written, congrArg Prod.fst updates,
    congrArg Prod.snd appends,
    (contributions_survive _ _ runs).2 [first] update [last] written⟩

/-- A follow-up message that loads the task before an artifact is merged, and saves it after. -/
def overwritingSchedule : List Label :=
  [calls 0 (.sendMessage (params (message "m" "") false)) (context "tenant" "user") "T"] ++
    resumes 0 1 ++ [publishes 0 0 (taskEvent "T" .working)] ++ resumes 0 4 ++
    [calls 1 (.sendMessage (params (message "m2" "T") false)) (context "tenant" "user") ""] ++
    resumes 1 1 ++ [publishes 0 1 (artifactEvent "T" "a" "x" true)] ++ resumes 0 4

/-- The follow-up's save takes the applied artifact out of the row again. -/
theorem stale_history_save_loses_artifact :
    ∃ state later,
      (handlerSystem (server false)).run (seeded ⟨"", ""⟩ []) overwritingSchedule = some state ∧
      (handlerSystem (server false)).run state (resumes 1 1) = some later ∧
      (state.row ⟨"tenant", "user"⟩ "T").map (fun task =>
        (task.state, task.artifacts.map Artifact.artifactId)) = some (some .working, ["a"]) ∧
      (later.row ⟨"tenant", "user"⟩ "T").map (fun task =>
        (task.state, task.artifacts.map Artifact.artifactId)) = some (some .working, []) := by
  have ran : ((handlerSystem (server false)).run (seeded ⟨"", ""⟩ []) overwritingSchedule).bind
      (fun state => ((handlerSystem (server false)).run state (resumes 1 1)).map fun later =>
        ((state.row ⟨"tenant", "user"⟩ "T").map (fun task =>
            (task.state, task.artifacts.map Artifact.artifactId)),
          (later.row ⟨"tenant", "user"⟩ "T").map (fun task =>
            (task.state, task.artifacts.map Artifact.artifactId)))) =
      some (some (some .working, ["a"]), some (some .working, [])) := by decide
  obtain ⟨state, ranFirst, rest⟩ := Option.bind_eq_some_iff.mp ran
  obtain ⟨later, ranRest, facts⟩ := Option.map_eq_some_iff.mp rest
  simp only [Prod.mk.injEq] at facts
  exact ⟨state, later, ranFirst, ranRest, facts.1, facts.2⟩

end

end A2A.Server
