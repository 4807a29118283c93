import A2A.Server.Semantics.Serial

namespace A2A.Server

/-! What a single write makes of a row.

`Applied` has one constructor for each kind of write; what all the writes of a
row keep follows from it by induction over the log.
-/

namespace Write

/-- The write is about the row `taskId`. -/
def Targets (taskId : String) : Write → Prop
  | .event _ merged => merged.target = some taskId
  | .append _ | .cancel _ => True

variable {taskId : String} {write : Write} {task after : Task} {row : Option Task}

theorem Enabled.targets (enabled : write.Enabled taskId row) : write.Targets taskId := by
  cases write with
  | event latestUserMessage merged => exact enabled.1
  | _ => trivial

theorem prependUserMessage_artifacts (latestUserMessage : Option Message) (task : Task) :
    (prependUserMessage latestUserMessage task).artifacts = task.artifacts := by
  simp only [prependUserMessage]
  split
  · rfl
  · split <;> rfl

/-- A task event with an id is merged with the row of that id. -/
theorem loads_task {data : Task} (named : data.id ≠ "") :
    (AgentExecutionEvent.task data).loads row = row := by
  simp [AgentExecutionEvent.loads, ResultManager.needsLoad, named]

theorem apply_exists (write : Write) (task : Task) : ∃ after, write.apply (some task) = some after := by
  cases write with
  | append message => exact ⟨_, rfl⟩
  | cancel status => exact ⟨_, rfl⟩
  | event latestUserMessage merged =>
      simp only [apply]
      cases ResultManager.mergeInto latestUserMessage (merged.loads (some task)) merged with
      | some after => exact ⟨after, rfl⟩
      | none => exact ⟨task, rfl⟩

theorem Enabled.applies (enabled : write.Enabled taskId row) : ∃ after, write.apply row = some after := by
  cases write with
  | append message | cancel status =>
      obtain ⟨task, rfl⟩ := Option.isSome_iff_exists.mp enabled
      exact ⟨_, rfl⟩
  | event latestUserMessage merged =>
      obtain ⟨after, saves⟩ := Option.isSome_iff_exists.mp enabled.2
      exact ⟨after, by rw [apply, saves]; rfl⟩

theorem apply_id (targets : write.Targets taskId)
    (identified : ∀ task, row = some task → task.id = taskId) (applied : write.apply row = some after) :
    after.id = taskId := by
  cases write with
  | append message | cancel status =>
      obtain ⟨task, rfl, rfl⟩ := Option.map_eq_some_iff.mp applied
      exact identified task rfl
  | event latestUserMessage merged =>
      cases merges : ResultManager.mergeInto latestUserMessage (merged.loads row) merged with
      | some stored =>
          rw [apply, merges] at applied
          cases applied
          exact (Option.some.inj (targets.symm.trans (ResultManager.mergeInto_target merges))).symm
      | none =>
          rw [apply, merges] at applied
          exact identified after applied

theorem foldl_id {writes : List Write} (targets : ∀ write ∈ writes, write.Targets taskId)
    (identified : ∀ task, row = some task → task.id = taskId)
    (folded : writes.foldl Write.apply row = some task) : task.id = taskId := by
  induction writes generalizing row with
  | nil => exact identified task folded
  | cons write rest ih =>
      exact ih (fun write member => targets write (List.mem_cons_of_mem _ member))
        (fun _ applied => apply_id (targets write List.mem_cons_self) identified applied) folded

/-- What every write of a row keeps is kept by all of them. -/
theorem foldl_keeps (property : Task → Prop) {writes : List Write}
    (targets : ∀ write ∈ writes, write.Targets taskId)
    (keeps : ∀ write ∈ writes, ∀ task after, task.id = taskId → write.Targets taskId →
      write.apply (some task) = some after → property task → property after)
    (identified : task.id = taskId) (holds : property task) :
    ∃ after, writes.foldl Write.apply (some task) = some after ∧ property after := by
  induction writes generalizing task with
  | nil => exact ⟨task, rfl, holds⟩
  | cons write rest ih =>
      obtain ⟨next, applied⟩ := write.apply_exists task
      have target := targets write List.mem_cons_self
      have named : next.id = taskId := apply_id target (by rintro _ ⟨⟩; exact identified) applied
      have kept := keeps write List.mem_cons_self task next identified target applied holds
      rw [List.foldl_cons, applied]
      exact ih (fun write member => targets write (List.mem_cons_of_mem _ member))
        (fun write member => keeps write (List.mem_cons_of_mem _ member)) named kept

/-- What a write makes of a row that holds a task. -/
inductive Applied (task : Task) : Write → Task → Prop
  | appended {message} : Applied task (.append message) (Call.appendHistory task message)
  | cancelled {status} : Applied task (.cancel status) (Call.cancelTask task status)
  | skipped {latestUserMessage event} :
      ResultManager.mergeInto latestUserMessage (event.loads (some task)) event = none →
      Applied task (.event latestUserMessage event) task
  | unnamed {latestUserMessage data} : data.id = "" →
      Applied task (.event latestUserMessage (.task data)) (prependUserMessage latestUserMessage data)
  | merged {latestUserMessage data} : data.id ≠ "" →
      Applied task (.event latestUserMessage (.task data))
        (prependUserMessage latestUserMessage (mergePersisted task data))
  | updated {latestUserMessage data} :
      Applied task (.event latestUserMessage (.statusUpdate data)) (mergeStatusUpdate task data)
  | extended {latestUserMessage data artifact} : data.artifact = some artifact →
      Applied task (.event latestUserMessage (.artifactUpdate data))
        (mergeArtifactUpdate task data.append artifact)

theorem apply_cases (targets : write.Targets taskId) (identified : task.id = taskId)
    (applied : write.apply (some task) = some after) : Applied task write after := by
  cases write with
  | append message => cases applied; exact .appended
  | cancel status => cases applied; exact .cancelled
  | event latestUserMessage merged =>
      cases merges : ResultManager.mergeInto latestUserMessage (merged.loads (some task)) merged with
      | none =>
          rw [apply, merges] at applied
          cases applied
          exact .skipped merges
      | some stored =>
          rw [apply, merges] at applied
          cases applied
          have loads : ∀ {loaded}, merged.loads (some task) = some loaded → loaded = task := by
            intro loaded read
            simp only [AgentExecutionEvent.loads] at read
            split at read <;> cases read
            rfl
          cases merged with
          | message data => cases merges
          | task data =>
              have same : task.id = data.id := identified.trans (Option.some.inj targets).symm
              by_cases named : data.id = ""
              · simp only [AgentExecutionEvent.loads, ResultManager.needsLoad, named, bne_self_eq_false,
                  Bool.false_eq_true, if_false] at merges
                cases merges
                exact .unnamed named
              · rw [loads_task named] at merges
                simp only [ResultManager.mergeInto, mergeTaskEvent, if_pos same] at merges
                cases merges
                exact .merged named
          | statusUpdate data =>
              obtain ⟨loaded, read, rest⟩ := Option.bind_eq_some_iff.mp merges
              cases loads read
              split at rest <;> cases rest
              exact .updated
          | artifactUpdate data =>
              obtain ⟨artifact, named, rest⟩ := Option.bind_eq_some_iff.mp merges
              obtain ⟨loaded, read, kept⟩ := Option.bind_eq_some_iff.mp rest
              cases loads read
              split at kept <;> cases kept
              exact .extended named

end Write

end A2A.Server
