import A2A.Server.ManagerPool
import A2A.Server.Properties.LostUpdates

namespace A2A.Server

open Library

/-! What a row never loses while only `ResultManager`s of one scope write it.

The chains of `serializeByScope` make every row a register under mutual
exclusion, so each save stores the merge of its event with the row it replaces.
-/

def hasArtifact (task : Task) (artifactId : String) : Bool :=
  task.artifacts.any (fun artifact => artifact.artifactId = artifactId)

def hasMetadata (task : Task) (key : String) : Bool :=
  ((task.metadata.getD .empty).get? key).isSome

/-- The row keeps its artifact ids and its metadata keys. -/
structure Extends (before after : Option Task) : Prop where
  artifacts : ∀ task artifactId, before = some task → hasArtifact task artifactId = true →
    ∃ next, after = some next ∧ hasArtifact next artifactId = true
  metadata : ∀ task key, before = some task → hasMetadata task key = true →
    ∃ next, after = some next ∧ hasMetadata next key = true

theorem Extends.refl (row : Option Task) : Extends row row :=
  ⟨fun task _ stored present => ⟨task, stored, present⟩,
    fun task _ stored present => ⟨task, stored, present⟩⟩

theorem Extends.trans {first second third : Option Task} (before : Extends first second)
    (after : Extends second third) : Extends first third := by
  constructor
  · intro task artifactId stored present
    obtain ⟨next, kept, still⟩ := before.artifacts task artifactId stored present
    exact after.artifacts next artifactId kept still
  · intro task key stored present
    obtain ⟨next, kept, still⟩ := before.metadata task key stored present
    exact after.metadata next key kept still

section Merges

variable {task after : Task} {artifactId key : String}

theorem incomingById_id {incoming : List Artifact} {artifact : Artifact}
    (found : incomingById incoming artifactId = some artifact) : artifact.artifactId = artifactId := by
  have named := List.find?_some found
  simpa using named

theorem mergeArtifacts_keeps {persisted incoming : List Artifact}
    (present : persisted.any (fun artifact => artifact.artifactId = artifactId) = true) :
    (mergeArtifacts persisted incoming).any
      (fun artifact => artifact.artifactId = artifactId) = true := by
  obtain ⟨stored, member, named⟩ := List.any_eq_true.mp present
  have same : stored.artifactId = artifactId := by simpa using named
  simp only [mergeArtifacts]
  split
  · rename_i empty
    rw [List.isEmpty_iff.mp empty] at member
    cases member
  · split
    · exact present
    · refine List.any_eq_true.mpr ⟨(incomingById incoming stored.artifactId).getD stored,
        List.mem_append_left _ (List.mem_map.mpr ⟨stored, member, rfl⟩), ?_⟩
      cases found : incomingById incoming stored.artifactId with
      | none => simpa using same
      | some artifact => simpa using (incomingById_id found).trans same

theorem updateArtifacts_keeps {artifacts : List Artifact} {append : Bool} {update : Artifact}
    (present : artifacts.any (fun artifact => artifact.artifactId = artifactId) = true) :
    (updateArtifacts append update artifacts).any
      (fun artifact => artifact.artifactId = artifactId) = true := by
  induction artifacts with
  | nil => cases present
  | cons existing rest ih =>
      simp only [List.any_cons, Bool.or_eq_true, decide_eq_true_eq] at present
      simp only [updateArtifacts]
      split
      · rename_i same
        rcases present with named | later
        · cases append <;> simp [appendToArtifact, ← same, named]
        · simp [later]
      · rcases present with named | later
        · simp [named]
        · simp [ih later]

theorem mergeMetadata_keeps {persisted incoming : Option Metadata}
    (present : ((persisted.getD .empty).get? key).isSome = true) :
    (((mergeMetadata persisted incoming).getD .empty).get? key).isSome = true := by
  cases persisted with
  | none => simp at present
  | some metadata =>
      cases incoming <;> exact OrderedMap.isSome_get?_overlay _ _ present

/-- The merge of a task event ends with the user's message in the history. -/
theorem prependUserMessage_present (latest : Message) (task : Task) :
    hasMessage (prependUserMessage (some latest) task).history latest.messageId = true := by
  simp only [prependUserMessage]
  split
  · rename_i present
    exact present
  · simp [hasMessage]

end Merges

namespace Write

variable {task after : Task} {write : Write} {taskId : String}

/-- No write but an unnamed task event takes an artifact id or a metadata key from its row. -/
theorem Applied.extends (applied : Applied task write after) (named : taskId ≠ "")
    (targets : write.Targets taskId) : Extends (some task) (some after) := by
  have kept : (∀ artifactId, hasArtifact task artifactId = true →
      hasArtifact after artifactId = true) →
      (∀ key, hasMetadata task key = true → hasMetadata after key = true) →
      Extends (some task) (some after) := by
    intro artifacts metadata
    exact ⟨by rintro _ artifactId ⟨⟩ present; exact ⟨after, rfl, artifacts artifactId present⟩,
      by rintro _ key ⟨⟩ present; exact ⟨after, rfl, metadata key present⟩⟩
  cases applied with
  | appended | cancelled | skipped | updated =>
      exact kept (fun _ present => present) (fun _ present => present)
  | unnamed unnamed => exact absurd ((Option.some.inj targets).symm.trans unnamed) named
  | @merged latestUserMessage data =>
      refine kept (fun artifactId present => ?_) (fun key present => ?_)
      · rw [hasArtifact, prependUserMessage_artifacts]
        exact mergeArtifacts_keeps present
      · rw [hasMetadata, ResultManager.prependUserMessage_metadata]
        exact mergeMetadata_keeps present
  | extended =>
      exact kept (fun _ present => updateArtifacts_keeps present) (fun _ present => present)

end Write

namespace ManagerPool

variable {pool : PoolContext} {state next : ManagerPool} {action : Action} {actions : List Action}
  {id other : SectionId} {entry : Section} {taskId : String}

def SectionPhase.held : SectionPhase → Option (Task × Write)
  | .saving task write => some (task, write)
  | .waiting | .returned | .rejected _ => none

/-- What a section holds between its merge and its save. -/
def held (state : ManagerPool) (id : SectionId) : Option (Task × Write) :=
  state.sections[id]?.bind fun entry => SectionPhase.held entry.phase

/-- The write that a section's merge amounts to. -/
def merge (state : ManagerPool) (entry : Section) : Write :=
  .event (state.managers entry.manager).latestUserMessage entry.event

/-- What one step makes of the pool. -/
inductive Stepped (pool : PoolContext) (state : ManagerPool) : Action → ManagerPool → Prop
  | asked (phase : SectionPhase) {manager : ManagerId} {event : AgentExecutionEvent}
      {next : ManagerPool} : SectionPhase.held phase = none →
      next.sections = state.sections ++ [⟨manager, event, phase⟩] →
      next.taskStore = state.taskStore → next.writes = state.writes →
      (∀ key first, (state.locks key).head? = some first → (next.locks key).head? = some first) →
      (∀ manager, (next.managers manager).latestUserMessage =
        (state.managers manager).latestUserMessage) →
      Stepped pool state (.processEvent manager event) next
  | merged {id : SectionId} {entry : Section} {task : Task} {next : ManagerPool} :
      state.sections[id]? = some entry → entry.phase = .waiting →
      state.runs (pool.key entry.event) id = true → entry.event.target = some task.id →
      ResultManager.mergeInto (state.managers entry.manager).latestUserMessage
        (entry.event.loads (state.row pool task.id)) entry.event = some task →
      next.sections = state.sections.set id
        { entry with phase := .saving task (state.merge entry) } →
      next.taskStore = state.taskStore → next.writes = state.writes → next.locks = state.locks →
      (∀ manager, (next.managers manager).latestUserMessage =
        (state.managers manager).latestUserMessage) →
      Stepped pool state (.load id .ok) next
  | left (phase : SectionPhase) {id : SectionId} {entry : Section} {action : Action}
      {next : ManagerPool} : state.sections[id]? = some entry → SectionPhase.held phase = none →
      next.sections = state.sections.set id { entry with phase } →
      next.taskStore = state.taskStore → next.writes = state.writes →
      (∀ key first, first ≠ id → (state.locks key).head? = some first →
        (next.locks key).head? = some first) →
      (∀ manager, (next.managers manager).latestUserMessage =
        (state.managers manager).latestUserMessage) →
      (∀ save, action ≠ .save save .ok) → Stepped pool state action next
  | stored {id : SectionId} {entry : Section} {task : Task} {write : Write} {next : ManagerPool} :
      state.sections[id]? = some entry → entry.phase = .saving task write →
      next.sections = state.sections.set id { entry with phase := .returned } →
      next.taskStore = state.taskStore.save pool.scope task →
      next.writes = state.writes ++ [(task.id, write)] →
      (∀ key first, first ≠ id → (state.locks key).head? = some first →
        (next.locks key).head? = some first) →
      next.managers = state.managers → Stepped pool state (.save id .ok) next

theorem acquire_head (key : Option String) {name : String} {first : SectionId}
    (heads : (state.locks name).head? = some first) :
    ((state.acquire key id).locks name).head? = some first := by
  cases key with
  | none => exact heads
  | some key =>
      by_cases same : name = key
      · subst same
        simp [acquire, heads]
      · simpa [acquire, Function.update_of_ne same] using heads

theorem release_head (key : Option String) {name : String} {first : SectionId} (differ : first ≠ id)
    (heads : (state.locks name).head? = some first) :
    ((state.release key id).locks name).head? = some first := by
  cases key with
  | none => exact heads
  | some key =>
      by_cases same : name = key
      · subst same
        obtain ⟨rest, chain⟩ := List.head?_eq_some_iff.mp heads
        simp [release, chain, List.erase_cons_tail, differ]
      · simpa [release, Function.update_of_ne same] using heads

section

variable {key : Option String}

@[simp] theorem acquire_sections : (state.acquire key id).sections = state.sections := by
  cases key <;> rfl
@[simp] theorem acquire_taskStore : (state.acquire key id).taskStore = state.taskStore := by
  cases key <;> rfl
@[simp] theorem acquire_writes : (state.acquire key id).writes = state.writes := by
  cases key <;> rfl
@[simp] theorem acquire_managers : (state.acquire key id).managers = state.managers := by
  cases key <;> rfl
@[simp] theorem release_sections : (state.release key id).sections = state.sections := by
  cases key <;> rfl
@[simp] theorem release_taskStore : (state.release key id).taskStore = state.taskStore := by
  cases key <;> rfl
@[simp] theorem release_writes : (state.release key id).writes = state.writes := by
  cases key <;> rfl
@[simp] theorem release_managers : (state.release key id).managers = state.managers := by
  cases key <;> rfl

end

theorem setManager_latest {manager : ManagerId} {result : ResultManager}
    (same : result.latestUserMessage = (state.managers manager).latestUserMessage)
    (other : ManagerId) :
    ((state.setManager manager result).managers other).latestUserMessage =
      (state.managers other).latestUserMessage := by
  by_cases touched : other = manager
  · subst touched
    simpa [setManager] using same
  · simp [setManager, Function.update_of_ne touched]

theorem loadFailed_stepped {error : String} (found : state.sections[id]? = some entry)
    (unsaved : ∀ save, action ≠ .save save .ok) :
    Stepped pool state action (state.loadFailed pool id entry error) :=
  .left (.rejected error) found rfl (by simp [loadFailed, setSection])
    (by simp [loadFailed, setSection]) (by simp [loadFailed, setSection])
    (fun key first differ heads => release_head _ differ heads)
    (fun manager => by simp [loadFailed, setSection]) unsaved

theorem loaded_stepped (found : state.sections[id]? = some entry) (waiting : entry.phase = .waiting)
    (running : state.runs (pool.key entry.event) id = true) :
    Stepped pool state (.load id .ok) (state.loaded pool id entry) := by
  simp only [loaded]
  cases result : (state.managers entry.manager).merge
    (if ResultManager.needsLoad entry.event then entry.event.target.bind (state.row pool) else none)
      entry.event with
  | mk manager saves =>
      have latest : manager.latestUserMessage =
          (state.managers entry.manager).latestUserMessage := by
        have same := ResultManager.merge_latestUserMessage (state.managers entry.manager)
          (if ResultManager.needsLoad entry.event then entry.event.target.bind (state.row pool)
            else none) entry.event
        rwa [result] at same
      cases saves with
      | false =>
          exact .left .returned found rfl (by simp [setSection, setManager])
            (by simp [setSection, setManager]) (by simp [setSection, setManager])
            (fun key first differ heads => release_head _ differ heads)
            (fun other => by simpa [setSection] using setManager_latest latest other) nofun
      | true =>
          obtain ⟨task, current, target⟩ := ResultManager.merge_saves result
          have merges := (ResultManager.merge_saved result).symm.trans current
          simp only [current, latest]
          refine .merged found waiting running target ?_ rfl rfl rfl rfl
            (fun other => setManager_latest latest other)
          rw [target] at merges
          exact merges

theorem step_cases (stepped : state.step pool action = some next) :
    Stepped pool state action next := by
  cases action with
  | processEvent manager event =>
      cases stepped
      simp only [processEvent]
      split
      · refine .asked .returned rfl rfl rfl rfl (fun _ _ heads => heads) ?_
        exact setManager_latest (ResultManager.merge_latestUserMessage _ _ _)
      · exact .asked .waiting rfl (by simp) (by simp) (by simp)
          (fun key first heads => acquire_head _ heads) (fun _ => by simp)
  | load id fate =>
      simp only [step] at stepped
      split at stepped
      · cases stepped
      · rename_i entry found
        split at stepped
        · rename_i waiting
          split at stepped
          · rename_i running
            cases fate with
            | ok => cases stepped; exact loaded_stepped found waiting running
            | fail error =>
                simp only at stepped
                split at stepped
                · cases stepped
                  exact loadFailed_stepped found nofun
                · cases stepped
          · cases stepped
        · cases stepped
  | save id fate =>
      simp only [step] at stepped
      split at stepped
      · cases stepped
      · rename_i entry found
        split at stepped
        · rename_i task write saving
          cases fate with
          | ok =>
              cases stepped
              exact .stored found saving (by simp [saved, setSection]) (by simp [saved, setSection])
                (by simp [saved, setSection]) (fun key first differ heads => release_head _ differ heads)
                (by simp [saved, setSection])
          | fail error =>
              cases stepped
              exact loadFailed_stepped found (by simp)
        · cases stepped

/-- Events come with a task id, as `processEvent` needs for its lock. -/
def Named (_ : ManagerPool) : Action → Prop
  | .processEvent _ event => event.target ≠ some ""
  | .load _ _ | .save _ _ => True

/-- A section that saves runs first in the chain of its task, and holds what it merged. -/
structure Chained (pool : PoolContext) (state : ManagerPool) : Prop where
  named : ∀ (id : SectionId) (entry : Section), state.sections[id]? = some entry →
    entry.event.target ≠ some ""
  merged : ∀ (id : SectionId) (entry : Section) (task : Task) (write : Write),
    state.sections[id]? = some entry → entry.phase = .saving task write →
    entry.event.target = some task.id ∧ write = state.merge entry
  first : ∀ (id : SectionId) (entry : Section) (task : Task) (write : Write),
    state.sections[id]? = some entry → entry.phase = .saving task write →
    (state.locks (lockKey pool.context task.id)).head? = some id

theorem chained_initial (pool : PoolContext) (taskStore : InMemoryTaskStore)
    (managers : ManagerId → ResultManager) : Chained pool (initial taskStore managers) where
  named := by simp [initial]
  merged := by simp [initial]
  first := by simp [initial]

theorem sections_set {after : Section} (found : state.sections[id]? = some entry)
    (sections : next.sections = state.sections.set id after) :
    next.sections[other]? = if other = id then some after else state.sections[other]? := by
  have bound : id < state.sections.length := (List.getElem?_eq_some_iff.mp found).1
  rw [sections, List.getElem?_set]
  by_cases same : id = other
  · subst same
    simp [bound]
  · simp [same, Ne.symm same]

theorem sections_snoc {last : Section} (sections : next.sections = state.sections ++ [last])
    (found : next.sections[id]? = some entry) :
    state.sections[id]? = some entry ∨ entry = last := by
  rw [sections, List.getElem?_append] at found
  split at found
  · exact .inl found
  · rw [List.getElem?_singleton] at found
    split at found
    · exact .inr (Option.some.inj found).symm
    · cases found

theorem merge_same {after : ManagerPool}
    (latest : ∀ manager, (after.managers manager).latestUserMessage =
      (state.managers manager).latestUserMessage) : after.merge entry = state.merge entry := by
  simp [merge, latest]

/-- A section of a named event runs only when its task's chain lets it. -/
theorem Chained.runs (chained : Chained pool state) (found : state.sections[id]? = some entry)
    (target : entry.event.target = some taskId) (running : state.runs (pool.key entry.event) id = true) :
    (state.locks (lockKey pool.context taskId)).head? = some id := by
  have named : taskId ≠ "" := fun empty => chained.named id entry found (empty ▸ target)
  simpa [ManagerPool.runs, PoolContext.key, target, named] using running

/-- A section that moves on in its place. -/
theorem Chained.moved (chained : Chained pool state) {phase : SectionPhase}
    (found : state.sections[id]? = some entry)
    (sections : next.sections = state.sections.set id { entry with phase })
    (latest : ∀ manager, (next.managers manager).latestUserMessage =
      (state.managers manager).latestUserMessage)
    (saves : ∀ task write, phase = .saving task write →
      entry.event.target = some task.id ∧ write = state.merge entry ∧
        (next.locks (lockKey pool.context task.id)).head? = some id)
    (heads : ∀ key first, first ≠ id → (state.locks key).head? = some first →
      (next.locks key).head? = some first) : Chained pool next where
  named other record present := by
    rw [sections_set found sections] at present
    split at present
    · cases present
      exact chained.named id entry found
    · exact chained.named other record present
  merged other record task write present saving := by
    rw [merge_same latest]
    rw [sections_set found sections] at present
    split at present
    · cases present
      obtain ⟨target, merged, -⟩ := saves task write saving
      exact ⟨target, merged⟩
    · exact chained.merged other record task write present saving
  first other record task write present saving := by
    rw [sections_set found sections] at present
    split at present
    · rename_i touched
      subst touched
      cases present
      exact (saves task write saving).2.2
    · rename_i differ
      exact heads _ other differ (chained.first other record task write present saving)

theorem chained_step (chained : Chained pool state) (permitted : Named state action)
    (stepped : state.step pool action = some next) : Chained pool next := by
  cases step_cases stepped with
  | @asked phase manager event _ idle sections _ _ heads latest =>
      refine ⟨?_, ?_, ?_⟩
      · intro id entry found
        rcases sections_snoc sections found with earlier | rfl
        · exact chained.named id entry earlier
        · exact permitted
      · intro id entry task write found saving
        rcases sections_snoc sections found with earlier | rfl
        · rw [merge_same latest]
          exact chained.merged id entry task write earlier saving
        · cases saving
          cases idle
      · intro id entry task write found saving
        rcases sections_snoc sections found with earlier | rfl
        · exact heads _ id (chained.first id entry task write earlier saving)
        · cases saving
          cases idle
  | @merged id entry task _ found waiting running target merges sections _ _ locks latest =>
      refine chained.moved found sections latest (fun held write saving => ?_) fun key first _ heads => locks ▸ heads
      cases saving
      exact ⟨target, rfl, locks ▸ chained.runs found target running⟩
  | @left phase id entry _ _ found idle sections _ _ heads latest =>
      refine chained.moved found sections latest (fun task write saving => ?_) heads
      rw [saving] at idle
      cases idle
  | @stored id entry task write _ found saving sections _ _ heads managers =>
      refine chained.moved found sections (fun manager => by rw [managers]) (fun held write saves => ?_) heads
      cases saves

/-! Each row is a register. -/

def register (pool : PoolContext) (state : ManagerPool) (taskId : String) :
    Register (Option Task) Write SectionId where
  content := state.row pool taskId
  hands := fun id => (state.held id).bind fun copy =>
    if copy.1.id = taskId then some (some copy.1, copy.2) else none
  log := (state.writes.filter (fun saved => saved.1 = taskId)).map Prod.snd

theorem held_of (found : state.sections[id]? = some entry) :
    state.held id = SectionPhase.held entry.phase := by
  simp [held, found]

theorem held_cases {copy : Task × Write} (holds : state.held id = some copy) :
    ∃ entry, state.sections[id]? = some entry ∧ entry.phase = .saving copy.1 copy.2 := by
  obtain ⟨entry, found, saving⟩ := Option.bind_eq_some_iff.mp holds
  refine ⟨entry, found, ?_⟩
  cases phase : entry.phase <;> simp [phase, SectionPhase.held] at saving
  rw [← saving]

theorem held_set {after : Section} (found : state.sections[id]? = some entry)
    (sections : next.sections = state.sections.set id after) :
    next.held = Function.update state.held id (SectionPhase.held after.phase) := by
  funext other
  rw [held, sections_set found sections]
  by_cases same : other = id
  · subst same
    simp
  · simp [same, held]

theorem hands_set {phase : SectionPhase} (found : state.sections[id]? = some entry)
    (sections : next.sections = state.sections.set id { entry with phase }) :
    (register pool next taskId).hands = Function.update (register pool state taskId).hands id
      ((SectionPhase.held phase).bind fun copy =>
        if copy.1.id = taskId then some (some copy.1, copy.2) else none) := by
  funext other
  simp only [register, held_set found sections]
  by_cases touched : other = id
  · subst touched
    simp
  · simp [Function.update_of_ne touched]

theorem register_step (chained : Chained pool state)
    (stepped : state.step pool action = some next) (taskId : String) :
    Register.Step (Write.Enabled taskId) Write.apply (register pool state taskId)
      (register pool next taskId) := by
  have same : next.taskStore = state.taskStore → next.writes = state.writes → ∀ hands,
      (register pool next taskId).hands = hands →
      register pool next taskId = { register pool state taskId with hands := hands } := by
    intro store writes hands rfl
    simp [register, row, store, writes]
  cases step_cases stepped with
  | @asked phase manager event _ idle sections store writes =>
      have hands : (register pool next taskId).hands = (register pool state taskId).hands := by
        funext other
        have unheld : next.held other = state.held other := by
          rw [held, held, sections, List.getElem?_append]
          split
          · rfl
          · rename_i bound
            rw [List.getElem?_eq_none (Nat.le_of_not_lt bound), List.getElem?_singleton]
            split <;> simp [idle]
        simp [register, unheld]
      rw [same store writes _ hands]
      exact .idle
  | @merged id entry task _ found waiting running target merges sections store writes =>
      have free : state.held id = none := by rw [held_of found, waiting]; rfl
      by_cases about : task.id = taskId
      · subst about
        have enabled : (state.merge entry).Enabled task.id (state.row pool task.id) :=
          ⟨target, by simp [merges]⟩
        have applied : (state.merge entry).apply (state.row pool task.id) = some task := by
          simp [merge, Write.apply, merges]
        have hands : (register pool next task.id).hands =
            Function.update (register pool state task.id).hands id
              (some (some task, state.merge entry)) := by
          simp [hands_set found sections, SectionPhase.held]
        rw [same store writes _ hands, ← applied]
        exact .take enabled
      · have hands : (register pool next taskId).hands = (register pool state taskId).hands := by
          have unheld : (register pool state taskId).hands id = none := by simp [register, free]
          rw [hands_set found sections, SectionPhase.held, Option.bind_some, if_neg about, ← unheld,
            Function.update_eq_self]
        rw [same store writes _ hands]
        exact .idle
  | @left phase id entry _ _ found idle sections store writes =>
      have hands : (register pool next taskId).hands =
          Function.update (register pool state taskId).hands id none := by
        rw [hands_set found sections, idle, Option.bind_none]
      rw [same store writes _ hands]
      exact .drop
  | @stored id entry task write _ found saving sections store writes =>
      have held : state.held id = some (task, write) := by rw [held_of found, saving]; rfl
      have hands : (register pool next taskId).hands =
          Function.update (register pool state taskId).hands id none :=
        hands_set found sections
      by_cases about : task.id = taskId
      · subst about
        have alone : ∀ other, other ≠ id → (register pool state task.id).hands other = none := by
          intro other differ
          cases holds : (register pool state task.id).hands other with
          | none => rfl
          | some value =>
              obtain ⟨copy, taken, same⟩ := Option.bind_eq_some_iff.mp holds
              split at same
              · rename_i sameTask
                obtain ⟨record, present, saves⟩ := held_cases taken
                have theirs := chained.first other record copy.1 copy.2 present saves
                rw [sameTask, chained.first id entry task write found saving] at theirs
                exact absurd (Option.some.inj theirs).symm differ
              · cases same
        have put := @Register.Step.put _ _ _ _ (Write.Enabled task.id) Write.apply
          (register pool state task.id) id (some task) write (by simp [register, held]) alone
        have stored : register pool next task.id = {
            content := some task
            hands := Function.update (register pool state task.id).hands id none
            log := (register pool state task.id).log ++ [write] } := by
          rw [← hands]
          simp [register, row, store, writes]
        rw [stored]
        exact put
      · have stored : register pool next taskId =
            { register pool state taskId with
              hands := Function.update (register pool state taskId).hands id none } := by
          rw [← hands]
          simp [register, row, store, writes, InMemoryTaskStore.load_save, about]
        rw [stored]
        exact .drop

/-- The chains keep every row serial, and no manager forgets its user message. -/
structure Serial (pool : PoolContext) (start state : ManagerPool) : Prop where
  chained : Chained pool state
  rows : ∀ taskId, (register pool state taskId).Serial (Write.Enabled taskId) Write.apply
    (start.row pool taskId)
  latest : ∀ manager, (state.managers manager).latestUserMessage =
    (start.managers manager).latestUserMessage

theorem latest_step (stepped : state.step pool action = some next) (manager : ManagerId) :
    (next.managers manager).latestUserMessage = (state.managers manager).latestUserMessage := by
  cases step_cases stepped with
  | asked _ _ _ _ _ _ latest => exact latest manager
  | merged _ _ _ _ _ _ _ _ _ latest => exact latest manager
  | left _ _ _ _ _ _ _ latest => exact latest manager
  | stored _ _ _ _ _ _ managers => rw [managers]

theorem Serial.step {start : ManagerPool} (serial : Serial pool start state)
    (permitted : Named state action) (stepped : state.step pool action = some next) :
    Serial pool start next where
  chained := chained_step serial.chained permitted stepped
  rows taskId := (serial.rows taskId).step (register_step serial.chained stepped taskId)
  latest manager := (latest_step stepped manager).trans (serial.latest manager)

theorem serial_of_runs {taskStore : InMemoryTaskStore} {managers : ManagerId → ResultManager}
    (runs : (managerSystem pool).Runs Named (initial taskStore managers) actions state) :
    Serial pool (initial taskStore managers) state := by
  refine runs.invariant (Serial pool (initial taskStore managers)) ?_ ?_
  · refine ⟨chained_initial pool taskStore managers, fun taskId => ⟨rfl, ?_, ?_⟩, fun _ => rfl⟩
    · intro before write after split
      simp [register, initial] at split
    · intro id value write holds
      simp [register, initial, held] at holds
  · exact fun serial permitted stepped => serial.step permitted stepped

/-- What a save stores is its event merged with the row as it is at that moment. -/
theorem Serial.saves {start : ManagerPool} (serial : Serial pool start state)
    (found : state.sections[id]? = some entry) {task : Task} {write : Write}
    (saving : entry.phase = .saving task write) :
    write = state.merge entry ∧ write.Enabled task.id (state.row pool task.id) ∧
      write.apply (state.row pool task.id) = some task := by
  have holds : (register pool state task.id).hands id = some (some task, write) := by
    simp [register, held_of found, saving, SectionPhase.held]
  obtain ⟨enabled, current⟩ := (serial.rows task.id).hands id (some task) write holds
  exact ⟨(serial.chained.merged id entry task write found saving).2, enabled, current⟩

theorem row_id (stored : state.row pool taskId = some task) : task.id = taskId :=
  InMemoryTaskStore.load_id stored

/-- One step leaves a row alone or extends it. -/
theorem Serial.extends {start : ManagerPool} (serial : Serial pool start state)
    (stepped : state.step pool action = some next) (taskId : String) :
    Extends (state.row pool taskId) (next.row pool taskId) := by
  have kept : next.taskStore = state.taskStore →
      Extends (state.row pool taskId) (next.row pool taskId) := by
    intro store
    rw [row, row, store]
    exact .refl _
  cases step_cases stepped with
  | asked _ _ _ store => exact kept store
  | merged _ _ _ _ _ _ store => exact kept store
  | left _ _ _ _ store => exact kept store
  | @stored id entry task write _ found saving sections store =>
      by_cases about : task.id = taskId
      · subst about
        obtain ⟨rfl, enabled, applied⟩ := serial.saves found saving
        have after : next.row pool task.id = some task := by simp [row, store]
        rw [after]
        cases before : state.row pool task.id with
        | none => exact ⟨by simp, by simp⟩
        | some old =>
            rw [before] at applied
            have named : task.id ≠ "" := fun empty =>
              serial.chained.named id entry found (empty ▸ enabled.1)
            have merges := Write.apply_cases enabled.targets (row_id before) applied
            exact merges.extends named enabled.targets
      · refine .trans (.refl _) ?_
        rw [row, row, store, InMemoryTaskStore.load_save_of_ne _ (fun same => about same.2)]
        exact .refl _

/-- In every run of managers that are fed named events: no row loses an artifact id or a metadata
key; a save keeps the history stored just before it, unless it applies a task event with a
history of its own; and a saved task event leaves the manager's user message in the history. -/
theorem managers_write_monotonically {taskStore : InMemoryTaskStore}
    {managers : ManagerId → ResultManager} {more : List Action} {later : ManagerPool}
    (runs : (managerSystem pool).Runs Named (initial taskStore managers) actions state)
    (continues : (managerSystem pool).Runs Named state more later) :
    (∀ taskId, Extends (state.row pool taskId) (later.row pool taskId)) ∧
      ∀ (id : SectionId) (entry : Section) (next : ManagerPool),
        state.sections[id]? = some entry → state.step pool (.save id .ok) = some next →
        ∃ task, entry.event.target = some task.id ∧ next.row pool task.id = some task ∧
          (∀ stored, state.row pool task.id = some stored →
            stored.history ⊆ task.history ∨
              ∃ data, entry.event = .task data ∧ data.history ≠ []) ∧
          ∀ data latest, entry.event = .task data →
            (managers entry.manager).latestUserMessage = some latest →
            hasMessage task.history latest.messageId = true := by
  have serial := serial_of_runs runs
  constructor
  · intro taskId
    have both := continues.invariant
      (fun later => Serial pool (initial taskStore managers) later ∧
        Extends (state.row pool taskId) (later.row pool taskId))
      ⟨serial, .refl _⟩
      (fun holds permitted stepped => ⟨holds.1.step permitted stepped,
        holds.2.trans (holds.1.extends stepped taskId)⟩)
    exact both.2
  · intro id entry next found stepped
    cases step_cases stepped with
    | left _ _ _ _ _ _ _ _ differs => exact absurd rfl (differs id)
    | @stored _ record task write _ present saving sections store =>
        obtain rfl := Option.some.inj (present.symm.trans found)
        obtain ⟨rfl, enabled, applied⟩ := serial.saves found saving
        have target := enabled.targets
        have named : task.id ≠ "" := fun empty =>
          serial.chained.named id record found (empty ▸ enabled.1)
        refine ⟨task, enabled.1, by simp [row, store], ?_, ?_⟩
        · intro stored before
          rw [before] at applied
          have merges := Write.apply_cases target (row_id before) applied
          cases replaces : (state.merge record).replacesHistory with
          | false => exact .inl (Write.history_kept merges replaces)
          | true =>
              right
              cases event : record.event with
              | task data =>
                  have about : record.event.target = some task.id := enabled.1
                  rw [event] at about
                  have unnamed : data.id ≠ "" := fun empty =>
                    named ((Option.some.inj about).symm.trans empty)
                  have own : data.history ≠ [] := by
                    simpa [merge, event, Write.replacesHistory, unnamed] using replaces
                  exact ⟨data, rfl, own⟩
              | _ => simp [merge, event, Write.replacesHistory] at replaces
        · intro data latest event user
          have remembers : (state.managers record.manager).latestUserMessage = some latest :=
            (serial.latest record.manager).trans user
          simp only [merge, Write.apply, event, remembers, ResultManager.mergeInto] at applied
          rw [← Option.some.inj applied]
          exact prependUserMessage_present latest _

/-- Two managers on one task: the second section waits for the first one's save. -/
theorem managers_write_monotonically_two :
    let pool : PoolContext := ⟨resolveUserScope, Scenario.context "tenant" "user"⟩
    let managers : ManagerId → ResultManager := fun _ =>
      ResultManager.new.setContext (Scenario.message "m" "t")
    let actions : List Action := [.processEvent 0 (Scenario.taskEvent "t" .working),
      .processEvent 1 (Scenario.artifactEvent "t" "a" "text" true), .load 0 .ok]
    ∃ state next, (managerSystem pool).run (initial .empty managers) actions = some state ∧
      state.step pool (.save 0 .ok) = some next ∧
      Extends (state.row pool "t") (next.row pool "t") ∧
      ∃ task, next.row pool task.id = some task ∧ hasMessage task.history "m" = true := by
  intro pool managers actions
  have runs : (managerSystem pool).Runs Named (initial .empty managers) actions _ :=
    .cons (by simp [Named, Scenario.taskEvent, Scenario.task, AgentExecutionEvent.target]) rfl
      (.cons (by simp [Named, Scenario.artifactEvent, AgentExecutionEvent.target]) rfl
        (.cons trivial rfl .refl))
  obtain ⟨extends', saves⟩ := @managers_write_monotonically pool _ actions .empty managers
    [.save 0 .ok] _ runs (.cons trivial rfl .refl)
  obtain ⟨task, _, stored, _, present⟩ := saves 0 _ _ rfl rfl
  exact ⟨_, _, rfl, rfl, extends' "t", task, stored, present _ _ rfl rfl⟩

end ManagerPool

end A2A.Server
