import A2A.Server.Stores

namespace A2A.Server

/-! Which rows of the task store `serializeByScope` protects.

A row is found under the tenant and the owner that the store's resolver
computes; the lock names the tenant and the user.  The two agree exactly on
contexts for which owner and user determine each other.
-/

/-- `context.user?.userName ?? ''`, the owner that `lockKey` names. -/
def lockOwner (context : ServerCallContext) : String := (context.user.map User.userName).getD ""

/-- A task saved in one context under the id is the one the other context loads. -/
def SameRow (ownerResolver : OwnerResolver) (first second : ServerCallContext) (taskId : String) :
    Prop :=
  ∀ (store : InMemoryTaskStore) (task : Task), task.id = taskId →
    (store.save (scopeOf ownerResolver first) task).load (scopeOf ownerResolver second) taskId =
      some task

variable {ownerResolver : OwnerResolver} {first second : ServerCallContext} {taskId : String}

theorem sameRow_iff_scope :
    SameRow ownerResolver first second taskId ↔
      scopeOf ownerResolver first = scopeOf ownerResolver second := by
  constructor
  · intro aliases
    by_contra differ
    have found := aliases .empty ⟨taskId, "", none, [], [], none⟩ rfl
    rw [InMemoryTaskStore.load_save_of_ne _ (fun same => differ same.1)] at found
    cases found
  · rintro same store task rfl
    rw [same, InMemoryTaskStore.load_save_self]

theorem sameRow_iff :
    SameRow ownerResolver first second taskId ↔
      first.tenant.getD "" = second.tenant.getD "" ∧ ownerResolver first = ownerResolver second := by
  rw [sameRow_iff_scope, scopeOf, scopeOf, Scope.mk.injEq]

/-- Within one tenant the key of a task is a function of the user alone. -/
theorem lockKey_iff (tenant : first.tenant.getD "" = second.tenant.getD "") :
    lockKey first taskId = lockKey second taskId ↔ lockOwner first = lockOwner second := by
  simp only [lockKey, tenant, String.append_left_inj, String.append_right_inj, lockOwner]

theorem resolveUserScope_eq (context : ServerCallContext) :
    resolveUserScope context = if lockOwner context = "" then "unknown" else lockOwner context := by
  cases named : context.user <;> simp [resolveUserScope, lockOwner, named]

/-- Two users share the default owner when one has no name and the other bears its name. -/
theorem resolveUserScope_collides :
    resolveUserScope first = resolveUserScope second ∧ lockOwner first ≠ lockOwner second ↔
      (lockOwner first = "" ∧ lockOwner second = "unknown") ∨
        (lockOwner first = "unknown" ∧ lockOwner second = "") := by
  rw [resolveUserScope_eq, resolveUserScope_eq]
  by_cases one : lockOwner first = "" <;> by_cases two : lockOwner second = ""
  · simp [one, two]
  · rw [if_pos one, if_neg two]
    grind
  · rw [if_neg one, if_pos two]
    grind
  · simp [one, two]

theorem covered_iff :
    (SameRow ownerResolver first second taskId → lockKey first taskId = lockKey second taskId) ↔
      ¬ (first.tenant.getD "" = second.tenant.getD "" ∧
        ownerResolver first = ownerResolver second ∧ lockOwner first ≠ lockOwner second) := by
  rw [sameRow_iff]
  by_cases tenant : first.tenant.getD "" = second.tenant.getD ""
  · rw [lockKey_iff tenant]
    tauto
  · simp [tenant]

/-- Every aliasing of a row is covered by one lock exactly where contexts that share tenant
and owner name the same user; the default resolver fails for a nameless user and one named
as its default owner. -/
theorem lock_covers_row (ownerResolver : OwnerResolver) (first second : ServerCallContext)
    (taskId : String) :
    ((SameRow ownerResolver first second taskId → lockKey first taskId = lockKey second taskId) ↔
      ¬ (first.tenant.getD "" = second.tenant.getD "" ∧
        ownerResolver first = ownerResolver second ∧ lockOwner first ≠ lockOwner second)) ∧
    ((SameRow resolveUserScope first second taskId →
        lockKey first taskId = lockKey second taskId) ↔
      ¬ (first.tenant.getD "" = second.tenant.getD "" ∧
        ((lockOwner first = "" ∧ lockOwner second = "unknown") ∨
          (lockOwner first = "unknown" ∧ lockOwner second = "")))) := by
  refine ⟨covered_iff, ?_⟩
  rw [covered_iff, resolveUserScope_collides]

/-- A caller without a user and a user named `unknown` share every row, but no lock. -/
theorem anonymous_and_unknown_share_row :
    ¬ ∀ (ownerResolver : OwnerResolver) (first second : ServerCallContext) (taskId : String),
      SameRow ownerResolver first second taskId →
        lockKey first taskId = lockKey second taskId := by
  intro covers
  let anonymous : ServerCallContext := ⟨none, none, "1.0", .empty⟩
  let unknown : ServerCallContext := ⟨none, some ⟨"unknown", true⟩, "1.0", .empty⟩
  have shared : SameRow resolveUserScope anonymous unknown "t" := sameRow_iff.mpr ⟨rfl, rfl⟩
  have keys := covers resolveUserScope anonymous unknown "t" shared
  exact absurd keys (by decide)

end A2A.Server
