import Mathlib.Data.List.Count

namespace A2A.Library

/-! Promises and the queue of jobs behind them.

A reaction is registered on a promise and becomes a job when the promise settles,
at once if it has settled before.  A promise that is resolved with another one
follows it: a first job subscribes it, a second one settles it.
-/

/-- What is done when a promise settles: a handler is called, or another promise settles alike. -/
inductive Reaction (ι : Type u) (ρ : Type v) where
  | handle (handler : ρ)
  | settle (target : ι)
deriving DecidableEq

inductive Job (ι : Type u) (ρ : Type v) where
  | react (source : ι) (reaction : Reaction ι ρ)
  | follow (target source : ι)
deriving DecidableEq

inductive PromiseState (ι : Type u) (ρ : Type v) (ο : Type w) where
  | pending (reactions : List (Reaction ι ρ))
  | settled (outcome : ο)

namespace PromiseState

variable {ι : Type u} {ρ : Type v} {ο : Type w}

def reactions : PromiseState ι ρ ο → List (Reaction ι ρ)
  | .pending reactions => reactions
  | .settled _ => []

def outcome : PromiseState ι ρ ο → Option ο
  | .pending _ => none
  | .settled outcome => some outcome

end PromiseState

structure EventLoop (ι : Type u) (ρ : Type v) (ο : Type w) where
  promises : ι → PromiseState ι ρ ο
  jobs : List (Job ι ρ)
  /-- Only a settled promise has its reactions among the jobs. -/
  ready : ∀ {source reaction}, Job.react source reaction ∈ jobs → (promises source).outcome ≠ none

namespace EventLoop

variable {ι : Type u} {ρ : Type v} {ο : Type w} (loop : EventLoop ι ρ ο)

def outcome (promise : ι) : Option ο := (loop.promises promise).outcome

/-- The first job, and the loop without it. -/
def dequeue : Option (Job ι ρ × EventLoop ι ρ ο) :=
  match queue : loop.jobs with
  | [] => none
  | job :: rest => some (job, {
      loop with
      jobs := rest
      ready := fun listed => loop.ready (queue ▸ List.mem_cons_of_mem job listed) })

theorem dequeue_eq_some {loop behind : EventLoop ι ρ ο} {job : Job ι ρ} (taken : loop.dequeue = some (job, behind)) :
    loop.jobs = job :: behind.jobs ∧ behind.promises = loop.promises := by
  unfold dequeue at taken
  split at taken
  · exact nomatch taken
  · cases taken
    exact ⟨‹_›, rfl⟩

theorem outcome_behind {loop behind : EventLoop ι ρ ο} {job : Job ι ρ} (taken : loop.dequeue = some (job, behind))
    (promise : ι) : behind.outcome promise = loop.outcome promise := by
  rw [outcome, outcome, (dequeue_eq_some taken).2]

/-- `target` is resolved with the promise `source`. -/
def follow (target source : ι) : EventLoop ι ρ ο where
  promises := loop.promises
  jobs := loop.jobs ++ [.follow target source]
  ready listed := by
    rcases List.mem_append.mp listed with before | last
    · exact loop.ready before
    · exact nomatch List.mem_singleton.mp last

@[simp] theorem outcome_follow {loop : EventLoop ι ρ ο} (target source promise : ι) :
    (loop.follow target source).outcome promise = loop.outcome promise := rfl

variable [DecidableEq ι]

/-- `source.then(…)` -/
def subscribe (source : ι) (reaction : Reaction ι ρ) : EventLoop ι ρ ο :=
  match state : loop.promises source with
  | .pending reactions => {
      loop with
      promises := Function.update loop.promises source (.pending (reactions ++ [reaction]))
      ready := by
        intro other queued listed
        have settled := loop.ready listed
        by_cases same : other = source
        · rw [same, state] at settled
          exact absurd rfl settled
        · rwa [Function.update_of_ne same] }
  | .settled outcome => {
      loop with
      jobs := loop.jobs ++ [.react source reaction]
      ready := by
        intro other queued listed
        rcases List.mem_append.mp listed with before | last
        · exact loop.ready before
        · cases List.mem_singleton.mp last
          rw [state]
          exact Option.some_ne_none outcome }

/-- A promise settles once. -/
def settle (target : ι) (outcome : ο) : EventLoop ι ρ ο :=
  match loop.promises target with
  | .settled _ => loop
  | .pending reactions => {
      promises := Function.update loop.promises target (.settled outcome)
      jobs := loop.jobs ++ reactions.map (.react target)
      ready := by
        intro source reaction listed
        by_cases same : source = target
        · rw [same, Function.update_self]
          exact Option.some_ne_none outcome
        · rw [Function.update_of_ne same]
          rcases List.mem_append.mp listed with before | last
          · exact loop.ready before
          · obtain ⟨_, _, equal⟩ := List.mem_map.mp last
            cases equal
            exact absurd rfl same }

/-- A job is done, unless it calls a handler. -/
def perform (job : Job ι ρ) : EventLoop ι ρ ο × Option ρ :=
  match job with
  | .follow target source => (loop.subscribe source (.settle target), none)
  | .react _ (.handle handler) => (loop, some handler)
  | .react source (.settle target) =>
      match loop.outcome source with
      | some outcome => (loop.settle target outcome, none)
      | none => (loop, none)

/-- One turn: the next job is taken from the queue. -/
def next : Option (EventLoop ι ρ ο × Option ρ) :=
  loop.dequeue.map (fun taken => taken.2.perform taken.1)

theorem next_of_jobs {loop : EventLoop ι ρ ο} (queued : loop.jobs ≠ []) : ∃ taken, loop.next = some taken := by
  unfold next dequeue
  split
  · exact absurd ‹_› queued
  · exact ⟨_, rfl⟩

section Observations

variable {loop : EventLoop ι ρ ο}

@[simp] theorem outcome_subscribe (source : ι) (reaction : Reaction ι ρ) (promise : ι) :
    (loop.subscribe source reaction).outcome promise = loop.outcome promise := by
  unfold outcome subscribe
  split
  · rename_i reactions state
    dsimp only
    by_cases same : promise = source
    · rw [same, Function.update_self, state]
      rfl
    · rw [Function.update_of_ne same]
  · rfl

theorem settle_of_settled {target : ι} (settled : loop.outcome target ≠ none) (outcome : ο) :
    loop.settle target outcome = loop := by
  unfold settle
  split
  · rfl
  · rename_i reactions state
    exact absurd (by rw [EventLoop.outcome, state]; rfl) settled

theorem outcome_settle {target : ι} (pending : loop.outcome target = none) (outcome : ο) (promise : ι) :
    (loop.settle target outcome).outcome promise = if promise = target then some outcome else loop.outcome promise := by
  unfold settle
  split
  · rename_i other state
    rw [EventLoop.outcome, state] at pending
    exact nomatch pending
  · rename_i reactions state
    unfold EventLoop.outcome
    dsimp only
    by_cases same : promise = target
    · rw [same, Function.update_self, if_pos rfl]
      rfl
    · rw [Function.update_of_ne same, if_neg same]

variable [DecidableEq ρ]

/-- How often the reaction is still to run: registered, or among the jobs. -/
def outstanding (loop : EventLoop ι ρ ο) (source : ι) (reaction : Reaction ι ρ) : Nat :=
  (loop.promises source).reactions.count reaction + loop.jobs.count (.react source reaction)

/-- How often one promise is still to subscribe another. -/
def followings (loop : EventLoop ι ρ ο) (target source : ι) : Nat := loop.jobs.count (.follow target source)

@[simp] theorem outstanding_subscribe (source : ι) (reaction : Reaction ι ρ) (promise : ι) (other : Reaction ι ρ) :
    (loop.subscribe source reaction).outstanding promise other =
      loop.outstanding promise other + if promise = source ∧ other = reaction then 1 else 0 := by
  unfold outstanding subscribe
  split
  · rename_i reactions state
    by_cases same : promise = source
    · subst same
      simp only [Function.update_self, PromiseState.reactions, state, List.count_append, List.count_singleton,
        beq_iff_eq, true_and, eq_comm (a := reaction)]
      omega
    · simp [same]
  · rename_i outcome state
    by_cases same : promise = source
    · subst same
      simp [List.count_append, List.count_singleton, eq_comm (a := reaction), Nat.add_assoc]
    · simp [List.count_append, same, eq_comm (a := source)]

@[simp] theorem followings_subscribe (source : ι) (reaction : Reaction ι ρ) (target followed : ι) :
    (loop.subscribe source reaction).followings target followed = loop.followings target followed := by
  unfold followings subscribe
  split
  · rfl
  · simp [List.count_append]

@[simp] theorem outstanding_settle (target : ι) (outcome : ο) (promise : ι) (reaction : Reaction ι ρ) :
    (loop.settle target outcome).outstanding promise reaction = loop.outstanding promise reaction := by
  unfold settle
  split
  · rfl
  · rename_i reactions state
    unfold outstanding
    by_cases same : promise = target
    · subst same
      have moved : (reactions.map (Job.react promise)).count (.react promise reaction) = reactions.count reaction :=
        List.count_map_of_injective _ _ (fun _ _ equal => by cases equal; rfl) _
      simp only [Function.update_self, PromiseState.reactions, state, List.count_append, List.count_nil, moved]
      omega
    · have none : (reactions.map (Job.react target)).count (.react promise reaction) = 0 := by
        refine List.count_eq_zero.mpr fun listed => ?_
        obtain ⟨_, _, equal⟩ := List.mem_map.mp listed
        cases equal
        exact same rfl
      simp only [Function.update_of_ne same, List.count_append, none, Nat.add_zero]

@[simp] theorem followings_settle (target : ι) (outcome : ο) (other followed : ι) :
    (loop.settle target outcome).followings other followed = loop.followings other followed := by
  unfold settle
  split
  · rfl
  · rename_i reactions state
    have none : (reactions.map (Job.react target)).count (.follow other followed) = 0 := by
      refine List.count_eq_zero.mpr fun listed => ?_
      obtain ⟨_, _, equal⟩ := List.mem_map.mp listed
      exact nomatch equal
    simp only [followings, List.count_append, none, Nat.add_zero]

@[simp] theorem outstanding_follow (target source promise : ι) (reaction : Reaction ι ρ) :
    (loop.follow target source).outstanding promise reaction = loop.outstanding promise reaction := by
  simp [outstanding, follow, List.count_append]

@[simp] theorem followings_follow (target source other followed : ι) :
    (loop.follow target source).followings other followed =
      loop.followings other followed + if other = target ∧ followed = source then 1 else 0 := by
  simp [followings, follow, List.count_append, List.count_singleton, eq_comm (a := target), eq_comm (a := source)]

/-- What a turn of the loop has done, by the job that was taken. -/
inductive Turn (loop after : EventLoop ι ρ ο) : Option ρ → Prop
  | follow (target source : ι)
      (listed : 0 < loop.followings target source)
      (outcomes : ∀ promise, after.outcome promise = loop.outcome promise)
      (reactions : ∀ promise reaction, after.outstanding promise reaction =
        loop.outstanding promise reaction + if promise = source ∧ reaction = .settle target then 1 else 0)
      (follows : ∀ other followed, loop.followings other followed =
        after.followings other followed + if other = target ∧ followed = source then 1 else 0) :
      Turn loop after none
  | handle (source : ι) (handler : ρ)
      (listed : 0 < loop.outstanding source (.handle handler))
      (settled : loop.outcome source ≠ none)
      (outcomes : ∀ promise, after.outcome promise = loop.outcome promise)
      (reactions : ∀ promise reaction, loop.outstanding promise reaction =
        after.outstanding promise reaction + if promise = source ∧ reaction = .handle handler then 1 else 0)
      (follows : ∀ other followed, after.followings other followed = loop.followings other followed) :
      Turn loop after (some handler)
  | settle (source target : ι) (outcome : ο)
      (listed : 0 < loop.outstanding source (.settle target))
      (settled : loop.outcome source = some outcome)
      (outcomes : ∀ promise, after.outcome promise =
        if promise = target ∧ loop.outcome target = none then some outcome else loop.outcome promise)
      (reactions : ∀ promise reaction, loop.outstanding promise reaction =
        after.outstanding promise reaction + if promise = source ∧ reaction = .settle target then 1 else 0)
      (follows : ∀ other followed, after.followings other followed = loop.followings other followed) :
      Turn loop after none

section Behind

variable {behind : EventLoop ι ρ ο} {job : Job ι ρ}

theorem outstanding_behind (taken : loop.dequeue = some (job, behind)) (promise : ι) (reaction : Reaction ι ρ) :
    loop.outstanding promise reaction =
      behind.outstanding promise reaction + if job = .react promise reaction then 1 else 0 := by
  obtain ⟨queue, promises⟩ := dequeue_eq_some taken
  simp only [outstanding, promises, queue, List.count_cons, beq_iff_eq, Nat.add_assoc]

theorem followings_behind (taken : loop.dequeue = some (job, behind)) (target source : ι) :
    loop.followings target source =
      behind.followings target source + if job = .follow target source then 1 else 0 := by
  simp only [followings, (dequeue_eq_some taken).1, List.count_cons, beq_iff_eq]

end Behind

theorem next_turn {after : EventLoop ι ρ ο} {handler : Option ρ} (taken : loop.next = some (after, handler)) :
    Turn loop after handler := by
  obtain ⟨⟨job, behind⟩, dequeued, performed⟩ := Option.map_eq_some_iff.mp taken
  have outcomes := outcome_behind dequeued
  have reactions := outstanding_behind dequeued
  have follows := followings_behind dequeued
  cases job with
  | follow target source =>
      cases performed
      refine .follow target source (by simp [follows]) (fun promise => ?_) (fun promise reaction => ?_)
        fun other followed => ?_
      · rw [outcome_subscribe, outcomes]
      · rw [outstanding_subscribe, reactions]
        simp
      · rw [followings_subscribe, follows]
        simp [eq_comm]
  | react source reaction =>
      have settled : loop.outcome source ≠ none :=
        loop.ready ((dequeue_eq_some dequeued).1 ▸ List.mem_cons_self)
      cases reaction with
      | handle called =>
          cases performed
          refine .handle source called (by simp [reactions]) settled outcomes (fun promise reaction => ?_)
            fun other followed => ?_
          · rw [reactions]
            simp [eq_comm]
          · rw [follows]
            simp
      | settle target =>
          cases state : loop.outcome source with
          | none => exact absurd state settled
          | some outcome =>
              dsimp only [perform] at performed
              rw [outcomes, state] at performed
              cases performed
              refine .settle source target outcome (by simp [reactions]) state (fun promise => ?_)
                (fun promise reaction => ?_) fun other followed => ?_
              · by_cases pending : loop.outcome target = none
                · rw [outcome_settle ((outcomes target).trans pending), outcomes]
                  simp [pending]
                · rw [settle_of_settled (by rwa [outcomes]), if_neg (fun both => pending both.2), outcomes]
              · rw [outstanding_settle, reactions]
                simp [eq_comm]
              · rw [followings_settle, follows]
                simp

/-- When no job is left, a reaction that is still to run waits for its promise. -/
theorem pending_of_outstanding {source : ι} {reaction : Reaction ι ρ} (idle : loop.jobs = [])
    (waits : 0 < loop.outstanding source reaction) : loop.outcome source = none := by
  rw [outstanding, idle, List.count_nil, Nat.add_zero] at waits
  unfold outcome
  cases state : loop.promises source with
  | pending reactions => rfl
  | settled outcome =>
      rw [state] at waits
      exact absurd waits (Nat.lt_irrefl 0)

end Observations

end EventLoop

end A2A.Library
