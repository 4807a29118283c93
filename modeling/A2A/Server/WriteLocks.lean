import A2A.Library.EventLoop
import A2A.Library.Transition

namespace A2A.Server

open Library

/-! `serializeByScope`, down to the promises of its chains.

Code that runs to completion submits functions and settles promises in between the
turns of the event loop, also while a function of a chain is on the call stack.
-/

/-- The promises of the chains, by the submission that they belong to. -/
inductive LockPromise where
  /-- `Promise.resolve()` -/
  | resolved
  /-- What the function returns. -/
  | work (id : Nat)
  /-- `next` -/
  | next (id : Nat)
  /-- What the caller of `serializeByScope` gets. -/
  | returned (id : Nat)
deriving DecidableEq

inductive LockHandler where
  | fn (id : Nat)
  | evict (id : Nat)
deriving DecidableEq

inductive Settlement (ν : Type u) (ε : Type v) where
  | fulfilled (value : Option ν)
  | rejected (error : ε)
deriving DecidableEq

/-- The variables of a call of `serializeByScope`. -/
structure Submission (κ : Type w) where
  key : κ
  prev : LockPromise

structure WriteLocks (κ : Type w) (ν : Type u) (ε : Type v) where
  loop : EventLoop LockPromise LockHandler (Settlement ν ε)
  taskWriteLocks : κ → Option LockPromise
  submissions : List (Submission κ)
  /-- The function that is on the call stack. -/
  calling : Option Nat
  /-- History only: the functions, in the order of their calls. -/
  called : List Nat
  /-- History only: whose eviction jobs have run. -/
  evicted : List Nat

inductive LockAction (κ : Type w) (ν : Type u) (ε : Type v) where
  | submit (key : κ)
  | turn
  /-- The function on the call stack gives back its promise, or throws before it has one. -/
  | leave (thrown : Option ε)
  | complete (id : Nat) (outcome : Settlement ν ε)

/-- The steps of the event loop itself: jobs, and the ends of the calls that they make. -/
def LockAction.isJob {κ : Type w} {ν : Type u} {ε : Type v} : LockAction κ ν ε → Bool
  | .turn | .leave _ => true
  | _ => false

namespace WriteLocks

variable {κ : Type w} {ν : Type u} {ε : Type v} [DecidableEq κ] (state : WriteLocks κ ν ε)

def initial : WriteLocks κ ν ε where
  loop := {
    promises
      | .resolved => .settled (.fulfilled none)
      | _ => .pending []
    jobs := []
    ready := fun listed => nomatch listed }
  taskWriteLocks _ := none
  submissions := []
  calling := none
  called := []
  evicted := []

def serializeByScope (key : κ) : WriteLocks κ ν ε :=
  let id := state.submissions.length
  let prev := (state.taskWriteLocks key).getD .resolved
  let chained := state.loop.subscribe prev (.handle (.fn id))
  let evicting := chained.subscribe (.next id) (.handle (.evict id))
  { state with
    -- an async function resolves its own promise with the one that it returns
    loop := evicting.follow (.returned id) (.next id)
    taskWriteLocks := Function.update state.taskWriteLocks key (some (.next id))
    submissions := state.submissions ++ [⟨key, prev⟩] }

def evict (id : Nat) : WriteLocks κ ν ε :=
  match state.submissions[id]? with
  | none => state
  | some { key, .. } =>
      { state with
        taskWriteLocks :=
          if state.taskWriteLocks key = some (.next id) then Function.update state.taskWriteLocks key none
          else state.taskWriteLocks
        evicted := state.evicted ++ [id] }

/-- No job runs while there is something on the call stack. -/
def turn : Option (WriteLocks κ ν ε) :=
  if state.calling.isSome then none
  else match state.loop.next with
    | none => none
    | some (loop, none) => some { state with loop }
    | some (loop, some (.fn id)) =>
        some { state with loop, calling := some id, called := state.called ++ [id] }
    | some (loop, some (.evict id)) => some ({ state with loop }.evict id)

def leave (thrown : Option ε) : Option (WriteLocks κ ν ε) :=
  match state.calling, thrown with
  | none, _ => none
  | some id, none => some { state with loop := state.loop.follow (.next id) (.work id), calling := none }
  | some id, some error =>
      -- the error also stands for the outcome of the promise that there is none of
      if (state.loop.outcome (.work id)).isSome then none
      else some {
        state with
        loop := (state.loop.settle (.work id) (.rejected error)).settle (.next id) (.rejected error)
        calling := none }

def complete (id : Nat) (outcome : Settlement ν ε) : Option (WriteLocks κ ν ε) :=
  if id ∈ state.called ∧ (state.loop.outcome (.work id)).isNone then
    some { state with loop := state.loop.settle (.work id) outcome }
  else none

def step : LockAction κ ν ε → Option (WriteLocks κ ν ε)
  | .submit key => some (state.serializeByScope key)
  | .turn => state.turn
  | .leave thrown => state.leave thrown
  | .complete id outcome => state.complete id outcome

end WriteLocks

def lockSystem (κ : Type w) (ν : Type u) (ε : Type v) [DecidableEq κ] :
    System (WriteLocks κ ν ε) (LockAction κ ν ε) where
  step := WriteLocks.step

end A2A.Server
