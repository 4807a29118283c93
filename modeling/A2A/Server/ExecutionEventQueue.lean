import A2A.Library.Transition
import A2A.Server.Events

namespace A2A.Server

open Library

/-! `ExecutionEventQueue` with the generator object that `events()` returns.

The bus side pushes events and stops the queue at any moment; the consumer
side calls `next()`, also before the previous call has settled.  A call is
settled by promise jobs, which the `job` step runs one at a time.
-/

/-- Where the generator is suspended. -/
inductive Generator where
  | suspendedStart
  /-- At `await new Promise`; `resolved` once its resolver has run. -/
  | awaiting (resolved : Bool)
  /-- In a `yield`, which first awaits its operand. -/
  | yielding (event : AgentExecutionEvent)
  | suspendedYield (event : AgentExecutionEvent)
  | completed

structure ExecutionEventQueue where
  /-- Both listeners are registered and removed together. -/
  attached : Bool
  eventQueue : List AgentExecutionEvent
  /-- Is `resolvePromise` set? -/
  resolvePromise : Bool
  stopped : Bool
  generator : Generator
  /-- Calls of `next()` whose promise is pending. -/
  pulls : Nat
  /-- The results of the settled calls in order, `none` for `done`. -/
  results : List (Option AgentExecutionEvent)
  /-- History only: what was published on the bus before the queue stopped. -/
  published : List AgentExecutionEvent

namespace ExecutionEventQueue

/-- The constructor, followed by the call of `events()`. -/
def new : ExecutionEventQueue where
  attached := true
  eventQueue := []
  resolvePromise := false
  stopped := false
  generator := .suspendedStart
  pulls := 0
  results := []
  published := []

/-- `if (this.resolvePromise) { this.resolvePromise(); this.resolvePromise = undefined; }` -/
def resolve (queue : ExecutionEventQueue) : ExecutionEventQueue :=
  if queue.resolvePromise then
    { queue with
      resolvePromise := false
      generator := match queue.generator with
        | .awaiting _ => .awaiting true
        | generator => generator }
  else queue

def handleEvent (queue : ExecutionEventQueue) (event : AgentExecutionEvent) :
    ExecutionEventQueue :=
  if queue.stopped then queue
  else resolve { queue with eventQueue := queue.eventQueue ++ [event] }

def stop (queue : ExecutionEventQueue) : ExecutionEventQueue :=
  { resolve { queue with stopped := true } with attached := false }

def handleFinished (queue : ExecutionEventQueue) : ExecutionEventQueue := queue.stop

/-- The generator returns: every pending call is settled as done. -/
def complete (queue : ExecutionEventQueue) : ExecutionEventQueue :=
  { queue with
    generator := .completed
    results := queue.results ++ List.replicate queue.pulls none
    pulls := 0 }

/-- From the head of the `while` loop to the next suspension. -/
def loop (queue : ExecutionEventQueue) : ExecutionEventQueue :=
  match queue.eventQueue with
  | event :: rest => { queue with eventQueue := rest, generator := .yielding event }
  | [] =>
      if queue.stopped then queue.complete
      else { queue with resolvePromise := true, generator := .awaiting false }

def afterYield (queue : ExecutionEventQueue) (event : AgentExecutionEvent) : ExecutionEventQueue :=
  if event.endsQueue then queue.handleFinished.complete else queue.loop

/-- `next()` starts or resumes the generator unless it is still running. -/
def next (queue : ExecutionEventQueue) : ExecutionEventQueue :=
  let asked := { queue with pulls := queue.pulls + 1 }
  match queue.generator with
  | .suspendedStart => asked.loop
  | .suspendedYield event => asked.afterYield event
  | .completed => asked.complete
  | .awaiting _ | .yielding _ => asked

/-- The first pending call gets the yielded event; the next one, if any, resumes at once. -/
def deliver (queue : ExecutionEventQueue) (event : AgentExecutionEvent) (others : Nat) :
    ExecutionEventQueue :=
  let settled := { queue with
    generator := .suspendedYield event
    pulls := others
    results := queue.results ++ [some event] }
  if others = 0 then settled else settled.afterYield event

/-- The pending promise job of the generator. -/
def job (queue : ExecutionEventQueue) : Option ExecutionEventQueue :=
  match queue.generator, queue.pulls with
  | .awaiting true, _ => some queue.loop
  | .yielding event, others + 1 => some (queue.deliver event others)
  | _, _ => none

/-- `publish` on the bus. -/
def publish (queue : ExecutionEventQueue) (event : AgentExecutionEvent) : ExecutionEventQueue :=
  let logged := { queue with
    published := if queue.stopped then queue.published else queue.published ++ [event] }
  if queue.attached then logged.handleEvent event else logged

/-- `finished` on the bus. -/
def finished (queue : ExecutionEventQueue) : ExecutionEventQueue :=
  if queue.attached then queue.handleFinished else queue

inductive Action where
  | publish (event : AgentExecutionEvent)
  | finished
  | stop
  | next
  | job

def step (queue : ExecutionEventQueue) : Action → Option ExecutionEventQueue
  | .publish event => some (queue.publish event)
  | .finished => some queue.finished
  | .stop => some queue.stop
  | .next => some queue.next
  | .job => queue.job

/-- What the settled calls yielded. -/
def yielded (queue : ExecutionEventQueue) : List AgentExecutionEvent := queue.results.filterMap id

end ExecutionEventQueue

def queueSystem : System ExecutionEventQueue ExecutionEventQueue.Action where
  step := ExecutionEventQueue.step

end A2A.Server
