import A2A.Library.EventTarget
import A2A.Library.OrderedMap
import A2A.Library.Service

namespace A2A.Server

open Library

/-! `DefaultExecutionEventBus`: an `EventTarget`, and two maps from the callers' listeners to
the closures that are registered for them.

A listener is not re-entrant: what it does when it is called, throwing included, leaves the bus alone.
-/

inductive ExecutionEventName where
  | event
  | finished
deriving DecidableEq, Repr

/-- The closure that a registration wraps a listener in.  Each is an object of its own. -/
structure WrappedListener (ℓ : Type) where
  serial : Nat
  listener : ℓ
  eventName : ExecutionEventName
  once : Bool
deriving DecidableEq

/-- The call of a listener by its closure: with the detail of an event, or with nothing. -/
structure ListenerCall (ℓ ε : Type) where
  wrapped : WrappedListener ℓ
  detail : Option ε

instance {ℓ : Type} [DecidableEq ℓ] : LawfulBEq (Listener ExecutionEventName (WrappedListener ℓ)) := inferInstance

structure DefaultExecutionEventBus (ℓ : Type) where
  target : EventTarget ExecutionEventName (WrappedListener ℓ)
  eventListeners : OrderedMap ℓ (List (WrappedListener ℓ))
  finishedListeners : OrderedMap ℓ (List (WrappedListener ℓ))
  /-- How many closures have been made. -/
  created : Nat

section Tracking

variable {ℓ : Type} [DecidableEq ℓ] (listenerMap : OrderedMap ℓ (List (WrappedListener ℓ))) (listener : ℓ)

def trackListener (wrapped : WrappedListener ℓ) : OrderedMap ℓ (List (WrappedListener ℓ)) :=
  match listenerMap.get? listener with
  | some existing => listenerMap.set listener (existing ++ [wrapped])
  | none => listenerMap.set listener [wrapped]

/-- The map after one of its lists was edited in place: an empty list is deleted. -/
def keepList (wrappedList : List (WrappedListener ℓ)) : OrderedMap ℓ (List (WrappedListener ℓ)) :=
  if wrappedList.isEmpty then listenerMap.erase listener else listenerMap.set listener wrappedList

def untrackWrappedListener (wrapped : WrappedListener ℓ) : OrderedMap ℓ (List (WrappedListener ℓ)) :=
  match listenerMap.get? listener with
  | some wrappedList =>
      if wrapped ∈ wrappedList then keepList listenerMap listener (wrappedList.erase wrapped) else listenerMap
  | none => listenerMap

end Tracking

namespace DefaultExecutionEventBus

variable {ℓ ε : Type} [DecidableEq ℓ]

def empty : DefaultExecutionEventBus ℓ := ⟨.empty, .empty, .empty, 0⟩

variable (bus : DefaultExecutionEventBus ℓ)

/-- The map of an event's listeners. -/
def listeners : ExecutionEventName → OrderedMap ℓ (List (WrappedListener ℓ))
  | .event => bus.eventListeners
  | .finished => bus.finishedListeners

def withListeners (listenerMap : OrderedMap ℓ (List (WrappedListener ℓ))) :
    ExecutionEventName → DefaultExecutionEventBus ℓ
  | .event => { bus with eventListeners := listenerMap }
  | .finished => { bus with finishedListeners := listenerMap }

/-- The closure that the next registration makes. -/
def wrap (eventName : ExecutionEventName) (once : Bool) (listener : ℓ) : WrappedListener ℓ :=
  ⟨bus.created, listener, eventName, once⟩

/-- Tracks a new closure, and registers it. -/
def addWrapped (eventName : ExecutionEventName) (once : Bool) (listener : ℓ) : DefaultExecutionEventBus ℓ :=
  let wrapped := bus.wrap eventName once listener
  let tracked := bus.withListeners (trackListener (bus.listeners eventName) listener wrapped) eventName
  { tracked with
    target := bus.target.addEventListener eventName wrapped once
    created := bus.created + 1 }

/-- Takes the latest closure of a listener from its list, and from the target. -/
def removeWrapped (eventName : ExecutionEventName) (listener : ℓ) : DefaultExecutionEventBus ℓ :=
  match (bus.listeners eventName).get? listener with
  | some wrappedList =>
      match wrappedList.getLast? with
      | some wrapped =>
          let tracked := bus.withListeners
            (keepList (bus.listeners eventName) listener wrappedList.dropLast) eventName
          { tracked with target := bus.target.removeEventListener eventName wrapped }
      | none => bus
  | none => bus

def addEventListenerInternal : ℓ → DefaultExecutionEventBus ℓ := bus.addWrapped .event false
def addEventListenerOnceInternal : ℓ → DefaultExecutionEventBus ℓ := bus.addWrapped .event true
def removeEventListenerInternal : ℓ → DefaultExecutionEventBus ℓ := bus.removeWrapped .event
def addFinishedListenerInternal : ℓ → DefaultExecutionEventBus ℓ := bus.addWrapped .finished false
def addFinishedListenerOnceInternal : ℓ → DefaultExecutionEventBus ℓ := bus.addWrapped .finished true
def removeFinishedListenerInternal : ℓ → DefaultExecutionEventBus ℓ := bus.removeWrapped .finished

def on (eventName : ExecutionEventName) (listener : ℓ) : DefaultExecutionEventBus ℓ :=
  if eventName = .event then bus.addEventListenerInternal listener else bus.addFinishedListenerInternal listener

def off (eventName : ExecutionEventName) (listener : ℓ) : DefaultExecutionEventBus ℓ :=
  if eventName = .event then bus.removeEventListenerInternal listener
  else bus.removeFinishedListenerInternal listener

def once (eventName : ExecutionEventName) (listener : ℓ) : DefaultExecutionEventBus ℓ :=
  if eventName = .event then bus.addEventListenerOnceInternal listener
  else bus.addFinishedListenerOnceInternal listener

/-- Removes every tracked closure of an event from the target, and clears its map. -/
def clear (eventName : ExecutionEventName) : DefaultExecutionEventBus ℓ :=
  let cleared := bus.withListeners .empty eventName
  { cleared with
    target := (bus.listeners eventName).values.flatten.foldl
      (fun target wrapped => target.removeEventListener eventName wrapped) bus.target }

def removeAllListeners (eventName : Option ExecutionEventName) : DefaultExecutionEventBus ℓ :=
  let bus := if eventName = none ∨ eventName = some .event then bus.clear .event else bus
  if eventName = none ∨ eventName = some .finished then bus.clear .finished else bus

/-- What a closure does with an event.  One for `event` throws when it has no detail. -/
def callWrapped (wrapped : WrappedListener ℓ) (detail : Option ε) :
    DefaultExecutionEventBus ℓ × List (ListenerCall ℓ ε) :=
  let untracked :=
    if wrapped.once then
      bus.withListeners
        (untrackWrappedListener (bus.listeners wrapped.eventName) wrapped.listener wrapped) wrapped.eventName
    else bus
  match wrapped.eventName, detail with
  | .event, none => (bus, [])
  | .event, some detail => (untracked, [⟨wrapped, some detail⟩])
  | .finished, _ => (untracked, [⟨wrapped, none⟩])

/-- A `once` listener is removed before it is called. -/
def callListener (entry : Listener ExecutionEventName (WrappedListener ℓ)) (detail : Option ε) :
    DefaultExecutionEventBus ℓ × List (ListenerCall ℓ ε) :=
  let removed :=
    if entry.once then { bus with target := bus.target.removeEventListener entry.type entry.callback } else bus
  removed.callWrapped entry.callback detail

/-- The dispatch to the listeners that were registered when it began.  One that has been
removed since is passed over. -/
def callListeners (detail : Option ε) :
    List (Listener ExecutionEventName (WrappedListener ℓ)) → DefaultExecutionEventBus ℓ →
      DefaultExecutionEventBus ℓ × List (ListenerCall ℓ ε)
  | [], bus => (bus, [])
  | entry :: rest, bus =>
      if entry ∈ bus.target.listeners then
        let (called, calls) := bus.callListener entry detail
        let (after, more) := callListeners detail rest called
        (after, calls ++ more)
      else callListeners detail rest bus

def dispatchEvent (type : ExecutionEventName) (detail : Option ε) :
    DefaultExecutionEventBus ℓ × List (ListenerCall ℓ ε) :=
  callListeners detail (bus.target.listeners.filter (fun listener => listener.type = type)) bus

def publish (event : ε) : DefaultExecutionEventBus ℓ × List (ListenerCall ℓ ε) :=
  bus.dispatchEvent .event (some event)

def finished : DefaultExecutionEventBus ℓ × List (ListenerCall ℓ ε) := bus.dispatchEvent .finished none

end DefaultExecutionEventBus

inductive BusOperation (ℓ ε : Type) where
  | on (eventName : ExecutionEventName) (listener : ℓ)
  | once (eventName : ExecutionEventName) (listener : ℓ)
  | off (eventName : ExecutionEventName) (listener : ℓ)
  | removeAllListeners (eventName : Option ExecutionEventName)
  | publish (event : ε)
  | finished

/-- The bus answers an operation with the calls that it makes. -/
def busService (ℓ ε : Type) [DecidableEq ℓ] :
    Service (DefaultExecutionEventBus ℓ) (BusOperation ℓ ε) (List (ListenerCall ℓ ε)) where
  perform bus
    | .on eventName listener => (bus.on eventName listener, [])
    | .once eventName listener => (bus.once eventName listener, [])
    | .off eventName listener => (bus.off eventName listener, [])
    | .removeAllListeners eventName => (bus.removeAllListeners eventName, [])
    | .publish event => bus.publish event
    | .finished => bus.finished

end A2A.Server
