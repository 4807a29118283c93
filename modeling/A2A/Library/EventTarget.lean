import Mathlib.Data.List.Nodup

namespace A2A.Library

/-! Event targets: the callbacks that are registered for each type of event.

A callback is registered for a type at most once.  Registering it again changes
nothing, and a new one goes to the end of the list.
-/

structure Listener (τ : Type u) (κ : Type v) where
  type : τ
  callback : κ
  once : Bool
deriving DecidableEq

structure EventTarget (τ : Type u) (κ : Type v) where
  listeners : List (Listener τ κ)
  distinct : (listeners.map (fun listener => (listener.type, listener.callback))).Nodup

namespace EventTarget

variable {τ : Type u} {κ : Type v}

def empty : EventTarget τ κ := ⟨[], List.nodup_nil⟩

/-- A callback is registered for a type at most once. -/
theorem listener_unique {target : EventTarget τ κ} {listener other : Listener τ κ}
    (listed : listener ∈ target.listeners) (otherListed : other ∈ target.listeners)
    (types : listener.type = other.type) (callbacks : listener.callback = other.callback) : listener = other :=
  List.inj_on_of_nodup_map target.distinct listed otherListed (Prod.ext types callbacks)

variable [DecidableEq τ] (target : EventTarget τ κ) (type : τ)

/-- The callbacks that an event of this type is dispatched to. -/
def callbacks : List κ :=
  (target.listeners.filter (fun listener => listener.type = type)).map Listener.callback

theorem callbacks_nodup : (target.callbacks type).Nodup := by
  refine List.Nodup.map_on ?_ ((target.distinct.of_map _).filter _)
  intro first firstListed second secondListed same
  have types : first.type = second.type :=
    (of_decide_eq_true (List.mem_filter.mp firstListed).2).trans
      (of_decide_eq_true (List.mem_filter.mp secondListed).2).symm
  exact List.inj_on_of_nodup_map target.distinct (List.mem_of_mem_filter firstListed)
    (List.mem_of_mem_filter secondListed) (Prod.ext types same)

variable [DecidableEq κ] (callback : κ)

def addEventListener (once : Bool) : EventTarget τ κ :=
  if registered : (type, callback) ∈ target.listeners.map (fun listener => (listener.type, listener.callback)) then
    target
  else {
    listeners := target.listeners ++ [⟨type, callback, once⟩]
    distinct := by
      rw [List.map_append]
      exact target.distinct.append (List.nodup_singleton _) (by simpa using registered) }

def removeEventListener : EventTarget τ κ where
  listeners := target.listeners.filter (fun listener => ¬ (listener.type = type ∧ listener.callback = callback))
  distinct := (List.filter_sublist.map _).nodup target.distinct

variable {target type callback} {listener : Listener τ κ}

theorem mem_addEventListener (once : Bool)
    (unregistered : (type, callback) ∉ target.listeners.map (fun listener => (listener.type, listener.callback))) :
    listener ∈ (target.addEventListener type callback once).listeners ↔
      listener ∈ target.listeners ∨ listener = ⟨type, callback, once⟩ := by
  rw [addEventListener, dif_neg unregistered, List.mem_append, List.mem_singleton]

theorem mem_removeEventListener :
    listener ∈ (target.removeEventListener type callback).listeners ↔
      listener ∈ target.listeners ∧ ¬ (listener.type = type ∧ listener.callback = callback) := by
  rw [removeEventListener, List.mem_filter, decide_eq_true_eq]

/-- Removing callbacks one after the other leaves those that are not among them. -/
theorem mem_foldl_removeEventListener (removed : List κ) :
    listener ∈ (removed.foldl (fun target callback => target.removeEventListener type callback) target).listeners ↔
      listener ∈ target.listeners ∧ ¬ (listener.type = type ∧ listener.callback ∈ removed) := by
  induction removed generalizing target with
  | nil => simp
  | cons first rest ih =>
      rw [List.foldl_cons, ih, mem_removeEventListener, List.mem_cons]
      tauto

end EventTarget

end A2A.Library
