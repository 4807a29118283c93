import A2A.Server.ExecutionEventBus

namespace A2A.Server

open Library

section Tracking

variable {ℓ : Type} [DecidableEq ℓ] (listenerMap : OrderedMap ℓ (List (WrappedListener ℓ)))
  (listener other : ℓ)

theorem getD_trackListener (wrapped : WrappedListener ℓ) :
    ((trackListener listenerMap listener wrapped).get? other).getD [] =
      if listener = other then (listenerMap.get? listener).getD [] ++ [wrapped]
      else (listenerMap.get? other).getD [] := by
  cases found : listenerMap.get? listener <;>
    simp only [trackListener, found, OrderedMap.get?_set] <;> split <;> rfl

theorem getD_keepList (wrappedList : List (WrappedListener ℓ)) :
    ((keepList listenerMap listener wrappedList).get? other).getD [] =
      if listener = other then wrappedList else (listenerMap.get? other).getD [] := by
  rw [keepList]
  split
  · rename_i none
    rw [OrderedMap.get?_erase, List.isEmpty_iff.mp none]
    split <;> rfl
  · rw [OrderedMap.get?_set]
    split <;> rfl

theorem getD_untrackWrappedListener (wrapped : WrappedListener ℓ) :
    ((untrackWrappedListener listenerMap listener wrapped).get? other).getD [] =
      if listener = other then ((listenerMap.get? listener).getD []).erase wrapped
      else (listenerMap.get? other).getD [] := by
  cases found : listenerMap.get? listener with
  | none =>
      simp only [untrackWrappedListener, found, Option.getD_none, List.erase_nil]
      split
      · rename_i same
        rw [← same, found, Option.getD_none]
      · rfl
  | some wrappedList =>
      simp only [untrackWrappedListener, found, Option.getD_some]
      split
      · exact getD_keepList listenerMap listener other _
      · rename_i absent
        rw [List.erase_of_not_mem absent]
        split
        · rename_i same
          rw [← same, found, Option.getD_some]
        · rfl

end Tracking

/-- The operation adds a listener for an event. -/
def BusOperation.registers {ℓ ε : Type} (operation : BusOperation ℓ ε) (eventName : ExecutionEventName) : Prop :=
  match operation with
  | .on name _ | .once name _ => name = eventName
  | _ => False

/-- What an operation does to the registrations of one listener for one event, in their order.
Each of them tells whether it is for a single event. -/
def BusOperation.register {ℓ ε α : Type} [DecidableEq ℓ] (operation : BusOperation ℓ ε) (create : Bool → α)
    (isOnce : α → Bool) (eventName : ExecutionEventName) (listener : ℓ) (registrations : List α) : List α :=
  match operation with
  | .on name added =>
      if name = eventName ∧ added = listener then registrations ++ [create false] else registrations
  | .once name added =>
      if name = eventName ∧ added = listener then registrations ++ [create true] else registrations
  | .off name removed => if name = eventName ∧ removed = listener then registrations.dropLast else registrations
  | .removeAllListeners name => if name = none ∨ name = some eventName then [] else registrations
  | .publish _ => if .event = eventName then registrations.filter (fun kept => !isOnce kept) else registrations
  | .finished => if .finished = eventName then registrations.filter (fun kept => !isOnce kept) else registrations

/-- The outstanding registrations of a listener for an event. -/
def outstanding {ℓ ε : Type} [DecidableEq ℓ] (eventName : ExecutionEventName) (listener : ℓ)
    (history : List (BusOperation ℓ ε)) : List Bool :=
  history.foldl (fun registrations operation => operation.register id id eventName listener registrations) []

theorem BusOperation.map_register {ℓ ε α : Type} [DecidableEq ℓ] (operation : BusOperation ℓ ε)
    {create : Bool → α} {isOnce : α → Bool} (creates : ∀ once, isOnce (create once) = once)
    (eventName : ExecutionEventName) (listener : ℓ) (registrations : List α) :
    (operation.register create isOnce eventName listener registrations).map isOnce =
      operation.register id id eventName listener (registrations.map isOnce) := by
  cases operation <;> simp only [register] <;> split <;>
    simp [creates, List.filter_map, Function.comp_def]

namespace DefaultExecutionEventBus

variable {ℓ ε : Type} (bus : DefaultExecutionEventBus ℓ) (eventName other : ExecutionEventName) (listener key : ℓ)

@[simp] theorem listeners_withListeners (listenerMap : OrderedMap ℓ (List (WrappedListener ℓ))) :
    (bus.withListeners listenerMap eventName).listeners other =
      if eventName = other then listenerMap else bus.listeners other := by
  cases eventName <;> cases other <;> rfl

@[simp] theorem withListeners_target (listenerMap : OrderedMap ℓ (List (WrappedListener ℓ))) :
    (bus.withListeners listenerMap eventName).target = bus.target := by
  cases eventName <;> rfl

@[simp] theorem withListeners_created (listenerMap : OrderedMap ℓ (List (WrappedListener ℓ))) :
    (bus.withListeners listenerMap eventName).created = bus.created := by
  cases eventName <;> rfl

/-- The maps do not depend on the target, nor on the number of closures. -/
theorem listeners_congr {first second : DefaultExecutionEventBus ℓ}
    (events : first.eventListeners = second.eventListeners)
    (finishes : first.finishedListeners = second.finishedListeners) : first.listeners = second.listeners := by
  funext eventName
  cases eventName with
  | event => exact events
  | finished => exact finishes

variable [DecidableEq ℓ]

/-- The closures that are tracked for a listener. -/
def tracked : List (WrappedListener ℓ) := ((bus.listeners eventName).get? listener).getD []

theorem tracked_addWrapped (once : Bool) :
    (bus.addWrapped eventName once listener).tracked other key =
      if eventName = other ∧ listener = key then
        bus.tracked eventName listener ++ [bus.wrap eventName once listener]
      else bus.tracked other key := by
  have lists : (bus.addWrapped eventName once listener).listeners other =
      (bus.withListeners (trackListener (bus.listeners eventName) listener
        (bus.wrap eventName once listener)) eventName).listeners other :=
    congrFun (listeners_congr rfl rfl) other
  rw [tracked, lists, listeners_withListeners]
  by_cases names : eventName = other
  · subst names
    rw [if_pos rfl, getD_trackListener]
    simp only [true_and, tracked]
  · simp only [names, false_and, if_false, tracked]

theorem tracked_removeWrapped :
    (bus.removeWrapped eventName listener).tracked other key =
      if eventName = other ∧ listener = key then (bus.tracked eventName listener).dropLast
      else bus.tracked other key := by
  have untouched (nothing : bus.tracked eventName listener = []) :
      bus.tracked other key =
        if eventName = other ∧ listener = key then (bus.tracked eventName listener).dropLast
        else bus.tracked other key := by
    split
    · rename_i same
      rw [← same.1, ← same.2, nothing, List.dropLast_nil]
    · rfl
  cases found : (bus.listeners eventName).get? listener with
  | none =>
      simp only [removeWrapped, found]
      exact untouched (by rw [tracked, found, Option.getD_none])
  | some wrappedList =>
      have list : bus.tracked eventName listener = wrappedList := by rw [tracked, found, Option.getD_some]
      cases last : wrappedList.getLast? with
      | none =>
          simp only [removeWrapped, found, last]
          exact untouched (list.trans (List.getLast?_eq_none_iff.mp last))
      | some wrapped =>
          have lists : (bus.removeWrapped eventName listener).listeners other =
              (bus.withListeners (keepList (bus.listeners eventName) listener wrappedList.dropLast)
                eventName).listeners other := by
            simp only [removeWrapped, found, last]
            exact congrFun (listeners_congr rfl rfl) other
          rw [tracked, lists, listeners_withListeners, list]
          by_cases names : eventName = other
          · subst names
            rw [if_pos rfl, getD_keepList]
            simp only [true_and, tracked]
          · simp only [names, false_and, if_false, tracked]

theorem tracked_clear :
    (bus.clear eventName).tracked other key = if eventName = other then [] else bus.tracked other key := by
  have lists : (bus.clear eventName).listeners other = (bus.withListeners .empty eventName).listeners other :=
    congrFun (listeners_congr rfl rfl) other
  rw [tracked, lists, listeners_withListeners]
  split <;> rfl

/-- The tracked closures of each listener are its own, and the target has exactly these. -/
structure InStep : Prop where
  registered : ∀ entry : Listener ExecutionEventName (WrappedListener ℓ), entry ∈ bus.target.listeners ↔
    entry.callback ∈ bus.tracked entry.type entry.callback.listener ∧ entry.once = entry.callback.once
  owned : ∀ eventName listener, ∀ wrapped ∈ bus.tracked eventName listener,
    wrapped.listener = listener ∧ wrapped.eventName = eventName ∧ wrapped.serial < bus.created
  apart : ∀ eventName listener, (bus.tracked eventName listener).Nodup

variable {bus}

theorem InStep.empty : (empty : DefaultExecutionEventBus ℓ).InStep where
  registered entry := by
    cases entry with
    | mk type callback once => cases type <;> exact ⟨nofun, nofun⟩
  owned eventName listener := by cases eventName <;> exact nofun
  apart eventName listener := by cases eventName <;> exact List.nodup_nil

theorem InStep.wrap_fresh (inStep : bus.InStep) (once : Bool) :
    bus.wrap eventName once listener ∉ bus.tracked other key := fun listed =>
  Nat.lt_irrefl _ (inStep.owned other key _ listed).2.2

theorem InStep.mem_addWrapped (inStep : bus.InStep) (once : Bool)
    {entry : Listener ExecutionEventName (WrappedListener ℓ)} :
    entry ∈ (bus.addWrapped eventName once listener).target.listeners ↔
      entry ∈ bus.target.listeners ∨ entry = ⟨eventName, bus.wrap eventName once listener, once⟩ := by
  refine EventTarget.mem_addEventListener once fun listed => ?_
  obtain ⟨old, member, same⟩ := List.mem_map.mp listed
  rw [Prod.mk.injEq] at same
  exact inStep.wrap_fresh eventName _ listener _ once (same.2 ▸ ((inStep.registered old).mp member).1)

theorem InStep.addWrapped (inStep : bus.InStep) (once : Bool) :
    (bus.addWrapped eventName once listener).InStep where
  registered entry := by
    rw [inStep.mem_addWrapped, inStep.registered, tracked_addWrapped]
    split
    · rename_i same
      rw [← same.1, ← same.2, List.mem_append, List.mem_singleton]
      constructor
      · intro listed
        cases listed with
        | inl old => exact ⟨.inl old.1, old.2⟩
        | inr added => exact ⟨.inr (congrArg Listener.callback added), added ▸ rfl⟩
      · intro ⟨listed, flag⟩
        cases listed with
        | inl old => exact .inl ⟨old, flag⟩
        | inr added =>
            obtain ⟨type, callback, entryOnce⟩ := entry
            cases added
            cases flag
            exact .inr (congrArg (Listener.mk · _ _) same.1.symm)
    · rename_i differ
      refine or_iff_left fun added => differ ?_
      rw [added]
      exact ⟨rfl, rfl⟩
  owned other key wrapped listed := by
    rw [tracked_addWrapped] at listed
    have grows : ∀ {serial}, serial < bus.created →
        serial < (bus.addWrapped eventName once listener).created := Nat.lt_succ_of_lt
    split at listed
    · rename_i same
      rw [← same.1, ← same.2]
      cases List.mem_append.mp listed with
      | inl old =>
          obtain ⟨own, name, serial⟩ := inStep.owned _ _ wrapped old
          exact ⟨own, name, grows serial⟩
      | inr added =>
          rw [List.mem_singleton.mp added]
          exact ⟨rfl, rfl, Nat.lt_succ_self _⟩
    · obtain ⟨own, name, serial⟩ := inStep.owned _ _ wrapped listed
      exact ⟨own, name, grows serial⟩
  apart other key := by
    rw [tracked_addWrapped]
    split
    · refine (inStep.apart _ _).append (List.nodup_singleton _) ?_
      rw [List.disjoint_singleton]
      exact inStep.wrap_fresh _ _ _ _ once
    · exact inStep.apart _ _

/-- A tracked closure is taken out of its list and out of the target. -/
theorem InStep.remove (inStep : bus.InStep) {after : DefaultExecutionEventBus ℓ} {wrapped : WrappedListener ℓ}
    (member : wrapped ∈ bus.tracked eventName listener)
    (target : after.target = bus.target.removeEventListener eventName wrapped)
    (created : after.created = bus.created)
    (lists : ∀ other key, after.tracked other key =
      if eventName = other ∧ listener = key then (bus.tracked eventName listener).erase wrapped
      else bus.tracked other key) : after.InStep := by
  obtain ⟨own, -, -⟩ := inStep.owned _ _ wrapped member
  have sublist (other : ExecutionEventName) (key : ℓ) :
      (after.tracked other key).Sublist (bus.tracked other key) := by
    rw [lists]
    split
    · rename_i same
      rw [same.1, same.2]
      exact List.erase_sublist
    · exact List.Sublist.refl _
  refine ⟨fun entry => ?_, fun other key kept listed => ?_,
    fun other key => (sublist other key).nodup (inStep.apart _ _)⟩
  · rw [target, EventTarget.mem_removeEventListener, inStep.registered, lists]
    split
    · rename_i same
      rw [← same.1, ← same.2, (inStep.apart eventName listener).mem_erase_iff]
      tauto
    · rename_i differ
      refine and_iff_left fun same => differ ⟨same.1.symm, ?_⟩
      rw [same.2, own]
  · obtain ⟨own, name, serial⟩ := inStep.owned _ _ kept ((sublist other key).mem listed)
    exact ⟨own, name, created ▸ serial⟩

theorem InStep.removeWrapped (inStep : bus.InStep) : (bus.removeWrapped eventName listener).InStep := by
  cases found : (bus.listeners eventName).get? listener with
  | none => simpa only [DefaultExecutionEventBus.removeWrapped, found] using inStep
  | some wrappedList =>
      cases last : wrappedList.getLast? with
      | none => simpa only [DefaultExecutionEventBus.removeWrapped, found, last] using inStep
      | some wrapped =>
          have list : bus.tracked eventName listener = wrappedList := by rw [tracked, found, Option.getD_some]
          have split : wrappedList = wrappedList.dropLast ++ [wrapped] :=
            (List.dropLast_append_getLast? wrapped last).symm
          have erased : (bus.tracked eventName listener).dropLast = (bus.tracked eventName listener).erase wrapped := by
            have apart := inStep.apart eventName listener
            rw [list, split] at apart
            have elsewhere : wrapped ∉ wrappedList.dropLast := fun earlier =>
              List.disjoint_of_nodup_append apart earlier List.mem_cons_self
            rw [list, split, List.erase_append_right _ elsewhere]
            simp
          have member : wrapped ∈ bus.tracked eventName listener := by
            rw [list, split]
            exact List.mem_append_right _ List.mem_cons_self
          refine inStep.remove eventName listener member ?_ ?_ fun other key => ?_
          · simp only [DefaultExecutionEventBus.removeWrapped, found, last]
          · simp only [DefaultExecutionEventBus.removeWrapped, found, last, withListeners_created]
          · rw [tracked_removeWrapped, erased]

theorem InStep.mem_values (inStep : bus.InStep) {wrapped : WrappedListener ℓ} :
    wrapped ∈ (bus.listeners eventName).values.flatten ↔ wrapped ∈ bus.tracked eventName wrapped.listener := by
  rw [List.mem_flatten]
  constructor
  · intro ⟨wrappedList, listed, member⟩
    obtain ⟨key, found⟩ := OrderedMap.exists_key _ listed
    have held : wrapped ∈ bus.tracked eventName key := by rw [tracked, found]; exact member
    rw [(inStep.owned _ _ wrapped held).1]
    exact held
  · intro member
    cases found : (bus.listeners eventName).get? wrapped.listener with
    | none => simp [tracked, found] at member
    | some wrappedList =>
        rw [tracked, found] at member
        exact ⟨wrappedList, OrderedMap.mem_values _ found, member⟩

/-- No closure is tracked twice, not even for two listeners. -/
theorem InStep.values_nodup (inStep : bus.InStep) : (bus.listeners eventName).values.flatten.Nodup := by
  have held {key : ℓ} {wrappedList : List (WrappedListener ℓ)}
      (listed : (key, wrappedList) ∈ (bus.listeners eventName).entries) :
      bus.tracked eventName key = wrappedList := by
    rw [tracked, (OrderedMap.get?_eq_some_iff _).mpr listed, Option.getD_some]
  rw [List.nodup_flatten]
  refine ⟨fun wrappedList listed => ?_, ?_⟩
  · obtain ⟨⟨key, _⟩, entered, rfl⟩ := List.mem_map.mp listed
    exact held entered ▸ inStep.apart eventName key
  · have keys := (bus.listeners eventName).distinct
    rw [List.Nodup, List.pairwise_map] at keys
    refine List.pairwise_map.mpr (keys.imp_of_mem fun {first second} firstListed secondListed differ => ?_)
    intro wrapped firstHas secondHas
    rw [← held firstListed] at firstHas
    rw [← held secondListed] at secondHas
    exact differ ((inStep.owned _ _ wrapped firstHas).1.symm.trans (inStep.owned _ _ wrapped secondHas).1)

theorem InStep.clear (inStep : bus.InStep) : (bus.clear eventName).InStep := by
  have created : (bus.clear eventName).created = bus.created := withListeners_created bus eventName _
  refine ⟨fun entry => ?_, fun other key wrapped listed => ?_, fun other key => ?_⟩
  · have target : entry ∈ (bus.clear eventName).target.listeners ↔
        entry ∈ bus.target.listeners ∧
          ¬ (entry.type = eventName ∧ entry.callback ∈ (bus.listeners eventName).values.flatten) :=
      EventTarget.mem_foldl_removeEventListener _
    rw [target, inStep.registered, inStep.mem_values, tracked_clear]
    by_cases names : eventName = entry.type
    · subst names
      simp only [true_and, if_pos, List.not_mem_nil, false_and, iff_false]
      exact fun ⟨member, absent⟩ => absent member.1
    · simp only [Ne.symm names, false_and, not_false_eq_true, and_true, if_neg names]
  · rw [tracked_clear] at listed
    split at listed
    · exact nomatch listed
    · rw [created]
      exact inStep.owned _ _ wrapped listed
  · rw [tracked_clear]
    split
    · exact List.nodup_nil
    · exact inStep.apart _ _

/-- What a dispatch leaves of a listener's closures, once the given entries have been called. -/
def unspent (entries : List (Listener ExecutionEventName (WrappedListener ℓ))) (eventName : ExecutionEventName)
    (wrappedList : List (WrappedListener ℓ)) : List (WrappedListener ℓ) :=
  wrappedList.filter (fun wrapped => ¬ (wrapped.once = true ∧ ⟨eventName, wrapped, wrapped.once⟩ ∈ entries))

/-- The calls of the listeners of one event. -/
def callsOf (detail : Option ε) (entries : List (Listener ExecutionEventName (WrappedListener ℓ))) :
    List (ListenerCall ℓ ε) :=
  entries.map (fun entry => ⟨entry.callback, detail⟩)

/-- The detail of an event belongs to its type. -/
def Fits (detail : Option ε) (eventName : ExecutionEventName) : Prop :=
  detail.isSome = true ↔ eventName = .event

theorem fits_some (event : ε) : Fits (some event) .event := by
  simp [Fits]

theorem fits_none (ε : Type) : Fits (none : Option ε) .finished := by
  simp [Fits]

theorem callWrapped_eq {wrapped : WrappedListener ℓ} {detail : Option ε} (fits : Fits detail wrapped.eventName) :
    bus.callWrapped wrapped detail =
      (if wrapped.once then
        bus.withListeners
          (untrackWrappedListener (bus.listeners wrapped.eventName) wrapped.listener wrapped) wrapped.eventName
      else bus, [⟨wrapped, detail⟩]) := by
  unfold callWrapped
  unfold Fits at fits
  cases named : wrapped.eventName <;> cases detail <;> simp_all

/-- Spending one entry takes its closure out of one list. -/
theorem InStep.unspent_single (inStep : bus.InStep) {entry : Listener ExecutionEventName (WrappedListener ℓ)}
    (listed : entry ∈ bus.target.listeners) :
    unspent [entry] other (bus.tracked other key) =
      if entry.once = true ∧ entry.type = other ∧ entry.callback.listener = key then
        (bus.tracked other key).erase entry.callback
      else bus.tracked other key := by
  have flag := ((inStep.registered entry).mp listed).2
  unfold unspent
  split
  · rename_i same
    rw [(inStep.apart other key).erase_eq_filter]
    refine List.filter_congr fun wrapped _ => ?_
    have spends : wrapped.once = true ∧ ⟨other, wrapped, wrapped.once⟩ ∈ [entry] ↔ wrapped = entry.callback := by
      rw [List.mem_singleton]
      refine ⟨fun spent => congrArg Listener.callback spent.2, fun equal => ?_⟩
      rw [equal, ← flag, ← same.2.1]
      exact ⟨same.1, rfl⟩
    rw [bne, beq_eq_decide, ← decide_not, decide_eq_decide, spends]
  · rename_i differ
    refine List.filter_eq_self.mpr fun wrapped member => decide_eq_true fun spent => differ ?_
    rw [← List.mem_singleton.mp spent.2]
    exact ⟨spent.1, rfl, (inStep.owned other key wrapped member).1⟩

/-- The bus after the call of an entry: one for a single event is gone. -/
def spend (bus : DefaultExecutionEventBus ℓ) (entry : Listener ExecutionEventName (WrappedListener ℓ)) :
    DefaultExecutionEventBus ℓ :=
  if entry.once then
    let removed := { bus with target := bus.target.removeEventListener entry.type entry.callback }
    removed.withListeners
      (untrackWrappedListener (bus.listeners entry.type) entry.callback.listener entry.callback) entry.type
  else bus

section Spend

variable {entry : Listener ExecutionEventName (WrappedListener ℓ)}

theorem InStep.callListener_eq (inStep : bus.InStep) {detail : Option ε} (fits : Fits detail entry.type)
    (listed : entry ∈ bus.target.listeners) :
    bus.callListener entry detail = (bus.spend entry, [⟨entry.callback, detail⟩]) := by
  obtain ⟨member, flag⟩ := (inStep.registered entry).mp listed
  obtain ⟨-, name, -⟩ := inStep.owned _ _ _ member
  rw [callListener, callWrapped_eq (name ▸ fits), ← flag, name, spend]
  cases entry.once with
  | false => rfl
  | true =>
      have same : (DefaultExecutionEventBus.mk (bus.target.removeEventListener entry.type entry.callback)
          bus.eventListeners bus.finishedListeners bus.created).listeners = bus.listeners := listeners_congr rfl rfl
      simp only [if_true, same]

theorem spend_created (bus : DefaultExecutionEventBus ℓ) : (bus.spend entry).created = bus.created := by
  rw [spend]
  split
  · exact withListeners_created _ _ _
  · rfl

theorem InStep.tracked_spend (inStep : bus.InStep) (listed : entry ∈ bus.target.listeners) :
    (bus.spend entry).tracked other key = unspent [entry] other (bus.tracked other key) := by
  rw [inStep.unspent_single other key listed, spend]
  cases entry.once with
  | false => simp
  | true =>
      simp only [if_true, true_and, tracked, listeners_withListeners]
      by_cases names : entry.type = other
      · subst names
        simp only [if_true, true_and, getD_untrackWrappedListener]
        split
        · rename_i same
          rw [same]
        · rfl
      · simp only [names, false_and, if_false]
        rfl

theorem mem_spend (listed : entry ∈ bus.target.listeners)
    {kept : Listener ExecutionEventName (WrappedListener ℓ)} :
    kept ∈ (bus.spend entry).target.listeners ↔
      kept ∈ bus.target.listeners ∧ ¬ (entry.once = true ∧ kept = entry) := by
  rw [spend]
  cases entry.once with
  | false => simp
  | true =>
      simp only [if_true, true_and, withListeners_target, EventTarget.mem_removeEventListener]
      refine and_congr_right fun member => not_congr ⟨fun same => ?_, fun same => same ▸ ⟨rfl, rfl⟩⟩
      exact EventTarget.listener_unique member listed same.1 same.2

theorem InStep.spend (inStep : bus.InStep) (listed : entry ∈ bus.target.listeners) :
    (bus.spend entry).InStep := by
  have lists := fun other key => inStep.tracked_spend other key listed
  have single := fun other key => inStep.unspent_single other key listed
  cases once : entry.once with
  | false =>
      rw [DefaultExecutionEventBus.spend, once]
      exact inStep
  | true =>
      refine inStep.remove entry.type entry.callback.listener ((inStep.registered entry).mp listed).1 ?_
        (spend_created bus) fun other key => ?_
      · rw [DefaultExecutionEventBus.spend, once, if_pos rfl, withListeners_target]
      · rw [lists, single, once]
        simp only [true_and]
        split
        · rename_i same
          rw [same.1, same.2]
        · rfl

/-- A dispatch calls what was registered, once each, and spends it. -/
theorem InStep.callListeners {detail : Option ε} (fits : Fits detail eventName)
    {entries : List (Listener ExecutionEventName (WrappedListener ℓ))} (inStep : bus.InStep)
    (distinct : entries.Nodup) (listed : ∀ entry ∈ entries, entry ∈ bus.target.listeners)
    (types : ∀ entry ∈ entries, entry.type = eventName) :
    (callListeners detail entries bus).2 = callsOf detail entries ∧
      (callListeners detail entries bus).1.InStep ∧
      (callListeners detail entries bus).1.created = bus.created ∧
      ∀ other key, (callListeners detail entries bus).1.tracked other key =
        unspent entries other (bus.tracked other key) := by
  induction entries generalizing bus with
  | nil => exact ⟨rfl, inStep, rfl, fun other key => by simp [DefaultExecutionEventBus.callListeners, unspent]⟩
  | cons entry rest ih =>
      rw [List.nodup_cons] at distinct
      have here := listed entry List.mem_cons_self
      have call := inStep.callListener_eq (types entry List.mem_cons_self ▸ fits) here
      obtain ⟨calls, stays, created, lists⟩ := ih (inStep.spend here) distinct.2
        (fun kept member => (mem_spend here).mpr
          ⟨listed kept (List.mem_cons_of_mem _ member), fun same => distinct.1 (same.2 ▸ member)⟩)
        (fun kept member => types kept (List.mem_cons_of_mem _ member))
      simp only [DefaultExecutionEventBus.callListeners, if_pos here, call]
      refine ⟨?_, stays, created.trans (spend_created bus), fun other key => ?_⟩
      · rw [calls]
        rfl
      · rw [lists, inStep.tracked_spend other key here, unspent, unspent, unspent, List.filter_filter]
        refine List.filter_congr fun wrapped _ => ?_
        rw [← Bool.decide_and, decide_eq_decide, List.mem_singleton, List.mem_cons]
        tauto

end Spend

/-- What a dispatch of one event leaves of a listener's closures. -/
theorem InStep.unspent_dispatch (inStep : bus.InStep) :
    unspent (bus.target.listeners.filter (fun entry => entry.type = eventName)) other (bus.tracked other key) =
      if eventName = other then (bus.tracked other key).filter (fun wrapped => !wrapped.once)
      else bus.tracked other key := by
  have registered {wrapped : WrappedListener ℓ} (member : wrapped ∈ bus.tracked other key) :
      (⟨other, wrapped, wrapped.once⟩ : Listener _ _) ∈
          bus.target.listeners.filter (fun entry => entry.type = eventName) ↔ eventName = other := by
    have own := (inStep.owned other key wrapped member).1
    rw [List.mem_filter, inStep.registered, decide_eq_true_eq]
    exact ⟨fun both => both.2.symm, fun same => ⟨⟨own ▸ member, rfl⟩, same.symm⟩⟩
  unfold unspent
  split
  · rename_i same
    refine List.filter_congr fun wrapped member => ?_
    simp [(registered member).mpr same]
  · rename_i differ
    refine List.filter_eq_self.mpr fun wrapped member => decide_eq_true fun spent => differ ?_
    exact (registered member).mp spent.2

theorem InStep.dispatchEvent (inStep : bus.InStep) {detail : Option ε} (fits : Fits detail eventName) :
    (bus.dispatchEvent eventName detail).2.map ListenerCall.wrapped = bus.target.callbacks eventName ∧
      (∀ call ∈ (bus.dispatchEvent eventName detail).2, call.detail = detail) ∧
      (bus.dispatchEvent eventName detail).1.InStep ∧
      (bus.dispatchEvent eventName detail).1.created = bus.created ∧
      ∀ other key, (bus.dispatchEvent eventName detail).1.tracked other key =
        if eventName = other then (bus.tracked other key).filter (fun wrapped => !wrapped.once)
        else bus.tracked other key := by
  have distinct : (bus.target.listeners.filter (fun entry => entry.type = eventName)).Nodup :=
    (bus.target.distinct.of_map _).filter _
  obtain ⟨calls, stays, created, lists⟩ := inStep.callListeners eventName fits distinct
    (fun _ listed => List.mem_of_mem_filter listed) (fun _ listed => of_decide_eq_true (List.mem_filter.mp listed).2)
  have called : (bus.dispatchEvent eventName detail).2 =
      callsOf detail (bus.target.listeners.filter (fun entry => entry.type = eventName)) := calls
  refine ⟨?_, ?_, stays, created, fun other key => (lists other key).trans (inStep.unspent_dispatch _ _ _)⟩
  · rw [called, callsOf, List.map_map]
    rfl
  · intro call listed
    rw [called] at listed
    obtain ⟨entry, -, rfl⟩ := List.mem_map.mp listed
    rfl

theorem InStep.mem_callbacks (inStep : bus.InStep) {wrapped : WrappedListener ℓ} :
    wrapped ∈ bus.target.callbacks eventName ↔ wrapped ∈ bus.tracked eventName wrapped.listener := by
  rw [EventTarget.callbacks, List.mem_map]
  constructor
  · intro ⟨entry, listed, same⟩
    obtain ⟨registered, type⟩ := List.mem_filter.mp listed
    rw [← of_decide_eq_true type, ← same]
    exact ((inStep.registered entry).mp registered).1
  · intro member
    refine ⟨⟨eventName, wrapped, wrapped.once⟩, List.mem_filter.mpr ⟨?_, decide_eq_true rfl⟩, rfl⟩
    exact (inStep.registered _).mpr ⟨member, rfl⟩

/-- The closures that the target holds for an event are those of its map. -/
theorem InStep.callbacks_perm (inStep : bus.InStep) :
    (bus.target.callbacks eventName).Perm (bus.listeners eventName).values.flatten :=
  (List.perm_ext_iff_of_nodup (bus.target.callbacks_nodup eventName) (inStep.values_nodup eventName)).mpr
    fun _ => (inStep.mem_callbacks eventName).trans (inStep.mem_values eventName).symm

/-- Those that wrap one listener are the ones tracked for it. -/
theorem InStep.callbacks_of (inStep : bus.InStep) :
    ((bus.target.callbacks eventName).filter (fun wrapped => wrapped.listener = listener)).Perm
      (bus.tracked eventName listener) := by
  refine (List.perm_ext_iff_of_nodup ((bus.target.callbacks_nodup eventName).filter _)
    (inStep.apart eventName listener)).mpr fun wrapped => ?_
  rw [List.mem_filter, inStep.mem_callbacks, decide_eq_true_eq]
  constructor
  · rintro ⟨member, rfl⟩
    exact member
  · intro member
    have own := (inStep.owned _ _ wrapped member).1
    exact ⟨own ▸ member, own⟩

theorem removeWrapped_created (bus : DefaultExecutionEventBus ℓ) :
    (bus.removeWrapped eventName listener).created = bus.created := by
  unfold removeWrapped
  split
  · split
    · exact withListeners_created _ _ _
    · rfl
  · rfl

theorem removeAllListeners_created (bus : DefaultExecutionEventBus ℓ) (name : Option ExecutionEventName) :
    (bus.removeAllListeners name).created = bus.created := by
  unfold removeAllListeners
  dsimp only
  split <;> split <;> rfl

theorem InStep.removeAllListeners (inStep : bus.InStep) (name : Option ExecutionEventName) :
    (bus.removeAllListeners name).InStep ∧
      ∀ other key, (bus.removeAllListeners name).tracked other key =
        if name = none ∨ name = some other then [] else bus.tracked other key := by
  have cleared : (bus.removeAllListeners name).InStep := by
    unfold DefaultExecutionEventBus.removeAllListeners
    dsimp only
    split <;> split
    · exact (inStep.clear _).clear _
    · exact inStep.clear _
    · exact inStep.clear _
    · exact inStep
  refine ⟨cleared, fun other key => ?_⟩
  unfold DefaultExecutionEventBus.removeAllListeners
  cases name with
  | none => cases other <;> simp [tracked_clear]
  | some name => cases name <;> cases other <;> simp [tracked_clear]

/-- One operation: the registries stay in step, and each list changes as registrations do. -/
theorem InStep.perform (inStep : bus.InStep) (operation : BusOperation ℓ ε) :
    ((busService ℓ ε).perform bus operation).1.InStep ∧
      bus.created ≤ ((busService ℓ ε).perform bus operation).1.created ∧
      ∀ other key, ((busService ℓ ε).perform bus operation).1.tracked other key =
        operation.register (fun once => bus.wrap other once key) WrappedListener.once other key
          (bus.tracked other key) := by
  have added (once : Bool) (name : ExecutionEventName) (added : ℓ) (other : ExecutionEventName) (key : ℓ) :
      (bus.addWrapped name once added).tracked other key =
        if name = other ∧ added = key then bus.tracked other key ++ [bus.wrap other once key]
        else bus.tracked other key := by
    rw [tracked_addWrapped]
    refine ite_congr rfl (fun same => ?_) fun _ => rfl
    rw [same.1, same.2]
  cases operation with
  | on name listener =>
      have on : bus.on name listener = bus.addWrapped name false listener := by cases name <;> rfl
      simp only [busService, on, BusOperation.register]
      exact ⟨inStep.addWrapped name listener false, Nat.le_succ _, added false name listener⟩
  | once name listener =>
      have once : bus.once name listener = bus.addWrapped name true listener := by cases name <;> rfl
      simp only [busService, once, BusOperation.register]
      exact ⟨inStep.addWrapped name listener true, Nat.le_succ _, added true name listener⟩
  | off name listener =>
      have off : bus.off name listener = bus.removeWrapped name listener := by cases name <;> rfl
      simp only [busService, off, BusOperation.register]
      refine ⟨inStep.removeWrapped name listener, ?_, fun other key => ?_⟩
      · exact Nat.le_of_eq (removeWrapped_created name listener bus).symm
      · rw [tracked_removeWrapped]
        refine ite_congr rfl (fun same => ?_) fun _ => rfl
        rw [same.1, same.2]
  | removeAllListeners name =>
      obtain ⟨stays, lists⟩ := inStep.removeAllListeners name
      exact ⟨stays, Nat.le_of_eq (removeAllListeners_created bus name).symm, lists⟩
  | publish event =>
      obtain ⟨-, -, stays, created, lists⟩ := inStep.dispatchEvent .event (fits_some event)
      exact ⟨stays, Nat.le_of_eq created.symm, lists⟩
  | finished =>
      obtain ⟨-, -, stays, created, lists⟩ := inStep.dispatchEvent .finished (fits_none ε)
      exact ⟨stays, Nat.le_of_eq created.symm, lists⟩

/-- What an operation calls is what is registered for the event that it dispatches. -/
theorem InStep.calls (inStep : bus.InStep) (operation : BusOperation ℓ ε) :
    ((busService ℓ ε).perform bus operation).2.map ListenerCall.wrapped =
      match operation with
      | .publish _ => bus.target.callbacks .event
      | .finished => bus.target.callbacks .finished
      | _ => [] := by
  cases operation with
  | on name listener => rfl
  | once name listener => rfl
  | off name listener => rfl
  | removeAllListeners name => rfl
  | publish event => exact (inStep.dispatchEvent .event (fits_some event)).1
  | finished => exact (inStep.dispatchEvent .finished (fits_none ε)).1

/-- A closure that is called was tracked for the event that is dispatched. -/
theorem InStep.tracked_of_call (inStep : bus.InStep) {operation : BusOperation ℓ ε} {wrapped : WrappedListener ℓ}
    (called : wrapped ∈ ((busService ℓ ε).perform bus operation).2.map ListenerCall.wrapped) :
    wrapped ∈ bus.tracked wrapped.eventName wrapped.listener ∧
      ((∃ event, operation = .publish event) ∧ wrapped.eventName = .event ∨
        operation = .finished ∧ wrapped.eventName = .finished) := by
  rw [inStep.calls] at called
  have tracked {name : ExecutionEventName} (held : wrapped ∈ bus.target.callbacks name) :
      wrapped.eventName = name ∧ wrapped ∈ bus.tracked wrapped.eventName wrapped.listener := by
    have member := (inStep.mem_callbacks name).mp held
    have named := (inStep.owned _ _ wrapped member).2.1
    exact ⟨named, named ▸ member⟩
  cases operation with
  | publish event => exact ⟨(tracked called).2, .inl ⟨⟨event, rfl⟩, (tracked called).1⟩⟩
  | finished => exact ⟨(tracked called).2, .inr ⟨rfl, (tracked called).1⟩⟩
  | on name listener => exact nomatch called
  | once name listener => exact nomatch called
  | off name listener => exact nomatch called
  | removeAllListeners name => exact nomatch called

/-- The closure is registered no more, and will not be made again. -/
structure Spent (bus : DefaultExecutionEventBus ℓ) (wrapped : WrappedListener ℓ) : Prop where
  made : wrapped.serial < bus.created
  gone : ∀ eventName listener, wrapped ∉ bus.tracked eventName listener

theorem mem_register {α : Type} {operation : BusOperation ℓ ε} {create : Bool → α} {isOnce : α → Bool}
    {registrations : List α} {registered : α}
    (listed : registered ∈ operation.register create isOnce eventName listener registrations) :
    registered ∈ registrations ∨ ∃ once, registered = create once := by
  cases operation <;> simp only [BusOperation.register] at listed <;> split at listed
  case on.isTrue | once.isTrue =>
    cases List.mem_append.mp listed with
    | inl old => exact .inl old
    | inr added => exact .inr ⟨_, List.mem_singleton.mp added⟩
  case off.isTrue => exact .inl (List.dropLast_subset _ listed)
  case removeAllListeners.isTrue => exact nomatch listed
  case publish.isTrue | finished.isTrue => exact .inl (List.mem_of_mem_filter listed)
  all_goals exact .inl listed

theorem Spent.perform (inStep : bus.InStep) {wrapped : WrappedListener ℓ} (spent : bus.Spent wrapped)
    (operation : BusOperation ℓ ε) : ((busService ℓ ε).perform bus operation).1.Spent wrapped := by
  obtain ⟨-, created, lists⟩ := inStep.perform operation
  refine ⟨Nat.lt_of_lt_of_le spent.made created, fun name listener listed => ?_⟩
  rw [lists] at listed
  rcases mem_register name listener listed with old | ⟨once, new⟩
  · exact spent.gone name listener old
  · have made := spent.made
    rw [new] at made
    exact Nat.lt_irrefl bus.created made

/-- A closure for a single event is spent by its call. -/
theorem InStep.spent_of_call (inStep : bus.InStep) {operation : BusOperation ℓ ε} {wrapped : WrappedListener ℓ}
    (once : wrapped.once = true)
    (called : wrapped ∈ ((busService ℓ ε).perform bus operation).2.map ListenerCall.wrapped) :
    ((busService ℓ ε).perform bus operation).1.Spent wrapped := by
  obtain ⟨tracked, dispatched⟩ := inStep.tracked_of_call called
  obtain ⟨stays, created, lists⟩ := inStep.perform operation
  refine ⟨Nat.lt_of_lt_of_le (inStep.owned _ _ wrapped tracked).2.2 created, fun name listener listed => ?_⟩
  have named := (stays.owned _ _ wrapped listed).2.1
  rw [lists] at listed
  rcases dispatched with ⟨⟨event, rfl⟩, type⟩ | ⟨rfl, type⟩
  · rw [BusOperation.register, if_pos (type.symm.trans named), List.mem_filter, once] at listed
    exact Bool.false_ne_true listed.2
  · rw [BusOperation.register, if_pos (type.symm.trans named), List.mem_filter, once] at listed
    exact Bool.false_ne_true listed.2

/-- Nothing is registered for an event. -/
def Quiet (bus : DefaultExecutionEventBus ℓ) (eventName : ExecutionEventName) : Prop :=
  ∀ listener, bus.tracked eventName listener = []

theorem Quiet.perform (inStep : bus.InStep) {operation : BusOperation ℓ ε} (quiet : bus.Quiet eventName)
    (unregistering : ¬ operation.registers eventName) :
    ((busService ℓ ε).perform bus operation).1.Quiet eventName := by
  intro listener
  rw [(inStep.perform operation).2.2, quiet listener]
  cases operation with
  | on name added => exact if_neg fun same => unregistering same.1
  | once name added => exact if_neg fun same => unregistering same.1
  | off name removed => exact ite_self _
  | removeAllListeners name => exact ite_self _
  | publish event => exact ite_self _
  | finished => exact ite_self _

end DefaultExecutionEventBus

section Runs

variable {ℓ ε : Type} [DecidableEq ℓ]

open DefaultExecutionEventBus

def busAfter (history : List (BusOperation ℓ ε)) : DefaultExecutionEventBus ℓ :=
  (busService ℓ ε).after .empty history

/-- All calls of a run, in their order. -/
def callsFrom (bus : DefaultExecutionEventBus ℓ) (operations : List (BusOperation ℓ ε)) : List (ListenerCall ℓ ε) :=
  ((busService ℓ ε).answers bus operations).flatMap Prod.snd

theorem callsFrom_cons (bus : DefaultExecutionEventBus ℓ) (operation : BusOperation ℓ ε)
    (rest : List (BusOperation ℓ ε)) :
    callsFrom bus (operation :: rest) =
      ((busService ℓ ε).perform bus operation).2 ++ callsFrom ((busService ℓ ε).perform bus operation).1 rest :=
  List.flatMap_cons

theorem inStep_after {bus : DefaultExecutionEventBus ℓ} (inStep : bus.InStep) (operations : List (BusOperation ℓ ε)) :
    ((busService ℓ ε).after bus operations).InStep := by
  induction operations generalizing bus with
  | nil => exact inStep
  | cons operation rest ih => exact ih (inStep.perform operation).1

theorem map_tracked_after {bus : DefaultExecutionEventBus ℓ} (inStep : bus.InStep)
    (operations : List (BusOperation ℓ ε)) (eventName : ExecutionEventName) (listener : ℓ) :
    (((busService ℓ ε).after bus operations).tracked eventName listener).map WrappedListener.once =
      operations.foldl (fun registrations operation => operation.register id id eventName listener registrations)
        ((bus.tracked eventName listener).map WrappedListener.once) := by
  induction operations generalizing bus with
  | nil => rfl
  | cons operation rest ih =>
      obtain ⟨stays, -, lists⟩ := inStep.perform operation
      have wraps (once : Bool) : WrappedListener.once (bus.wrap eventName once listener) = once := rfl
      have step := operation.map_register wraps eventName listener (bus.tracked eventName listener)
      rw [← lists] at step
      exact (ih stays).trans (by rw [List.foldl_cons, step])

/-- Each listener has one tracked closure for each of its outstanding registrations. -/
theorem tracked_busAfter (history : List (BusOperation ℓ ε)) (eventName : ExecutionEventName) (listener : ℓ) :
    ((busAfter history).tracked eventName listener).map WrappedListener.once =
      outstanding eventName listener history := by
  have empty : (DefaultExecutionEventBus.empty : DefaultExecutionEventBus ℓ).tracked eventName listener = [] := by
    cases eventName <;> rfl
  have run := map_tracked_after (.empty) history eventName listener
  rw [empty] at run
  exact run

theorem count_of_spent {bus : DefaultExecutionEventBus ℓ} (inStep : bus.InStep) {wrapped : WrappedListener ℓ}
    (spent : bus.Spent wrapped) (operations : List (BusOperation ℓ ε)) :
    ((callsFrom bus operations).map ListenerCall.wrapped).count wrapped = 0 := by
  induction operations generalizing bus with
  | nil => rfl
  | cons operation rest ih =>
      rw [callsFrom_cons, List.map_append, List.count_append,
        ih (inStep.perform operation).1 (spent.perform inStep operation)]
      exact List.count_eq_zero.mpr fun called => spent.gone _ _ (inStep.tracked_of_call called).1

theorem count_once_le {bus : DefaultExecutionEventBus ℓ} (inStep : bus.InStep) {wrapped : WrappedListener ℓ}
    (once : wrapped.once = true) (operations : List (BusOperation ℓ ε)) :
    ((callsFrom bus operations).map ListenerCall.wrapped).count wrapped ≤ 1 := by
  induction operations generalizing bus with
  | nil => exact Nat.zero_le _
  | cons operation rest ih =>
      have stays := (inStep.perform operation).1
      rw [callsFrom_cons, List.map_append, List.count_append]
      by_cases called : wrapped ∈ ((busService ℓ ε).perform bus operation).2.map ListenerCall.wrapped
      · have single : (((busService ℓ ε).perform bus operation).2.map ListenerCall.wrapped).Nodup := by
          rw [inStep.calls]
          cases operation <;> first | exact EventTarget.callbacks_nodup _ _ | exact List.nodup_nil
        rw [count_of_spent stays (inStep.spent_of_call once called)]
        exact List.nodup_iff_count_le_one.mp single wrapped
      · rw [List.count_eq_zero.mpr called, Nat.zero_add]
        exact ih stays

/-- Nothing is called for an event that nothing registers for. -/
theorem quiet_calls {bus : DefaultExecutionEventBus ℓ} (inStep : bus.InStep) {eventName : ExecutionEventName}
    (quiet : bus.Quiet eventName) {operations : List (BusOperation ℓ ε)}
    (unregistering : ∀ operation ∈ operations, ¬ operation.registers eventName) :
    ∀ call ∈ callsFrom bus operations, call.wrapped.eventName ≠ eventName := by
  induction operations generalizing bus with
  | nil => exact nofun
  | cons operation rest ih =>
      rw [List.forall_mem_cons] at unregistering
      intro call made
      rw [callsFrom_cons, List.mem_append] at made
      cases made with
      | inl now =>
          rintro rfl
          have held := (inStep.tracked_of_call (List.mem_map_of_mem now)).1
          rw [quiet] at held
          exact List.not_mem_nil held
      | inr later =>
          exact ih (inStep.perform operation).1 (quiet.perform _ inStep unregistering.1) unregistering.2 call later

/-- Behind every sequence of operations the target holds the tracked closures, an event calls each
listener once for each of its outstanding registrations, a closure for a single event is called at
most once, and what has been removed is not called again before it is registered again. -/
theorem listenerRegistry_mirrors (history : List (BusOperation ℓ ε)) :
    (∀ eventName, ((busAfter history).target.callbacks eventName).Perm
      ((busAfter history).listeners eventName).values.flatten) ∧
    (∀ (event : ε) (listener : ℓ),
      ((busAfter history).publish event).2.countP (fun call => call.wrapped.listener = listener) =
        (outstanding .event listener history).length ∧
      ∀ call ∈ ((busAfter history).publish event).2, call.detail = some event) ∧
    (∀ listener : ℓ,
      ((busAfter history).finished (ε := ε)).2.countP (fun call => call.wrapped.listener = listener) =
        (outstanding .finished listener history).length ∧
      ∀ call ∈ ((busAfter history).finished (ε := ε)).2, call.detail = none) ∧
    (∀ wrapped, wrapped.once = true →
      ((callsFrom .empty history).map ListenerCall.wrapped).count wrapped ≤ 1) ∧
    (∀ before name later eventName, history = before ++ .removeAllListeners name :: later →
      (name = none ∨ name = some eventName) → (∀ operation ∈ later, ¬ operation.registers eventName) →
      ∀ call ∈ callsFrom (busAfter (before ++ [.removeAllListeners name])) later,
        call.wrapped.eventName ≠ eventName) := by
  have inStep : (busAfter history).InStep := inStep_after .empty history
  have counted {eventName : ExecutionEventName} {detail : Option ε} (fits : Fits detail eventName) (listener : ℓ) :
      ((busAfter history).dispatchEvent eventName detail).2.countP (fun call => call.wrapped.listener = listener) =
        (outstanding eventName listener history).length := by
    rw [← tracked_busAfter, List.length_map, ← (inStep.callbacks_of eventName listener).length_eq,
      ← (inStep.dispatchEvent eventName fits).1, List.filter_map, List.length_map, ← List.countP_eq_length_filter]
    rfl
  refine ⟨inStep.callbacks_perm, fun event listener => ⟨counted (fits_some event) listener, ?_⟩,
    fun listener => ⟨counted (fits_none ε) listener, ?_⟩, fun wrapped once => count_once_le .empty once history, ?_⟩
  · exact (inStep.dispatchEvent .event (fits_some event)).2.1
  · exact (inStep.dispatchEvent .finished (fits_none ε)).2.1
  · intro before name later eventName _ removed unregistering
    have removedInStep : (busAfter (before ++ [.removeAllListeners name])).InStep := inStep_after .empty _
    refine quiet_calls removedInStep (fun listener => ?_) unregistering
    rw [busAfter, Service.after_append]
    exact ((inStep_after .empty before).removeAllListeners name).2 eventName listener |>.trans (if_pos removed)

end Runs

end A2A.Server
