import A2A.Library.Precedence
import A2A.Server.PushNotificationSender

namespace A2A.Server

open Library

/-! The order in which the webhooks of one task are notified.

The promise chain dispatches in the order in which the store lookups return,
each notification after all dispatches of the ones before it.  That is the
order of the calls exactly when the lookups return in it.
-/

namespace SendPhase

/-- The call's promise is, or has been, part of a chain. -/
def joined : SendPhase → Bool
  | .chained _ | .dispatching _ | .settled => true
  | .loadStoredConfigs | .returned | .rejected _ => false

/-- The call's notifications have been handed to their webhooks. -/
def dispatched : SendPhase → Bool
  | .dispatching _ | .settled => true
  | .chained _ | .loadStoredConfigs | .returned | .rejected _ => false

end SendPhase

namespace Dispatch

def startKey : Dispatch → Option (SendId × Nat)
  | .started send config _ => some (send, config)
  | .settled _ _ _ => none

def settleKey : Dispatch → Option (SendId × Nat)
  | .started _ _ _ => none
  | .settled send config _ => some (send, config)

end Dispatch

namespace PushNotificationSender

/-- Which call, in the order of the actions, had its lookup return configs to notify. -/
def lookupReturned : Action → Option SendId
  | .loaded id storedConfigs => if storedConfigs.isEmpty then none else some id
  | .send _ _ | .lookupFailed _ _ | .start _ | .settle _ _ _ | .evict _ => none

def lookups (actions : List Action) : List SendId := actions.filterMap lookupReturned

/-- The webhooks that were handed a notification, by call and place of the config. -/
def started (log : List Dispatch) : List (SendId × Nat) := log.filterMap Dispatch.startKey

def answered (log : List Dispatch) : List (SendId × Nat) := log.filterMap Dispatch.settleKey

variable {options : SenderOptions} {sender next : PushNotificationSender} {action : Action}
  {actions : List Action} {id other : SendId} {send asked : Send}

theorem newSend_joined (streamResponse : Option StreamResponse) (task : Option Task) :
    (newSend streamResponse task).phase.joined = false := by
  cases streamResponse with
  | none => rfl
  | some response => simp only [newSend]; split <;> rfl

theorem newSend_payload (streamResponse : Option StreamResponse) (task : Option Task)
    (loads : (newSend streamResponse task).phase = .loadStoredConfigs) :
    (newSend streamResponse task).streamResponse.isSome = true := by
  cases streamResponse with
  | none => cases loads
  | some response => rfl

/-- What one step makes of the sender. -/
inductive Stepped (options : SenderOptions) (sender : PushNotificationSender) :
    Action → PushNotificationSender → Prop
  | asked {streamResponse : Option StreamResponse} {task : Option Task} :
      Stepped options sender (.send streamResponse task) (sender.send streamResponse task)
  | left {id : SendId} {send : Send} {phase : SendPhase} {action : Action} :
      sender.sends[id]? = some send →
      send.phase = .loadStoredConfigs → phase.joined = false → phase ≠ .loadStoredConfigs →
      lookupReturned action = none →
      Stepped options sender action (sender.setSend id { send with phase })
  | joined {id : SendId} {send : Send} {storedConfigs : List StoredPushNotificationConfig} :
      sender.sends[id]? = some send →
      send.phase = .loadStoredConfigs → storedConfigs ≠ [] →
      Stepped options sender (.loaded id storedConfigs)
        { sender.setSend id
            { send with
              storedConfigs, phase := .chained (sender.notificationChain send.taskId) } with
          notificationChain := Function.update sender.notificationChain send.taskId (some id) }
  | started {id : SendId} {send : Send} {lastPromise : Option SendId} :
      sender.sends[id]? = some send →
      send.phase = .chained lastPromise → lastPromise.all sender.isSettled = true →
      Stepped options sender (.start id) (sender.startDispatches options id send)
  | settled {id : SendId} {send : Send} {outstanding : List Nat} {config : Nat}
      {result : Except String Unit} : sender.sends[id]? = some send →
      send.phase = .dispatching outstanding → config ∈ outstanding →
      Stepped options sender (.settle id config result)
        (sender.dispatchSettled id send outstanding config result)
  | evicted {id : SendId} {send : Send} : sender.sends[id]? = some send → send.phase = .settled →
      sender.notificationChain send.taskId = some id →
      Stepped options sender (.evict id)
        { sender with
          notificationChain := Function.update sender.notificationChain send.taskId none }
  | kept {id : SendId} : Stepped options sender (.evict id) sender

theorem step_cases (stepped : sender.step options action = some next) :
    Stepped options sender action next := by
  cases action with
  | send streamResponse task => cases stepped; exact .asked
  | loaded id storedConfigs =>
      simp only [step] at stepped
      split at stepped
      · rename_i send found
        split at stepped
        · rename_i loading
          cases stepped
          simp only [storedConfigsLoaded]
          split
          · rename_i none
            exact .left found loading rfl nofun (by simp [lookupReturned, none])
          · rename_i some
            exact .joined found loading (by simpa using some)
        · cases stepped
      · cases stepped
  | lookupFailed id error =>
      simp only [step] at stepped
      split at stepped
      · rename_i send found
        split at stepped
        · rename_i loading
          cases stepped
          exact .left found loading rfl nofun rfl
        · cases stepped
      · cases stepped
  | start id =>
      simp only [step] at stepped
      split at stepped
      · rename_i send found
        split at stepped
        · rename_i lastPromise chained
          split at stepped
          · rename_i free
            cases stepped
            exact .started found chained free
          · cases stepped
        · cases stepped
      · cases stepped
  | settle id config result =>
      simp only [step] at stepped
      split at stepped
      · rename_i send found
        split at stepped
        · rename_i outstanding dispatching
          split at stepped
          · rename_i listed
            cases stepped
            exact .settled found dispatching listed
          · cases stepped
        · cases stepped
      · cases stepped
  | evict id =>
      simp only [step] at stepped
      split at stepped
      · rename_i send found
        split at stepped
        · rename_i settled
          cases stepped
          simp only [evict]
          split
          · rename_i last
            exact .evicted found settled last
          · exact .kept
        · cases stepped
      · cases stepped

theorem sends_setSend (found : sender.sends[id]? = some send) :
    (sender.setSend id asked).sends[other]? =
      if other = id then some asked else sender.sends[other]? := by
  have bound : id < sender.sends.length := (List.getElem?_eq_some_iff.mp found).1
  rw [setSend, List.getElem?_set]
  by_cases same : id = other
  · subst same
    simp [bound]
  · simp [same, Ne.symm same]

theorem sends_send {streamResponse : Option StreamResponse} {task : Option Task}
    (found : (sender.send streamResponse task).sends[id]? = some send) :
    sender.sends[id]? = some send ∨ send = newSend streamResponse task := by
  rw [PushNotificationSender.send, List.getElem?_append] at found
  split at found
  · exact .inl found
  · rw [List.getElem?_singleton] at found
    split at found
    · exact .inr (Option.some.inj found).symm
    · cases found

theorem sends_send_of (found : sender.sends[id]? = some send)
    (streamResponse : Option StreamResponse) (task : Option Task) :
    (sender.send streamResponse task).sends[id]? = some send := by
  have bound : id < sender.sends.length := (List.getElem?_eq_some_iff.mp found).1
  rw [PushNotificationSender.send, List.getElem?_append_left bound, found]

theorem lookups_snoc :
    lookups (actions ++ [action]) = lookups actions ++ (lookupReturned action).toList := by
  rw [lookups, List.filterMap_append]
  cases returned : lookupReturned action <;> simp [lookups, returned]

theorem lookups_silent (silent : lookupReturned action = none) :
    lookups (actions ++ [action]) = lookups actions := by
  rw [lookups_snoc, silent]
  exact List.append_nil _

/-- How the promises of one task hang together: each joined call waits, directly or through
others, for every call of its task that joined before it. -/
structure Linked (actions : List Action) (sender : PushNotificationSender) : Prop where
  payload : ∀ (id : SendId) (send : Send), sender.sends[id]? = some send →
    send.phase = .loadStoredConfigs ∨ send.phase.joined = true → send.streamResponse.isSome = true
  configured : ∀ (id : SendId) (send : Send), sender.sends[id]? = some send →
    send.phase.joined = true → send.storedConfigs ≠ []
  busy : ∀ (id : SendId) (send : Send) (outstanding : List Nat), sender.sends[id]? = some send →
    send.phase = .dispatching outstanding → outstanding ≠ []
  listed : ∀ id, id ∈ lookups actions ↔
    ∃ send, sender.sends[id]? = some send ∧ send.phase.joined = true
  distinct : (lookups actions).Nodup
  /-- The chain's entry covers every call of the task that has not settled. -/
  last : ∀ (id : SendId) (send : Send), sender.sends[id]? = some send → send.phase.joined = true →
    send.phase = .settled ∨ ∃ last, sender.notificationChain send.taskId = some last ∧
      (id = last ∨ [id, last].Sublist (lookups actions))
  entry : ∀ taskId last, sender.notificationChain taskId = some last →
    ∃ send, sender.sends[last]? = some send ∧ send.taskId = taskId ∧ send.phase.joined = true
  waits : ∀ (id : SendId) (send : Send) (previous : SendId), sender.sends[id]? = some send →
    send.phase = .chained (some previous) → [previous, id].Sublist (lookups actions) ∧
      ∃ before, sender.sends[previous]? = some before ∧ before.taskId = send.taskId
  ordered : ∀ (first second : SendId) (earlier later : Send), sender.sends[first]? = some earlier →
    sender.sends[second]? = some later → earlier.taskId = later.taskId →
    [first, second].Sublist (lookups actions) →
    earlier.phase = .settled ∨ ∃ previous, later.phase = .chained (some previous) ∧
      (first = previous ∨ [first, previous].Sublist (lookups actions))

theorem linked_new : Linked [] new where
  payload := by simp [new]
  configured := by simp [new]
  busy := by simp [new]
  listed := by simp [new, lookups]
  distinct := List.nodup_nil
  last := by simp [new]
  entry := by simp [new]
  waits := by simp [new]
  ordered := by simp [new]

/-- A step that changes no call in the chain, nor the chain. -/
theorem Linked.aside (linked : Linked actions sender) (silent : lookupReturned action = none)
    (chain : next.notificationChain = sender.notificationChain)
    (payload : ∀ (id : SendId) (send : Send), next.sends[id]? = some send → send.phase = .loadStoredConfigs →
      send.streamResponse.isSome = true)
    (agrees : ∀ (id : SendId) (send : Send), send.phase.joined = true →
      (next.sends[id]? = some send ↔ sender.sends[id]? = some send)) :
    Linked (actions ++ [action]) next := by
  have same := @lookups_silent action actions silent
  have joined : ∀ id, id ∈ lookups actions → ∀ send, next.sends[id]? = some send →
      sender.sends[id]? = some send ∧ send.phase.joined = true := by
    intro id member send found
    obtain ⟨before, earlier, inside⟩ := (linked.listed id).mp member
    cases ((agrees id before inside).mpr earlier).symm.trans found
    exact ⟨earlier, inside⟩
  exact {
    payload := by
      rintro id send found (loading | inside)
      · exact payload id send found loading
      · exact linked.payload id send ((agrees id send inside).mp found) (.inr inside)
    configured := fun id send found inside =>
      linked.configured id send ((agrees id send inside).mp found) inside
    busy := by
      intro id send outstanding found dispatching
      have inside : send.phase.joined = true := by rw [dispatching]; rfl
      exact linked.busy id send outstanding ((agrees id send inside).mp found) dispatching
    listed := by
      intro id
      rw [same, linked.listed id]
      constructor
      · rintro ⟨send, found, inside⟩
        exact ⟨send, (agrees id send inside).mpr found, inside⟩
      · rintro ⟨send, found, inside⟩
        exact ⟨send, (agrees id send inside).mp found, inside⟩
    distinct := same ▸ linked.distinct
    last := by
      intro id send found inside
      rw [same, chain]
      exact linked.last id send ((agrees id send inside).mp found) inside
    entry := by
      intro taskId last chained
      rw [chain] at chained
      obtain ⟨send, found, about, inside⟩ := linked.entry taskId last chained
      exact ⟨send, (agrees last send inside).mpr found, about, inside⟩
    waits := by
      intro id send previous found chained
      rw [same]
      have inside : send.phase.joined = true := by rw [chained]; rfl
      obtain ⟨order, before, present, task⟩ :=
        linked.waits id send previous ((agrees id send inside).mp found) chained
      obtain ⟨record, earlier, listed⟩ := (linked.listed previous).mp (order.subset (by simp))
      cases earlier.symm.trans present
      exact ⟨order, before, (agrees previous before listed).mpr present, task⟩
    ordered := by
      intro first second earlier later one two task order
      rw [same] at order ⊢
      have firstJoined := joined first (order.subset (by simp)) earlier one
      have secondJoined := joined second (order.subset (by simp)) later two
      exact linked.ordered first second earlier later firstJoined.1 secondJoined.1 task order }

/-- A lookup returned configs: the call becomes the last of its task's chain. -/
theorem Linked.join (linked : Linked actions sender)
    {storedConfigs : List StoredPushNotificationConfig} (found : sender.sends[id]? = some send)
    (loading : send.phase = .loadStoredConfigs) (present : storedConfigs ≠ []) :
    Linked (actions ++ [.loaded id storedConfigs])
      { sender.setSend id
          { send with
            storedConfigs, phase := .chained (sender.notificationChain send.taskId) } with
        notificationChain := Function.update sender.notificationChain send.taskId (some id) } := by
  have order : lookups (actions ++ [.loaded id storedConfigs]) = lookups actions ++ [id] := by
    have returned : lookupReturned (.loaded id storedConfigs) = some id := by
      simp [lookupReturned, present]
    rw [lookups_snoc, returned]
    rfl
  have fresh : id ∉ lookups actions := by
    intro member
    obtain ⟨before, earlier, inside⟩ := (linked.listed id).mp member
    cases earlier.symm.trans found
    rw [loading] at inside
    cases inside
  generalize chain : sender.notificationChain send.taskId = tail
  generalize same : { send with storedConfigs, phase := SendPhase.chained tail } = after
  have about : after.taskId = send.taskId := by rw [← same]
  have chained : after.phase = .chained tail := by rw [← same]
  have sends : ∀ other, (sender.setSend id after).sends[other]? =
      if other = id then some after else sender.sends[other]? := fun _ => sends_setSend found
  have grown : ∀ {pair : List SendId}, pair.Sublist (lookups actions) →
      pair.Sublist (lookups actions ++ [id]) := fun inside => inside.trans (List.sublist_append_left _ _)
  refine {
    payload := ?_
    configured := ?_
    busy := ?_
    listed := ?_
    distinct := ?_
    last := ?_
    entry := ?_
    waits := ?_
    ordered := ?_ } <;> simp only [order, sends]
  · intro other before present' inside
    split at present'
    · cases present'
      rw [← same]
      exact linked.payload id send found (.inl loading)
    · exact linked.payload other before present' inside
  · intro other before present' inside
    split at present'
    · cases present'
      rw [← same]
      exact present
    · exact linked.configured other before present' inside
  · intro other before outstanding present' dispatching
    split at present'
    · cases present'
      rw [chained] at dispatching
      cases dispatching
    · exact linked.busy other before outstanding present' dispatching
  · intro other
    rw [List.mem_append, List.mem_singleton, linked.listed other]
    by_cases touched : other = id
    · subst touched
      simp [chained, SendPhase.joined]
    · simp [touched]
  · refine List.nodup_append.mpr ⟨linked.distinct, List.nodup_singleton id, ?_⟩
    rintro first member second last rfl
    exact fresh (List.mem_singleton.mp last ▸ member)
  · intro other before present' inside
    split at present'
    · rename_i touched
      cases present'
      exact .inr ⟨id, by simp [about], .inl touched⟩
    · rename_i untouched
      have listed := (linked.listed other).mpr ⟨before, present', inside⟩
      by_cases task : before.taskId = send.taskId
      · exact .inr ⟨id, by simp [task], .inr (pair_sublist_snoc.mpr (.inr ⟨rfl, listed⟩))⟩
      · rcases linked.last other before present' inside with settled | ⟨last, entry, covered⟩
        · exact .inl settled
        · refine .inr ⟨last, by simpa [Function.update_of_ne task] using entry, ?_⟩
          exact covered.imp_right grown
  · intro taskId last entry
    by_cases task : taskId = send.taskId
    · subst task
      simp only [Function.update_self, Option.some.injEq] at entry
      subst entry
      exact ⟨after, by simp, about, by rw [chained]; rfl⟩
    · rw [Function.update_of_ne task] at entry
      obtain ⟨before, present', aboutTask, inside⟩ := linked.entry taskId last entry
      have untouched : last ≠ id := by
        rintro rfl
        cases present'.symm.trans found
        exact task aboutTask.symm
      exact ⟨before, by simpa [untouched] using present', aboutTask, inside⟩
  · intro other before previous present' waiting
    split at present'
    · rename_i touched
      subst touched
      cases present'
      rw [chained] at waiting
      cases waiting
      obtain ⟨tail, there, task, inside⟩ := linked.entry _ _ chain
      have listed := (linked.listed previous).mpr ⟨tail, there, inside⟩
      have untouched : previous ≠ other := by
        rintro rfl
        exact fresh listed
      exact ⟨pair_sublist_snoc.mpr (.inr ⟨rfl, listed⟩), tail, by simpa [untouched] using there,
        task.trans about.symm⟩
    · obtain ⟨earlier, tail, there, task⟩ := linked.waits other before previous present' waiting
      have untouched : previous ≠ id := by
        rintro rfl
        exact fresh (earlier.subset (by simp))
      exact ⟨grown earlier, tail, by simpa [untouched] using there, task⟩
  · intro first second earlier later one two task inOrder
    rcases pair_sublist_snoc.mp inOrder with before | ⟨rfl, member⟩
    · have firstOld : first ≠ id := by
        rintro rfl
        exact fresh (before.subset (by simp))
      have secondOld : second ≠ id := by
        rintro rfl
        exact fresh (before.subset (by simp))
      rw [if_neg firstOld] at one
      rw [if_neg secondOld] at two
      rcases linked.ordered first second earlier later one two task before with
        settled | ⟨previous, waiting, covered⟩
      · exact .inl settled
      · exact .inr ⟨previous, waiting, covered.imp_right grown⟩
    · have firstOld : first ≠ second := by
        rintro rfl
        exact fresh member
      rw [if_neg firstOld] at one
      rw [if_pos rfl] at two
      cases two
      obtain ⟨record, there, inside⟩ := (linked.listed first).mp member
      cases there.symm.trans one
      rcases linked.last first earlier one inside with settled | ⟨last, entry, covered⟩
      · exact .inl settled
      · rw [task, about, chain] at entry
        subst entry
        exact .inr ⟨last, chained, covered.imp_right grown⟩

/-- A call of a chain moves on: it dispatches once its predecessor has settled, and settles. -/
theorem Linked.advance (linked : Linked actions sender) (after : Send)
    (silent : lookupReturned action = none) (found : sender.sends[id]? = some send)
    (inside : send.phase.joined = true) (moves : after.phase.dispatched = true)
    (free : ∀ previous, send.phase = .chained (some previous) → sender.isSettled previous = true)
    (about : after.taskId = send.taskId) (payload : after.streamResponse = send.streamResponse)
    (configs : after.storedConfigs = send.storedConfigs)
    (busy : ∀ outstanding, after.phase = .dispatching outstanding → outstanding ≠ [])
    (unsettled : send.phase ≠ .settled)
    (sends : ∀ other : SendId, next.sends[other]? =
      if other = id then some after else sender.sends[other]?)
    (chain : next.notificationChain = sender.notificationChain) :
    Linked (actions ++ [action]) next := by
  have same := @lookups_silent action actions silent
  have joined : after.phase.joined = true := by
    cases phase : after.phase <;> simp [phase, SendPhase.dispatched, SendPhase.joined] at moves ⊢
  -- every record of the new state is the old one or the one that moved
  have old : ∀ other record, next.sends[other]? = some record →
      ∃ before, sender.sends[other]? = some before ∧ record.taskId = before.taskId ∧
        (record = before ∨ other = id ∧ before = send ∧ record = after) := by
    intro other record present
    rw [sends other] at present
    split at present
    · rename_i touched
      cases present
      exact ⟨send, touched ▸ found, about, .inr ⟨touched, rfl, rfl⟩⟩
    · exact ⟨record, present, rfl, .inl rfl⟩
  have kept : ∀ (other : SendId) (before : Send), sender.sends[other]? = some before →
      ∃ record, next.sends[other]? = some record ∧ record.taskId = before.taskId ∧
        (before.phase.joined = true → record.phase.joined = true) := by
    intro other before present
    rw [sends other]
    split
    · rename_i touched
      subst touched
      cases present.symm.trans found
      exact ⟨after, rfl, about, fun _ => joined⟩
    · exact ⟨before, present, rfl, fun same => same⟩
  have unchained : ∀ previous, after.phase ≠ .chained previous := by
    intro previous chained
    rw [chained] at moves
    cases moves
  refine {
    payload := ?_
    configured := ?_
    busy := ?_
    listed := ?_
    distinct := ?_
    last := ?_
    entry := ?_
    waits := ?_
    ordered := ?_ } <;> (try simp only [same, chain])
  · intro other record present phase
    obtain ⟨before, earlier, _, rfl | ⟨_, rfl, rfl⟩⟩ := old other record present
    · exact linked.payload other record earlier phase
    · rw [payload]
      exact linked.payload id before found (.inr inside)
  · intro other record present listed
    obtain ⟨before, earlier, _, rfl | ⟨_, rfl, rfl⟩⟩ := old other record present
    · exact linked.configured other record earlier listed
    · rw [configs]
      exact linked.configured id before found inside
  · intro other record outstanding present dispatching
    obtain ⟨before, earlier, _, rfl | ⟨_, rfl, rfl⟩⟩ := old other record present
    · exact linked.busy other record outstanding earlier dispatching
    · exact busy outstanding dispatching
  · intro other
    rw [linked.listed other]
    constructor
    · rintro ⟨before, earlier, listed⟩
      obtain ⟨record, present, _, grows⟩ := kept other before earlier
      exact ⟨record, present, grows listed⟩
    · rintro ⟨record, present, listed⟩
      obtain ⟨before, earlier, _, rfl | ⟨_, rfl, _⟩⟩ := old other record present
      · exact ⟨record, earlier, listed⟩
      · exact ⟨before, earlier, inside⟩
  · exact linked.distinct
  · intro other record present listed
    obtain ⟨before, earlier, task, rfl | ⟨rfl, rfl, _⟩⟩ := old other record present
    · exact linked.last other record earlier listed
    · rw [task]
      exact (linked.last other before earlier inside).imp_left (absurd · unsettled)
  · intro taskId last entry
    obtain ⟨before, earlier, task, listed⟩ := linked.entry taskId last entry
    obtain ⟨record, present, sameTask, grows⟩ := kept last before earlier
    exact ⟨record, present, sameTask.trans task, grows listed⟩
  · intro other record previous present chained
    obtain ⟨before, earlier, _, rfl | ⟨_, _, rfl⟩⟩ := old other record present
    · obtain ⟨order, tail, there, task⟩ := linked.waits other record previous earlier chained
      obtain ⟨moved, stays, sameTask, _⟩ := kept previous tail there
      exact ⟨order, moved, stays, sameTask.trans task⟩
    · exact absurd chained (unchained _)
  · intro first second earlier later one two task order
    obtain ⟨before, present, beforeTask, change⟩ := old first earlier one
    obtain ⟨later', there, laterTask, laterChange⟩ := old second later two
    have tasks : before.taskId = later'.taskId := by rw [← beforeTask, task, laterTask]
    have finished : before.phase = .settled → earlier.phase = .settled := by
      intro settled
      rcases change with rfl | ⟨_, rfl, _⟩
      · exact settled
      · exact absurd settled unsettled
    rcases linked.ordered first second before later' present there tasks order with
      settled | ⟨previous, chained, covered⟩
    · exact .inl (finished settled)
    · rcases laterChange with rfl | ⟨_, rfl, _⟩
      · exact .inr ⟨previous, chained, covered⟩
      · -- the call that moves was waiting for a settled predecessor
        refine .inl (finished ?_)
        obtain ⟨_, tail, tailThere, tailTask⟩ := linked.waits second later' previous there chained
        have tailSettled : tail.phase = .settled := by
          simpa [isSettled, tailThere] using free previous chained
        rcases covered with rfl | covered
        · cases present.symm.trans tailThere
          exact tailSettled
        · have above := linked.ordered first previous before tail present tailThere
            (tasks.trans tailTask.symm) covered
          refine above.resolve_right ?_
          rintro ⟨_, chainedTail, _⟩
          rw [tailSettled] at chainedTail
          cases chainedTail

theorem Linked.evict (linked : Linked actions sender) (found : sender.sends[id]? = some send)
    (settled : send.phase = .settled) (entry : sender.notificationChain send.taskId = some id) :
    Linked (actions ++ [.evict id])
      { sender with
        notificationChain := Function.update sender.notificationChain send.taskId none } := by
  have same : lookups (actions ++ [.evict id]) = lookups actions := lookups_silent rfl
  refine {
    payload := linked.payload
    configured := linked.configured
    busy := linked.busy
    listed := ?_
    distinct := ?_
    last := ?_
    entry := ?_
    waits := ?_
    ordered := ?_ }
  · rw [same]; exact linked.listed
  · rw [same]; exact linked.distinct
  · intro other record present inside
    rw [same]
    rcases linked.last other record present inside with done | ⟨last, chained, covered⟩
    · exact .inl done
    · by_cases task : record.taskId = send.taskId
      · -- everything the evicted entry covers has settled
        rw [task, entry] at chained
        cases chained
        left
        rcases covered with rfl | covered
        · cases present.symm.trans found
          exact settled
        · refine (linked.ordered other id record send present found task covered).resolve_right ?_
          rintro ⟨_, waiting, _⟩
          rw [settled] at waiting
          cases waiting
      · exact .inr ⟨last, by simpa [Function.update_of_ne task] using chained, covered⟩
  · intro taskId last chained
    by_cases task : taskId = send.taskId
    · subst task
      simp at chained
    · exact linked.entry taskId last (by simpa [Function.update_of_ne task] using chained)
  · rw [same]; exact linked.waits
  · rw [same]; exact linked.ordered

theorem linked_step (linked : Linked actions sender)
    (stepped : sender.step options action = some next) : Linked (actions ++ [action]) next := by
  cases step_cases stepped with
  | @asked streamResponse task =>
      refine linked.aside rfl rfl ?_ ?_
      · intro id send found loading
        rcases sends_send found with earlier | rfl
        · exact linked.payload id send earlier (.inl loading)
        · exact newSend_payload streamResponse task loading
      · intro id send inside
        refine ⟨fun found => ?_, fun found => sends_send_of found streamResponse task⟩
        rcases sends_send found with earlier | rfl
        · exact earlier
        · simp [newSend_joined] at inside
  | @left id send phase _ found loading outside idle silent =>
      refine linked.aside silent rfl ?_ ?_
      · intro other record present waits
        rw [sends_setSend found] at present
        split at present
        · cases present
          exact absurd waits idle
        · exact linked.payload other record present (.inl waits)
      · intro other record inside
        rw [sends_setSend found]
        split
        · rename_i touched
          subst touched
          constructor
          · rintro ⟨⟩
            simp [outside] at inside
          · intro present
            cases present.symm.trans found
            rw [loading] at inside
            cases inside
        · exact Iff.rfl
  | joined found loading present => exact linked.join found loading present
  | @started id send lastPromise found chained free =>
      refine linked.advance
        { send with phase := .dispatching (List.range send.storedConfigs.length) } rfl found
        (by rw [chained]; rfl) rfl ?_ rfl rfl rfl ?_ (by simp [chained])
        (fun other => sends_setSend found) rfl
      · intro previous waits
        rw [chained] at waits
        cases waits
        exact free
      · rintro outstanding ⟨⟩ empty
        have inside : send.phase.joined = true := by rw [chained]; rfl
        exact linked.configured id send found inside
          (List.length_eq_zero_iff.mp (List.range_eq_nil.mp empty))
  | @settled id send outstanding config result found dispatching listed =>
      refine linked.advance
        { send with
          phase := if (outstanding.erase config).isEmpty then .settled
            else .dispatching (outstanding.erase config) } rfl found
        (by rw [dispatching]; rfl) ?_ ?_ rfl rfl rfl ?_ (by simp [dispatching])
        (fun other => sends_setSend found) rfl
      · simp only
        split <;> rfl
      · intro previous waits
        rw [dispatching] at waits
        cases waits
      · intro remaining still
        simp only at still
        split at still
        · cases still
        · rename_i more
          cases still
          simpa using more
  | evicted found settled entry => exact linked.evict found settled entry
  | kept =>
      exact linked.aside rfl rfl (fun id send found loading => linked.payload id send found (.inl loading))
        (fun _ _ _ => Iff.rfl)

theorem started_append (first second : List Dispatch) :
    started (first ++ second) = started first ++ started second := List.filterMap_append

theorem answered_append (first second : List Dispatch) :
    answered (first ++ second) = answered first ++ answered second := List.filterMap_append

theorem started_startedDispatches (payload : send.streamResponse.isSome = true) :
    started (startedDispatches options id send) =
      (List.range send.storedConfigs.length).map (fun config => (id, config)) := by
  obtain ⟨response, present⟩ := Option.isSome_iff_exists.mp payload
  simp only [startedDispatches, present, started]
  induction send.storedConfigs using List.reverseRecOn with
  | nil => rfl
  | append_singleton configs last ih =>
      simp [List.mapIdx_concat, ih, List.range_succ, Dispatch.startKey]

/-- What the history says about the calls: a call that dispatches has notified each of its
webhooks once, and after every earlier call of its task had been answered. -/
structure Logged (actions : List Action) (sender : PushNotificationSender) : Prop where
  handed : ∀ (id : SendId) (config : Nat), (id, config) ∈ started sender.log ↔
    ∃ send, sender.sends[id]? = some send ∧ send.phase.dispatched = true ∧
      config < send.storedConfigs.length
  once : (started sender.log).Nodup
  finished : ∀ (id : SendId) (send : Send), sender.sends[id]? = some send →
    send.phase.dispatched = true → ∀ config < send.storedConfigs.length,
      (∀ outstanding, send.phase = .dispatching outstanding → config ∉ outstanding) →
        (id, config) ∈ answered sender.log
  ordered : ∀ (before after : List Dispatch) (second : SendId) (config : Nat)
    (request : PushRequest), sender.log = before ++ .started second config request :: after →
    ∀ (first : SendId) (earlier later : Send), sender.sends[first]? = some earlier →
      sender.sends[second]? = some later → earlier.taskId = later.taskId →
      [first, second].Sublist (lookups actions) →
      ∀ place < earlier.storedConfigs.length,
        (first, place) ∈ started before ∧ (first, place) ∈ answered before

theorem logged_new : Logged [] new where
  handed := by simp [new, started]
  once := List.nodup_nil
  finished := by simp [new]
  ordered := by simp [new]

/-- A step that dispatches nothing. -/
theorem Logged.aside (logged : Logged actions sender) (log : next.log = sender.log)
    (agrees : ∀ (id : SendId) (send : Send), send.phase.dispatched = true →
      (next.sends[id]? = some send ↔ sender.sends[id]? = some send))
    (orders : ∀ (first second : SendId) (earlier later : Send), later.phase.dispatched = true →
      next.sends[first]? = some earlier → sender.sends[second]? = some later →
      [first, second].Sublist (lookups (actions ++ [action])) →
      sender.sends[first]? = some earlier ∧ [first, second].Sublist (lookups actions)) :
    Logged (actions ++ [action]) next where
  handed := by
    intro id config
    rw [log, logged.handed]
    constructor
    · rintro ⟨send, found, dispatched, bound⟩
      exact ⟨send, (agrees id send dispatched).mpr found, dispatched, bound⟩
    · rintro ⟨send, found, dispatched, bound⟩
      exact ⟨send, (agrees id send dispatched).mp found, dispatched, bound⟩
  once := log ▸ logged.once
  finished := by
    intro id send found dispatched config bound idle
    rw [log]
    exact logged.finished id send ((agrees id send dispatched).mp found) dispatched config bound idle
  ordered := by
    intro before after second config request split first earlier later one two task order
    rw [log] at split
    have listed : (second, config) ∈ started sender.log := by
      rw [split, started_append]
      simp [started, Dispatch.startKey]
    obtain ⟨record, present, dispatched, _⟩ := (logged.handed second config).mp listed
    obtain rfl := Option.some.inj (((agrees second record dispatched).mpr present).symm.trans two)
    obtain ⟨old, inOrder⟩ := orders first second earlier record dispatched one present order
    exact logged.ordered before after second config request split first earlier record old present
      task inOrder

/-- A place in a log that has grown is a place in the old log, or comes after all of it. -/
theorem split_append {log more before rest : List Dispatch} {entry : Dispatch}
    (split : log ++ more = before ++ entry :: rest) :
    (∃ rest, log = before ++ entry :: rest) ∨ entry ∈ more ∧ ∃ front, before = log ++ front := by
  rcases List.append_eq_append_iff.mp split with ⟨front, rfl, tail⟩ | ⟨middle, rfl, tail⟩
  · exact .inr ⟨by simp [tail], front, rfl⟩
  · rcases List.cons_eq_append_iff.mp tail with ⟨rfl, rfl⟩ | ⟨rest, rfl, _⟩
    · exact .inr ⟨by simp, [], by simp⟩
    · exact .inl ⟨rest, rfl⟩

theorem mem_started_of_split {log before rest : List Dispatch} {second : SendId} {config : Nat}
    {request : PushRequest} (split : log = before ++ .started second config request :: rest) :
    (second, config) ∈ started log := by
  rw [split, started_append]
  simp [started, Dispatch.startKey]

/-- Everything of a settled call is in the history. -/
theorem Logged.complete (logged : Logged actions sender) (found : sender.sends[id]? = some send)
    (settled : send.phase = .settled) {place : Nat} (bound : place < send.storedConfigs.length) :
    (id, place) ∈ started sender.log ∧ (id, place) ∈ answered sender.log := by
  have dispatched : send.phase.dispatched = true := by rw [settled]; rfl
  refine ⟨(logged.handed id place).mpr ⟨send, found, dispatched, bound⟩,
    logged.finished id send found dispatched place bound ?_⟩
  intro outstanding dispatching
  rw [settled] at dispatching
  cases dispatching

/-- The dispatches of one call start when every earlier call of its task has been answered. -/
theorem Logged.start (logged : Logged actions sender) (linked : Linked actions sender)
    {lastPromise : Option SendId} (found : sender.sends[id]? = some send)
    (chained : send.phase = .chained lastPromise)
    (moved : Linked (actions ++ [.start id]) (sender.startDispatches options id send)) :
    Logged (actions ++ [.start id]) (sender.startDispatches options id send) := by
  have same : lookups (actions ++ [.start id]) = lookups actions := lookups_silent rfl
  have inside : send.phase.joined = true := by rw [chained]; rfl
  have undispatched : send.phase.dispatched ≠ true := by rw [chained]; nofun
  have keys : started (sender.startDispatches options id send).log = started sender.log ++
      (List.range send.storedConfigs.length).map (fun config => (id, config)) := by
    rw [startDispatches, started_append,
      started_startedDispatches (linked.payload id send found (.inr inside))]
  generalize change : { send with
    phase := SendPhase.dispatching (List.range send.storedConfigs.length) } = after at *
  have sends : ∀ other, (sender.startDispatches options id send).sends[other]? =
      if other = id then some after else sender.sends[other]? := by
    intro other
    rw [← change]
    exact sends_setSend found
  have configs : after.storedConfigs = send.storedConfigs := by rw [← change]
  have phase : after.phase = .dispatching (List.range send.storedConfigs.length) := by
    rw [← change]
  have unlisted : ∀ config, (id, config) ∉ started sender.log := by
    intro config member
    obtain ⟨record, present, dispatched, _⟩ := (logged.handed id config).mp member
    cases present.symm.trans found
    exact undispatched dispatched
  refine {
    handed := ?_
    once := ?_
    finished := ?_
    ordered := ?_ }
  · intro other config
    rw [keys, List.mem_append, logged.handed, sends]
    by_cases touched : other = id
    · subst touched
      simp [found, phase, configs, SendPhase.dispatched]
    · simp [touched, Ne.symm touched]
  · rw [keys]
    refine List.nodup_append.mpr ⟨logged.once, ?_, ?_⟩
    · exact List.nodup_range.map (fun _ _ same => (Prod.mk.inj same).2)
    · rintro entry member other listed rfl
      obtain ⟨config, _, rfl⟩ := List.mem_map.mp listed
      exact unlisted config member
  · intro other record present dispatched config bound idle
    rw [sends] at present
    rw [startDispatches, answered_append]
    split at present
    · cases present
      rw [configs] at bound
      exact absurd (List.mem_range.mpr bound) (idle _ phase)
    · exact List.mem_append_left _
        (logged.finished other record present dispatched config bound idle)
  · intro before rest second config request split first earlier later one two task order
    rw [same] at order
    rcases split_append split with ⟨rest, old⟩ | ⟨fresh, front, rfl⟩
    · -- an old dispatch keeps its history
      obtain ⟨record, present, dispatched, _⟩ :=
        (logged.handed second config).mp (mem_started_of_split old)
      have untouched : second ≠ id := by
        rintro rfl
        cases present.symm.trans found
        exact undispatched dispatched
      rw [sends, if_neg untouched] at two
      rw [sends] at one
      split at one
      · rename_i touched
        subst touched
        cases one
        rw [configs]
        exact logged.ordered before rest second config request old first send later found two
          (by rw [← task, ← change]) order
      · exact logged.ordered before rest second config request old first earlier later one two
          task order
    · -- a new one comes after the whole log, in which the earlier call has settled
      have key : (second, config) ∈ started (startedDispatches options id send) :=
        List.mem_filterMap.mpr ⟨_, fresh, rfl⟩
      rw [started_startedDispatches (linked.payload id send found (.inr inside))] at key
      obtain ⟨_, _, sameKey⟩ := List.mem_map.mp key
      cases sameKey
      have settled : earlier.phase = .settled := by
        refine (moved.ordered first id earlier later one two task (same ▸ order)).resolve_right ?_
        rintro ⟨previous, waiting, _⟩
        rw [sends, if_pos rfl] at two
        cases two
        rw [phase] at waiting
        cases waiting
      have untouched : first ≠ id := by
        rintro rfl
        rw [sends, if_pos rfl] at one
        cases one
        rw [phase] at settled
        cases settled
      rw [sends, if_neg untouched] at one
      intro place bound
      obtain ⟨handed, finished⟩ := logged.complete one settled bound
      rw [started_append, answered_append]
      exact ⟨List.mem_append_left _ handed, List.mem_append_left _ finished⟩

/-- A webhook answers, or fails to. -/
theorem Logged.settle (logged : Logged actions sender) {outstanding : List Nat} {config : Nat}
    {result : Except String Unit} (found : sender.sends[id]? = some send)
    (dispatching : send.phase = .dispatching outstanding) :
    Logged (actions ++ [.settle id config result])
      (sender.dispatchSettled id send outstanding config result) := by
  have same : lookups (actions ++ [.settle id config result]) = lookups actions := lookups_silent rfl
  have keys : started (sender.dispatchSettled id send outstanding config result).log =
      started sender.log := by
    rw [dispatchSettled, started_append]
    exact List.append_nil _
  have answers : answered (sender.dispatchSettled id send outstanding config result).log =
      answered sender.log ++ [(id, config)] := by
    rw [dispatchSettled, answered_append]
    rfl
  have dispatchedBefore : send.phase.dispatched = true := by rw [dispatching]; rfl
  generalize change : { send with
    phase := if (outstanding.erase config).isEmpty then SendPhase.settled
      else .dispatching (outstanding.erase config) } = after
  have sends : ∀ other,
      (sender.dispatchSettled id send outstanding config result).sends[other]? =
        if other = id then some after else sender.sends[other]? := by
    intro other
    rw [← change]
    exact sends_setSend found
  have configs : after.storedConfigs = send.storedConfigs := by rw [← change]
  have task : after.taskId = send.taskId := by rw [← change]
  have dispatchedAfter : after.phase.dispatched = true := by
    rw [← change]
    simp only
    split <;> rfl
  have remaining : ∀ place,
      (∀ outstanding, after.phase = .dispatching outstanding → place ∉ outstanding) →
        place = config ∨ place ∉ outstanding := by
    intro place idle
    by_cases same : place = config
    · exact .inl same
    · refine .inr fun listed => ?_
      have stays := (List.mem_erase_of_ne same).mpr listed
      refine idle (outstanding.erase config) ?_ stays
      rw [← change]
      exact if_neg (by simpa using List.ne_nil_of_mem stays)
  refine {
    handed := ?_
    once := keys ▸ logged.once
    finished := ?_
    ordered := ?_ }
  · intro other place
    rw [keys, logged.handed, sends]
    by_cases touched : other = id
    · subst touched
      simp [found, dispatchedBefore, dispatchedAfter, configs]
    · simp [touched]
  · intro other record present dispatched place bound idle
    rw [answers]
    rw [sends] at present
    split at present
    · rename_i touched
      subst touched
      cases present
      rw [configs] at bound
      rcases remaining place idle with rfl | answeredBefore
      · simp
      · refine List.mem_append_left _
          (logged.finished other send found dispatchedBefore place bound ?_)
        intro before still
        rw [dispatching] at still
        cases still
        exact answeredBefore
    · exact List.mem_append_left _
        (logged.finished other record present dispatched place bound idle)
  · intro before rest second place request split first earlier later one two sameTask order
    rw [same] at order
    obtain ⟨rest, old⟩ := (split_append split).resolve_right (by simp)
    have oldRecord : ∀ (other : SendId) (record : Send),
        (sender.dispatchSettled id send outstanding config result).sends[other]? = some record →
        ∃ old, sender.sends[other]? = some old ∧ old.taskId = record.taskId ∧
          old.storedConfigs = record.storedConfigs := by
      intro other record present
      rw [sends] at present
      split at present
      · rename_i touched
        cases present
        exact ⟨send, touched ▸ found, task.symm, configs.symm⟩
      · exact ⟨record, present, rfl, rfl⟩
    obtain ⟨oldEarlier, oneOld, oneTask, oneConfigs⟩ := oldRecord first earlier one
    obtain ⟨oldLater, twoOld, twoTask, _⟩ := oldRecord second later two
    rw [← oneConfigs]
    exact logged.ordered before rest second place request old first oldEarlier oldLater oneOld
      twoOld (by rw [oneTask, twoTask, sameTask]) order

theorem SendPhase.joined_of_dispatched {phase : SendPhase} (dispatched : phase.dispatched = true) :
    phase.joined = true := by
  cases phase <;> first | rfl | cases dispatched

theorem logged_step (linked : Linked actions sender) (logged : Logged actions sender)
    (stepped : sender.step options action = some next) : Logged (actions ++ [action]) next := by
  have recorded : ∀ {first second : SendId}, [first, second].Sublist (lookups actions) →
      ∃ earlier, sender.sends[first]? = some earlier ∧ earlier.phase.joined = true :=
    fun order => (linked.listed _).mp (order.subset (by simp))
  cases step_cases stepped with
  | @asked streamResponse task =>
      refine logged.aside rfl ?_ ?_
      · intro id send dispatched
        refine ⟨fun found => ?_, fun found => sends_send_of found streamResponse task⟩
        rcases sends_send found with earlier | rfl
        · exact earlier
        · have inside := SendPhase.joined_of_dispatched dispatched
          simp [newSend_joined] at inside
      · intro first second earlier later _ one _ order
        rw [lookups_silent rfl] at order
        obtain ⟨record, present, _⟩ := recorded order
        obtain rfl := Option.some.inj ((sends_send_of present streamResponse task).symm.trans one)
        exact ⟨present, order⟩
  | @left id send phase _ found loading outside idle silent =>
      refine logged.aside rfl ?_ ?_
      · intro other record dispatched
        have inside := SendPhase.joined_of_dispatched dispatched
        rw [sends_setSend found]
        split
        · rename_i touched
          subst touched
          constructor
          · rintro ⟨⟩
            simp [outside] at inside
          · intro present
            cases present.symm.trans found
            rw [loading] at inside
            cases inside
        · exact Iff.rfl
      · intro first second earlier later _ one _ order
        rw [lookups_silent silent] at order
        obtain ⟨record, present, inside⟩ := recorded order
        have untouched : first ≠ id := by
          rintro rfl
          cases present.symm.trans found
          rw [loading] at inside
          cases inside
        rw [sends_setSend found, if_neg untouched] at one
        exact ⟨one, order⟩
  | @joined id send storedConfigs found loading present =>
      refine logged.aside rfl ?_ ?_
      · intro other record dispatched
        change (sender.setSend id _).sends[other]? = _ ↔ _
        rw [sends_setSend found]
        split
        · rename_i touched
          subst touched
          constructor
          · rintro ⟨⟩
            cases dispatched
          · intro there
            cases there.symm.trans found
            rw [loading] at dispatched
            cases dispatched
        · exact Iff.rfl
      · intro first second earlier later dispatched one two order
        have returned : lookupReturned (.loaded id storedConfigs) = some id := by
          simp [lookupReturned, present]
        rw [lookups_snoc, returned] at order
        rcases pair_sublist_snoc.mp order with before | ⟨rfl, _⟩
        · obtain ⟨record, there, inside⟩ := recorded before
          have untouched : first ≠ id := by
            rintro rfl
            cases there.symm.trans found
            rw [loading] at inside
            cases inside
          change (sender.setSend id _).sends[first]? = _ at one
          rw [sends_setSend found, if_neg untouched] at one
          exact ⟨one, before⟩
        · cases two.symm.trans found
          rw [loading] at dispatched
          cases dispatched
  | started found chained free =>
      exact logged.start linked found chained (linked_step linked stepped)
  | settled found dispatching listed => exact logged.settle found dispatching
  | evicted | kept =>
      refine logged.aside rfl (fun _ _ _ => Iff.rfl) ?_
      intro first second earlier later _ one _ order
      rw [lookups_silent rfl] at order
      exact ⟨one, order⟩

theorem logged_of_reaches (reaches : (senderSystem options).Reaches new actions sender) :
    Linked actions sender ∧ Logged actions sender :=
  reaches.history (fun actions sender => Linked actions sender ∧ Logged actions sender)
    ⟨linked_new, logged_new⟩
    (fun holds _ stepped => ⟨linked_step holds.1 stepped, logged_step holds.1 holds.2 stepped⟩)

/-! Webhooks cannot hold each other up: whatever they answer, every chain runs to its end. -/

/-- Once a call dispatches, the answers of its webhooks settle it. -/
theorem settle_all (verdict : SendId → Nat → Except String Unit) {outstanding : List Nat}
    (found : sender.sends[id]? = some send) (dispatching : send.phase = .dispatching outstanding)
    (busy : outstanding ≠ []) :
    ∃ settled, (senderSystem options).run sender
        (outstanding.map (fun config => .settle id config (verdict id config))) = some settled ∧
      settled.isSettled id = true ∧
      ∀ other, other ≠ id → settled.sends[other]? = sender.sends[other]? := by
  induction outstanding generalizing sender send with
  | nil => exact absurd rfl busy
  | cons config rest ih =>
      let after := { send with
        phase := if rest.isEmpty then SendPhase.settled else .dispatching rest }
      have stepped : (senderSystem options).step sender (.settle id config (verdict id config)) =
          some (sender.dispatchSettled id send (config :: rest) config (verdict id config)) := by
        simp [senderSystem, step, found, dispatching]
      have sends : ∀ other, (sender.dispatchSettled id send (config :: rest) config
          (verdict id config)).sends[other]? =
            if other = id then some after else sender.sends[other]? := by
        intro other
        simp only [dispatchSettled, List.erase_cons_head]
        exact sends_setSend found
      simp only [List.map_cons, System.run, stepped, Option.bind_some]
      have moved : (sender.dispatchSettled id send (config :: rest) config
          (verdict id config)).sends[id]? = some after := by rw [sends, if_pos rfl]
      by_cases last : rest = []
      · subst last
        refine ⟨_, rfl, ?_, fun other differ => by rw [sends, if_neg differ]⟩
        rw [isSettled, moved]
        rfl
      · have still : after.phase = .dispatching rest := if_neg (by simpa using last)
        obtain ⟨settled, runs, done, frame⟩ := ih moved still last
        refine ⟨settled, runs, done, fun other differ => ?_⟩
        rw [frame other differ, sends, if_neg differ]

/-- An action of the promise chains alone: a link starts, or a webhook answers as it will. -/
def Drains (verdict : SendId → Nat → Except String Unit) : Action → Prop
  | .start _ => True
  | .settle id config result => result = verdict id config
  | .send _ _ | .loaded _ _ | .lookupFailed _ _ | .evict _ => False

/-- A call whose predecessor has settled can be brought to its end. -/
theorem drain_call (linked : Linked actions sender) (verdict : SendId → Nat → Except String Unit)
    (found : sender.sends[id]? = some send) (inside : send.phase.joined = true)
    {now : PushNotificationSender} (unmoved : now.sends[id]? = some send)
    (free : ∀ previous, send.phase = .chained (some previous) → now.isSettled previous = true) :
    ∃ more rested, (∀ action ∈ more, Drains verdict action) ∧
      (senderSystem options).run now more = some rested ∧ rested.isSettled id = true ∧
      ∀ other, other ≠ id → rested.sends[other]? = now.sends[other]? := by
  have answers : ∀ outstanding : List Nat, ∀ action ∈ outstanding.map
      (fun config => Action.settle id config (verdict id config)), Drains verdict action := by
    intro outstanding action member
    obtain ⟨config, _, rfl⟩ := List.mem_map.mp member
    rfl
  cases phase : send.phase with
  | settled =>
      refine ⟨[], now, by simp, rfl, ?_, fun _ _ => rfl⟩
      simp [isSettled, unmoved, phase]
  | dispatching outstanding =>
      obtain ⟨rested, runs, done, frame⟩ := settle_all verdict unmoved phase
        (linked.busy id send outstanding found phase)
      exact ⟨_, rested, answers outstanding, runs, done, frame⟩
  | chained lastPromise =>
      have ready : lastPromise.all now.isSettled = true := by
        cases lastPromise with
        | none => rfl
        | some previous => exact free previous phase
      have stepped : (senderSystem options).step now (.start id) =
          some (now.startDispatches options id send) := by
        simp [senderSystem, step, unmoved, phase, ready]
      have sends : ∀ other, (now.startDispatches options id send).sends[other]? =
          if other = id then
            some { send with phase := .dispatching (List.range send.storedConfigs.length) }
          else now.sends[other]? := fun _ => sends_setSend unmoved
      have busy : List.range send.storedConfigs.length ≠ [] := fun empty =>
        linked.configured id send found inside
          (List.length_eq_zero_iff.mp (List.range_eq_nil.mp empty))
      obtain ⟨rested, runs, done, frame⟩ := @settle_all options
        (now.startDispatches options id send) id _ verdict _ (by rw [sends, if_pos rfl]) rfl busy
      refine ⟨.start id :: (List.range send.storedConfigs.length).map
        (fun config => .settle id config (verdict id config)), rested, ?_, ?_, done,
        fun other differ => ?_⟩
      · exact List.forall_mem_cons.mpr ⟨trivial, answers _⟩
      · rw [System.run, stepped]
        exact runs
      · rw [frame other differ, sends, if_neg differ]
  | _ => simp [phase, SendPhase.joined] at inside

/-- In a list without repetitions, what stands before an element stands in the front. -/
theorem mem_front_of_pair {front back : List SendId} {first second : SendId}
    (distinct : (front ++ second :: back).Nodup)
    (order : [first, second].Sublist (front ++ second :: back)) : first ∈ front := by
  have absent : second ∉ back ∧ second ∉ front := by
    have parts := List.nodup_append.mp distinct
    exact ⟨(List.nodup_cons.mp parts.2.1).1, fun member => parts.2.2 _ member _ (by simp) rfl⟩
  obtain ⟨one, two, split, inFront, inBack⟩ := List.sublist_append_iff.mp order
  cases one with
  | cons head rest =>
      have same : head = first := (List.cons.inj split).1.symm
      exact same ▸ inFront.subset (by simp)
  | nil =>
      have listed : second ∈ back := by
        rw [List.nil_append] at split
        rw [← split, List.sublist_cons_iff] at inBack
        rcases inBack with skipped | ⟨rest, same, later⟩
        · exact skipped.subset (by simp)
        · rw [← (List.cons.inj same).2] at later
          exact later.subset (by simp)
      exact absurd listed absent.1

theorem drain (linked : Linked actions sender) (verdict : SendId → Nat → Except String Unit) :
    ∃ more rested, (∀ action ∈ more, Drains verdict action) ∧
      (senderSystem options).run sender more = some rested ∧
      ∀ id ∈ lookups actions, rested.isSettled id = true := by
  -- the calls settle in the order in which they joined
  have front : ∀ front back, lookups actions = front ++ back →
      ∃ more rested, (∀ action ∈ more, Drains verdict action) ∧
        (senderSystem options).run sender more = some rested ∧
        (∀ id ∈ front, rested.isSettled id = true) ∧
        ∀ other, other ∉ front → rested.sends[other]? = sender.sends[other]? := by
    intro front
    induction front using List.reverseRecOn with
    | nil => exact fun _ _ => ⟨[], sender, by simp, rfl, by simp, fun _ _ => rfl⟩
    | append_singleton front id ih =>
        intro back split
        rw [List.append_assoc, List.singleton_append] at split
        obtain ⟨more, now, drains, runs, settled, frame⟩ := ih (id :: back) split
        obtain ⟨send, found, inside⟩ := (linked.listed id).mp (by simp [split])
        have distinct := linked.distinct
        rw [split] at distinct
        have fresh : id ∉ front := fun member =>
          (List.nodup_append.mp distinct).2.2 id member id (by simp) rfl
        obtain ⟨last, rested, lastDrains, lastRuns, done, kept⟩ := @drain_call options sender actions
          id send linked verdict found inside now ((frame id fresh).trans found) (by
            intro previous chained
            have order := (linked.waits id send previous found chained).1
            rw [split] at order
            exact settled previous (mem_front_of_pair distinct order))
        refine ⟨more ++ last, rested, ?_, ?_, ?_, ?_⟩
        · exact List.forall_mem_append.mpr ⟨drains, lastDrains⟩
        · rw [System.run_append, runs]
          exact lastRuns
        · intro other member
          by_cases same : other = id
          · exact same ▸ done
          · have inFront : other ∈ front := by simpa [same] using member
            rw [isSettled, kept other same]
            exact settled other inFront
        · intro other absent
          simp only [List.mem_append, List.mem_singleton, not_or] at absent
          rw [kept other absent.2, frame other absent.1]
  obtain ⟨more, rested, drains, runs, settled, _⟩ := front (lookups actions) [] (by simp)
  exact ⟨more, rested, drains, runs, settled⟩

/-- Before any webhook is handed the second call's notification, every webhook has been handed
the first call's and has answered. -/
def Follows (sender : PushNotificationSender) (first second : SendId) : Prop :=
  ∀ (before after : List Dispatch) (config : Nat) (request : PushRequest),
    sender.log = before ++ .started second config request :: after →
    ∀ earlier, sender.sends[first]? = some earlier → ∀ place < earlier.storedConfigs.length,
      (first, place) ∈ started before ∧ (first, place) ∈ answered before

theorem Logged.follows_iff (logged : Logged actions sender) (linked : Linked actions sender)
    {first second : SendId} {earlier later : Send} (one : sender.sends[first]? = some earlier)
    (two : sender.sends[second]? = some later) (task : earlier.taskId = later.taskId)
    (differ : first ≠ second) (sent : earlier.phase.dispatched = true)
    (alsoSent : later.phase.dispatched = true) :
    Follows sender first second ↔ [first, second].Sublist (lookups actions) := by
  constructor
  · intro follows
    have firstListed := (linked.listed first).mpr
      ⟨earlier, one, SendPhase.joined_of_dispatched sent⟩
    have secondListed := (linked.listed second).mpr
      ⟨later, two, SendPhase.joined_of_dispatched alsoSent⟩
    refine (pair_sublist_total firstListed secondListed differ).resolve_right fun reversed => ?_
    -- then the second call's first webhook was notified both before and after the first call's
    have room : ∀ {id : SendId} {send : Send}, sender.sends[id]? = some send →
        send.phase.dispatched = true → 0 < send.storedConfigs.length := fun found dispatched =>
      List.length_pos_iff.mpr
        (linked.configured _ _ found (SendPhase.joined_of_dispatched dispatched))
    have key := (logged.handed second 0).mpr ⟨later, two, alsoSent, room two alsoSent⟩
    obtain ⟨entry, member, keyed⟩ := List.mem_filterMap.mp key
    obtain ⟨before, after, split⟩ := List.append_of_mem member
    cases entry with
    | settled => cases keyed
    | started _ _ request =>
        cases keyed
        have handed := (follows before after 0 request split earlier one 0 (room one sent)).1
        obtain ⟨front, frontMember, frontKeyed⟩ := List.mem_filterMap.mp handed
        obtain ⟨start, middle, rfl⟩ := List.append_of_mem frontMember
        cases front with
        | settled => cases frontKeyed
        | started _ _ frontRequest =>
            cases frontKeyed
            have again := (logged.ordered start (middle ++ .started second 0 request :: after) first 0
              frontRequest (by simp [split]) second later earlier two one task.symm reversed 0
              (room two alsoSent)).1
            have once := logged.once
            rw [split, started_append, started_append] at once
            have twice := (List.nodup_append.mp once).2.2 (second, 0)
              (List.mem_append_left _ again) (second, 0) (by simp [started, Dispatch.startKey])
            exact twice rfl
  · intro order before after config request split record present
    cases present.symm.trans one
    exact logged.ordered before after second config request split first earlier later one two task
      order

/-- Every webhook of a call that dispatches is notified, once.  Of two calls of one task that
have dispatched, the later one follows the earlier exactly when their lookups returned in this
order.  And whatever the webhooks answer, every joined call can still be brought to its end. -/
theorem notifications_in_order
    (reaches : (senderSystem options).Reaches new actions sender) :
    (started sender.log).Nodup ∧
      (∀ (id : SendId) (send : Send), sender.sends[id]? = some send →
        send.phase.dispatched = true →
          ∀ config < send.storedConfigs.length, (id, config) ∈ started sender.log) ∧
      (∀ (first second : SendId) (earlier later : Send), first < second →
        sender.sends[first]? = some earlier → sender.sends[second]? = some later →
        earlier.taskId = later.taskId →
        earlier.phase.dispatched = true → later.phase.dispatched = true →
          (Follows sender first second ↔ [first, second].Sublist (lookups actions))) ∧
      ∀ verdict : SendId → Nat → Except String Unit,
        ∃ more rested, (∀ action ∈ more, Drains verdict action) ∧
          (senderSystem options).run sender more = some rested ∧
          ∀ id ∈ lookups actions, rested.isSettled id = true := by
  obtain ⟨linked, logged⟩ := logged_of_reaches reaches
  refine ⟨logged.once, ?_, ?_, drain linked⟩
  · exact fun id send found dispatched config bound =>
      (logged.handed id config).mpr ⟨send, found, dispatched, bound⟩
  · exact fun first second earlier later before one two task sent alsoSent =>
      logged.follows_iff linked one two task (Nat.ne_of_lt before) sent alsoSent

section

def webhook : StoredPushNotificationConfig where
  config := ⟨"", "hook", "t", "https://example.org/hook", "token", none⟩
  wireVersion := "1.0"

def plainOptions : SenderOptions := ⟨"X-A2A-Notification-Token", ["1.0"]⟩

def update (state : TaskState) : Option StreamResponse :=
  some (.statusUpdate ⟨"t", "ctx", some ⟨state, none, none⟩, none⟩)

/-- Two notifications whose lookups return in the order of the calls. -/
theorem notifications_in_order_two :
    let actions : List Action := [.send (update .working) none, .send (update .completed) none,
      .loaded 0 [webhook], .loaded 1 [webhook], .start 0, .settle 0 0 (.error "HTTP 500"), .start 1]
    ∃ sender, (senderSystem plainOptions).run new actions = some sender ∧ Follows sender 0 1 := by
  intro actions
  refine ⟨_, rfl, ?_⟩
  have reaches : (senderSystem plainOptions).Reaches new actions _ := System.reaches_of_run rfl
  have ordered := (notifications_in_order reaches).2.2.1 0 1 _ _ (by decide) rfl rfl rfl rfl rfl
  exact ordered.mpr (List.Sublist.refl _)

/-- The lookup of the first notification returns last: the webhook hears of the completion first. -/
theorem slow_lookup_is_overtaken :
    ¬ ∀ (options : SenderOptions) (actions : List Action) (sender : PushNotificationSender),
      (senderSystem options).Reaches new actions sender →
      ∀ (first second : SendId) (earlier later : Send), first < second →
        sender.sends[first]? = some earlier → sender.sends[second]? = some later →
        earlier.taskId = later.taskId →
        earlier.phase.dispatched = true → later.phase.dispatched = true →
          Follows sender first second := by
  intro neverOvertaken
  have reaches : (senderSystem plainOptions).Reaches new
      [.send (update .working) none, .send (update .completed) none, .loaded 1 [webhook], .start 1,
        .settle 1 0 (.ok ()), .loaded 0 [webhook], .start 0] _ := System.reaches_of_run rfl
  have follows := neverOvertaken _ _ _ reaches 0 1 _ _ (by decide) rfl rfl rfl rfl rfl
  have handed := (follows [] _ 0 _ rfl _ rfl 0 (by decide)).1
  simp [started] at handed

end

end PushNotificationSender

end A2A.Server
