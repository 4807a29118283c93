import A2A.Library.ListedIteration
import A2A.Server.Transports.EventStreams

namespace A2A.Server

open Library Errors

/-! What a sender of event streams writes for a source that yields these events and then ends. -/

section Listed

variable {α : Type u} {ε : Type v} {β : Type w} {iterator : AsyncIterator α ε} {failure : Option ε}
  {body : β → α → β × Verdict ε} {advance : β → α → β}

/-- The generator behind the peeked value hands out the others, as long as the body takes them. -/
theorem delegate_forAwait_listed (quiet : ∀ use, (iterator.shut use).2 = none)
    (takes : ∀ loop value, body loop value = (advance loop value, .proceed)) {values : List α} {fuel : Nat}
    (long : values.length < fuel) {delegate : Delegate} (live : delegate.phase ≠ .completed)
    (yields : iterator.ListsFrom failure delegate.use.nexts values) (loop : β) :
    ∃ source, (delegateAsyncIterator iterator).forAwait body fuel delegate loop =
      ⟨source, values.foldl advance loop, some (.ofFailure failure)⟩ := by
  induction values generalizing fuel delegate loop with
  | nil =>
      obtain ⟨fuel, rfl⟩ := Nat.exists_eq_succ_of_ne_zero (Nat.ne_of_gt long)
      have last : iterator.next delegate.use.nexts = .ending failure := yields
      rw [Iterable.forAwait]
      cases failure with
      | none =>
          rw [delegate_round_done loop live last]
          dsimp only
          rw [quiet]
          exact ⟨_, rfl⟩
      | some error =>
          rw [delegate_round_rejected loop live last]
          exact ⟨_, rfl⟩
  | cons value rest ih =>
      obtain ⟨fuel, rfl⟩ := Nat.exists_eq_succ_of_ne_zero (Nat.ne_of_gt (Nat.zero_lt_of_lt long))
      rw [Iterable.forAwait, delegate_round_value loop live yields.1]
      dsimp only
      rw [takes]
      exact ih (Nat.lt_of_succ_lt_succ long) (by simp) yields.2 (advance loop value)

end Listed

section Senders

variable {α : Type} {sender : StreamSender α} {source : AsyncIterator α Thrown} {events : List α}
  {failure : Option Thrown} {text : α → Text} {calls headed : List ResponseCall}

theorem sendEvent_written (takes : ∀ calls text, sender.response.refuses calls (.write text) = none)
    (encodes : ∀ event, sender.encode event = .ok (text event)) (calls : List ResponseCall) (event : α) :
    sender.sendEvent calls event = (calls ++ [.write (text event)], .proceed) := by
  rw [StreamSender.sendEvent, StreamSender.writeEvent, encodes]
  dsimp only [ServerResponse.call]
  rw [takes]

theorem foldl_write (calls : List ResponseCall) (events : List α) :
    events.foldl (fun calls event => calls ++ [ResponseCall.write (text event)]) calls =
      calls ++ events.map fun event => .write (text event) := by
  induction events generalizing calls with
  | nil => simp
  | cons event rest ih => rw [List.foldl_cons, ih, List.map_cons, List.append_assoc, List.singleton_append]

/-- A stream that rejects before it has yielded has no head. -/
theorem send_refused {thrown : Thrown} (lists : source.Lists [] (some thrown)) (fuel : Nat) :
    (sender.send source fuel calls).map Sent.outcome = some (sender.refuse thrown calls) := by
  have pulled : source.next 0 = .rejected thrown := lists.yields
  rw [StreamSender.send, AsyncIterator.pull, pulled]
  rfl

/-- Any other goes out event by event, and then ends as its source does. -/
theorem send_listed (takes : ∀ calls text, sender.response.refuses calls (.write text) = none)
    (encodes : ∀ event, sender.encode event = .ok (text event)) (lists : source.Lists events failure)
    (heads : sender.head calls = .ok () headed) {fuel : Nat} (long : events.length < fuel)
    (peeked : events ≠ [] ∨ failure = none) :
    (sender.send source fuel calls).map Sent.outcome = some (
      sender.conclude (.ofFailure failure) (headed ++ events.map fun event => .write (text event))) := by
  have takesAll := sendEvent_written takes encodes
  cases events with
  | nil =>
      obtain rfl : failure = none := peeked.resolve_left fun filled => filled rfl
      have pulled : source.next 0 = .done := lists.yields
      have through : source.next 1 = .done := source.doneForGood pulled (Nat.zero_le 1)
      obtain ⟨delegate, run⟩ := @delegate_forAwait_listed _ _ _ source none sender.sendEvent _ lists.quiet takesAll
        [] fuel long ⟨⟨1, 0⟩, .suspendedStart⟩ (by simp) through headed
      rw [StreamSender.send, AsyncIterator.pull, pulled]
      dsimp only
      rw [heads]
      dsimp only [handleFirst]
      rw [run]
      simp
  | cons first rest =>
      obtain ⟨delegate, run⟩ := @delegate_forAwait_listed _ _ _ source failure sender.sendEvent _ lists.quiet takesAll
        rest fuel (Nat.lt_of_succ_lt long) ⟨⟨1, 0⟩, .suspendedStart⟩ (by simp) lists.yields.2
        (headed ++ [.write (text first)])
      rw [StreamSender.send, AsyncIterator.pull, lists.yields.1]
      dsimp only
      rw [heads]
      dsimp only [handleFirst]
      rw [takesAll]
      dsimp only
      rw [run, foldl_write]
      simp

end Senders

end A2A.Server
