import A2A.Compat.EventStreams
import A2A.Json.Readable

namespace A2A.Compat

open Library Errors Server

/-! Which responses leave the source of their events open. -/

section Senders

variable {α : Type} {sender : StreamSender α} {source : AsyncGenerator α Thrown} {fuel : Nat}
  {calls : List ResponseCall} {sent : Sent}

/-- After a single pull that gave a value, the source is open. -/
theorem peeked_open {first : α} (pulled : source.next 0 = .value first) : ¬ source.Closed ⟨1, 0⟩ := by
  have values : ∀ position < 1, ∃ value, source.next position = .value value := by
    intro position asked
    rw [Nat.lt_one_iff.mp asked]
    exact ⟨first, pulled⟩
  intro closed
  exact absurd ((AsyncIterator.closed_iff_of_values values).mp closed) (Nat.lt_irrefl 0)

/-- The loop of a sender that has ended. -/
theorem closed_of_rest {use : Use} {loop : List ResponseCall}
    (returned : ((delegateAsyncIterator source.toAsyncIterator).forAwait sender.sendEvent fuel
        ⟨use, .suspendedStart⟩ loop).ending.map (fun ending =>
          let run := (delegateAsyncIterator source.toAsyncIterator).forAwait sender.sendEvent fuel
            ⟨use, .suspendedStart⟩ loop
          (⟨run.source.use, sender.conclude ending run.loop⟩ : Sent)) = some sent) :
    source.Closed sent.use := by
  have live : (⟨use, .suspendedStart⟩ : Delegate).phase ≠ .completed := DelegatePhase.noConfusion
  have within := delegate_forAwait_closed source sender.sendEvent fuel loop live
  obtain ⟨ending, ended, rfl⟩ := Option.map_eq_some_iff.mp returned
  unfold Iteration.Within at within
  rw [ended] at within
  exact within

theorem send_closed_iff (returned : sender.send source.toAsyncIterator fuel calls = some sent) :
    source.Closed sent.use ↔ ∀ first, source.next 0 = .value first →
      ∃ headed written, sender.head calls = .ok () headed ∧ sender.writeEvent first headed = .ok () written := by
  unfold StreamSender.send AsyncIterator.pull at returned
  cases pulled : source.next 0 with
  | rejected thrown =>
      rw [pulled] at returned
      cases returned
      exact iff_of_true (source.closed_pull {} (by simp [pulled])) (by simp)
  | done =>
      rw [pulled] at returned
      dsimp only at returned
      refine iff_of_true ?_ (by simp)
      cases head : sender.head calls with
      | error thrown headed =>
          rw [head] at returned
          cases returned
          exact source.closed_pull {} (by simp [pulled])
      | ok _ headed =>
          rw [head] at returned
          exact closed_of_rest returned
  | value first =>
      rw [pulled] at returned
      dsimp only at returned
      cases head : sender.head calls with
      | error thrown headed =>
          rw [head] at returned
          cases returned
          refine iff_of_false (peeked_open pulled) fun sends => ?_
          obtain ⟨_, _, heads, -⟩ := sends first rfl
          exact nomatch heads
      | ok _ headed =>
          rw [head] at returned
          dsimp only [handleFirst, StreamSender.sendEvent] at returned
          cases written : sender.writeEvent first headed with
          | ok _ calls =>
              rw [written] at returned
              refine iff_of_true (closed_of_rest returned) ?_
              rintro _ ⟨⟩
              exact ⟨headed, calls, rfl, written⟩
          | error thrown calls =>
              rw [written] at returned
              cases returned
              refine iff_of_false (peeked_open pulled) fun sends => ?_
              obtain ⟨_, _, heads, writes⟩ := sends first rfl
              cases heads
              exact nomatch written.symm.trans writes

theorem sendUnpeeked_closed_iff (returned : sender.sendUnpeeked source.toAsyncIterator fuel calls = some sent) :
    source.Closed sent.use ↔ ∃ headed, sender.head calls = .ok () headed := by
  unfold StreamSender.sendUnpeeked at returned
  cases head : sender.head calls with
  | error thrown headed =>
      rw [head] at returned
      cases returned
      refine iff_of_false (fun closed => ?_) (by simp)
      rcases closed with ⟨position, asked, -⟩ | closed
      · exact absurd asked (Nat.not_lt_zero _)
      · exact absurd closed (Nat.lt_irrefl 0)
  | ok _ headed =>
      rw [head] at returned
      have within := source.forAwait_closed sender.sendEvent fuel {} headed
      obtain ⟨ending, ended, rfl⟩ := Option.map_eq_some_iff.mp returned
      unfold Iteration.Within at within
      rw [ended] at within
      exact iff_of_true within ⟨headed, rfl⟩

end Senders

/-- Nothing throws before the loop: neither the head of the response nor, where it is pulled by
hand, the first event. -/
def SseRoute.ReachesLoop {α : Type} (route : SseRoute α) (response : ServerResponse) (format : NumberFormat)
    (activatedExtensions : Option Extensions) (source : AsyncIterator α Thrown) (calls : List ResponseCall) : Prop :=
  let sender := route.sender response format activatedExtensions
  if route.peeks then
    ∀ first, source.next 0 = .value first →
      ∃ headed written, sender.head calls = .ok () headed ∧ sender.writeEvent first headed = .ok () written
  else ∃ headed, sender.head calls = .ok () headed

/-- A response that takes every call. -/
def openResponse : ServerResponse where
  refuses _ _ := none
  headersSent calls := calls.any fun
    | .setHeader _ _ => false
    | _ => true
  writableEnded calls := calls.any fun
    | .json _ _ | .finish => true
    | _ => false

/-- A source of one event. -/
def single : AsyncGenerator Unit Thrown where
  next
    | 0 => .value ()
    | _ + 1 => .done
  close := some (fun _ => none)
  doneForGood := by
    intro position later through behind
    cases later with
    | zero =>
        rw [Nat.le_zero.mp behind] at through
        exact nomatch through
    | succ later => rfl
  closable := rfl

/-- A response closes its source exactly if its sender reaches the loop over it. -/
theorem sseResponse_closes_iff {α : Type} (route : SseRoute α) (response : ServerResponse) (format : NumberFormat)
    (activatedExtensions : Option Extensions) (source : AsyncGenerator α Thrown) (fuel : Nat)
    (calls : List ResponseCall) (sent : Sent)
    (returned : route.send response format activatedExtensions source.toAsyncIterator fuel calls = some sent) :
    source.Closed sent.use ↔
      route.ReachesLoop response format activatedExtensions source.toAsyncIterator calls := by
  unfold SseRoute.ReachesLoop
  cases route with
  | rest toJSON => exact send_closed_iff returned
  | legacyRest toJSON => exact send_closed_iff returned
  | jsonRpc toJSON useLegacy body =>
      obtain ⟨inner, ended, rfl⟩ := Option.map_eq_some_iff.mp returned
      cases always : alwaysStreamSse useLegacy body with
      | true =>
          rw [if_pos always] at ended
          simpa [SseRoute.peeks, SseRoute.sender, always] using sendUnpeeked_closed_iff ended
      | false =>
          rw [always] at ended
          simpa [SseRoute.peeks, SseRoute.sender, always] using send_closed_iff ended

theorem sseResponse_closes_single :
    ∃ sent,
      (SseRoute.rest (fun _ : Unit => .ok .null)).send openResponse decimalFormat none single.toAsyncIterator 1 [] =
        some sent ∧ single.Closed sent.use := by
  obtain ⟨sent, returned⟩ : ∃ sent, (SseRoute.rest (fun _ : Unit => .ok .null)).send openResponse decimalFormat none
      single.toAsyncIterator 1 [] = some sent := ⟨_, rfl⟩
  have closes := sseResponse_closes_iff (.rest (fun _ : Unit => .ok .null)) openResponse decimalFormat none single 1 []
    sent returned
  exact ⟨sent, returned, closes.mpr (fun _ _ => ⟨_, _, rfl, rfl⟩)⟩

/-- A first event that cannot be encoded. -/
theorem unencodableFirst_leavesOpen :
    ∃ sent,
      (SseRoute.rest (fun _ : Unit => .error .other)).send openResponse decimalFormat none single.toAsyncIterator
        0 [] = some sent ∧ ¬ single.Closed sent.use :=
  ⟨_, rfl, @peeked_open _ single () rfl⟩

end A2A.Compat
