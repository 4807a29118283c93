import A2A.Client.Responses
import A2A.Compat.Properties.ClosedStreams
import A2A.Server.Properties.ListedStreams
import A2A.Sse.Properties.RoundTrips
import A2A.Types.Properties.CodecRoundTrips

namespace A2A.Client

open Library Errors Server

/-! An event stream on a response that takes every call: how a sender ends it, what goes out for it, and how a client
takes it apart again.
-/

section Sending

/-- A piece of a sender with its `finally`, where nothing throws. -/
theorem tryFinally_ok {first last : Responding} {calls between final : List ResponseCall}
    (runs : first calls = .ok () between) (ends : last between = .ok () final) :
    (try first finally last) calls = .ok () final := by
  simp only [tryFinally, MonadFinally.tryFinally', Functor.map, EStateM.map, runs, ends]

theorem unlessEnded_eq {rest : Responding} {calls : List ResponseCall} {response : ServerResponse}
    (writable : response.writableEnded calls = false) : response.unlessEnded rest calls = rest calls := by
  have reads : response.unlessEnded rest calls =
      (if response.writableEnded calls then pure () else rest : Responding) calls := rfl
  rw [reads, writable, if_neg Bool.false_ne_true]

/-- What is written at the end of a stream. -/
def lastTexts (text : Thrown → Text) (failure : Option Thrown) : List Text := (failure.map text).toList

variable {calls : List ResponseCall}

theorem writableEnded_write (texts : List Text) :
    Compat.openResponse.writableEnded (calls ++ texts.map .write) = Compat.openResponse.writableEnded calls := by
  simp only [Compat.openResponse, List.any_append, List.any_map]
  exact (congrArg (_ || ·) (List.any_eq_false.mpr fun text _ => Bool.false_ne_true)).trans (Bool.or_false _)

theorem finish_open (writable : Compat.openResponse.writableEnded calls = false) :
    Compat.openResponse.unlessEnded (Compat.openResponse.call .finish) calls = .ok () (calls ++ [.finish]) :=
  (unlessEnded_eq writable).trans rfl

/-- A sender ends its stream with the error that its source has ended with. -/
theorem conclude_open {α : Type} {sender : StreamSender α} (opened : sender.response = Compat.openResponse)
    (writable : Compat.openResponse.writableEnded calls = false) {text : Thrown → Text} (failure : Option Thrown)
    (reports : ∀ thrown, sender.report thrown calls = .ok () (calls ++ [.write (text thrown)])) :
    sender.conclude (.ofFailure failure) calls =
      .ok () (calls ++ (lastTexts text failure).map .write ++ [.finish]) := by
  have finishes := finish_open ((writableEnded_write (lastTexts text failure)).trans writable)
  rw [← opened] at finishes
  cases failure with
  | none =>
      change (try (pure () : Responding) finally
        sender.response.unlessEnded (sender.response.call .finish)) calls = _
      exact tryFinally_ok (congrArg (EStateM.Result.ok ()) (List.append_nil calls).symm) finishes
  | some thrown =>
      change (try sender.report thrown finally
        sender.response.unlessEnded (sender.response.call .finish)) calls = _
      exact tryFinally_ok (reports thrown) finishes

variable {format : NumberFormat}

theorem foldl_after_write (reply : HttpReply) (texts : List Text) :
    (texts.map .write).foldl (HttpReply.after format) reply = { reply with text := reply.text ++ texts.flatten } := by
  induction texts generalizing reply with
  | nil => simp
  | cons text rest ih =>
      rw [List.map_cons, List.foldl_cons, ih, List.flatten_cons]
      simp [HttpReply.after]

/-- What a stream is on the wire, behind calls that have sent nothing of it. -/
theorem ofCalls_written (headed : HttpReply.ofCalls format calls = ⟨200, some "text/event-stream", []⟩)
    (texts : List Text) :
    HttpReply.ofCalls format (calls ++ texts.map .write ++ [.finish]) =
      ⟨200, some "text/event-stream", texts.flatten⟩ := by
  rw [HttpReply.ofCalls] at headed
  rw [HttpReply.ofCalls, List.foldl_append, List.foldl_append, headed, foldl_after_write]
  rfl

end Sending

section Receiving

variable {format : NumberFormat} {process : SseEvent → Except ClientError (Option StreamResponse)}

theorem stringify_object_filled (fields : List (String × JsonValue)) :
    isBlank (Json.stringify format (.object fields)) = false := by
  rw [Json.stringify]
  rfl

/-- Events that are taken one by one are taken in front of others. -/
theorem takeEvents_append {α : Type} {event : α → SseEvent} {taken : α → Option StreamResponse} {sources : List α}
    (each : ∀ source ∈ sources, process (event source) = .ok (taken source)) (rest : List SseEvent)
    (ended : Except SseSizeError Unit) :
    takeEvents process (sources.map event ++ rest) ended =
      (sources.map taken ++ (takeEvents process rest ended).1, (takeEvents process rest ended).2) := by
  induction sources with
  | nil => rfl
  | cons source others ih =>
      rw [List.forall_mem_cons] at each
      rw [List.map_cons, List.cons_append, takeEvents, each.1, ih each.2]
      rfl

/-- The frames of a stream that ends with an error event, if it has failed. -/
def framesOf (data : StreamResponse → JsonValue) (error : Thrown → JsonValue) (events : List StreamResponse)
    (failure : Option Thrown) : List SseFrame :=
  events.map (fun event => .dataEvent (data event)) ++ (failure.map fun thrown => .errorEvent (error thrown)).toList

/-- How a client's generator ends behind its events. -/
def endedWith (refused : Thrown → ClientError) : Option Thrown → Except ClientError Unit
  | none => .ok ()
  | some thrown => .error (refused thrown)

variable {data : StreamResponse → JsonValue} {error : Thrown → JsonValue} {events : List StreamResponse}
  {failure : Option Thrown} {refused : Thrown → ClientError}

theorem texts_framesOf :
    (framesOf data error events failure).map (SseFrame.text format) =
      events.map (fun event => formatSSEEvent format (data event)) ++
        lastTexts (fun thrown => formatSSEErrorEvent format (error thrown)) failure := by
  rw [framesOf, List.map_append, List.map_map]
  cases failure <;> rfl

/-- What a client makes of these frames, from what it makes of each. -/
theorem takeEvents_framesOf
    (takes : ∀ event ∈ events, process (SseFrame.event format (.dataEvent (data event))) = .ok (some event.relayed))
    (fails : ∀ thrown, failure = some thrown →
      process (SseFrame.event format (.errorEvent (error thrown))) = .error (refused thrown)) :
    takeEvents process ((framesOf data error events failure).map (SseFrame.event format)) (.ok ()) =
      (events.map fun event => some event.relayed, endedWith refused failure) := by
  rw [framesOf, List.map_append, List.map_map]
  refine (takeEvents_append takes _ _).trans ?_
  cases failure with
  | none => exact Prod.ext (List.append_nil _) rfl
  | some thrown =>
      simp only [Option.map_some, Option.toList_some, List.map_cons, List.map_nil, takeEvents, fails thrown rfl]
      exact Prod.ext (List.append_nil _) rfl

/-- A stream that fits is parsed to its frames, however its text has been cut. -/
theorem readEvents_framesOf {frames : List SseFrame}
    (fits : ∀ frame ∈ frames, frame.Fits format DEFAULT_MAX_SSE_EVENT_SIZE_BYTES) {response : FetchResponse}
    (text : response.text = (frames.map (SseFrame.text format)).flatten) :
    readEvents process response = takeEvents process (frames.map (SseFrame.event format)) (.ok ()) := by
  have whole : response.chunks.flatten = _ := text
  have parsed : parseSseStream DEFAULT_MAX_SSE_EVENT_SIZE_BYTES response.chunks =
      ⟨frames.map (SseFrame.event format), .ok ()⟩ := by
    rw [parseSseStream_eq_feed, whole, feed_frames fits, Emission.ok_bind, PendingEvent.atEnd, if_pos rfl]
    simp [Emission.pure]
  rw [readEvents, parsed]

end Receiving

end A2A.Client
