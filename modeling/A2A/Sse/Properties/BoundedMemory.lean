import A2A.Sse.Suspensions
import A2A.Sse.Properties.Blocks

namespace A2A

open Library

/-! The parser holds no more than its limit, wherever it is suspended.

The data is checked where it grows, the type with the line it stands in, and the line buffer
where a chunk ends.  Only inside a chunk is the buffer longer, by no more than that chunk.
-/

/-- A negative limit lets no character through, as zero does. -/
def SizeLimit.fromZero : SizeLimit → SizeLimit
  | .bytes limit => .bytes (max limit 0)
  | .infinity => .infinity

def SizeLimit.extended (extra : Nat) : SizeLimit → SizeLimit
  | .bytes limit => .bytes (limit + extra)
  | .infinity => .infinity

/-- The default type is there before any line is. -/
structure PendingEvent.Bounded (maxEventSizeBytes : SizeLimit) (pending : PendingEvent) : Prop where
  data : ¬ pending.eventData.exceeds maxEventSizeBytes
  type : pending.eventType = "message".toList ∨ ¬ pending.eventType.exceeds maxEventSizeBytes

def SseEvent.Bounded (maxEventSizeBytes : SizeLimit) (event : SseEvent) : Prop :=
  PendingEvent.Bounded maxEventSizeBytes ⟨event.type, event.data⟩

def SseSuspension.Bounded (maxEventSizeBytes : SizeLimit) : SseSuspension → Prop
  | .reading parser =>
      ¬ parser.buffer.exceeds maxEventSizeBytes ∧ parser.pending.Bounded maxEventSizeBytes
  | .yielding chunk parser event =>
      ¬ parser.buffer.exceeds (maxEventSizeBytes.extended chunk.codeUnits) ∧
        parser.pending.Bounded maxEventSizeBytes ∧ event.Bounded maxEventSizeBytes

/-- The size error of a parser with this limit. -/
def SseSizeError.Of (maxEventSizeBytes : SizeLimit) (error : SseSizeError) : Prop :=
  error.maxEventSizeBytes = maxEventSizeBytes

section Sizes

variable {maxEventSizeBytes : SizeLimit} {text : Text}

theorem Text.exceeds.fromZero (exceeds : text.exceeds maxEventSizeBytes.fromZero) :
    text.exceeds maxEventSizeBytes := by
  cases maxEventSizeBytes with
  | infinity => exact exceeds
  | bytes limit =>
      have passed : max limit 0 < (text.codeUnits : Int) := exceeds
      change limit < (text.codeUnits : Int)
      omega

theorem fits_nil (maxEventSizeBytes : SizeLimit) : ¬ Text.exceeds [] maxEventSizeBytes.fromZero := by
  cases maxEventSizeBytes with
  | infinity => exact id
  | bytes limit =>
      intro passed
      change max limit 0 < 0 at passed
      omega

/-- A buffer takes a chunk in within the limit and that chunk. -/
theorem Text.exceeds.retract {chunk : Text}
    (exceeds : Text.exceeds (text ++ chunk) (maxEventSizeBytes.extended chunk.codeUnits)) :
    text.exceeds maxEventSizeBytes := by
  cases maxEventSizeBytes with
  | infinity => exact exceeds
  | bytes limit =>
      have passed : limit + chunk.codeUnits < ((text ++ chunk).codeUnits : Int) := exceeds
      rw [codeUnits_append] at passed
      change limit < (text.codeUnits : Int)
      omega

theorem Text.exceeds.restrict {extra : Nat} (exceeds : text.exceeds (maxEventSizeBytes.extended extra)) :
    text.exceeds maxEventSizeBytes := by
  cases maxEventSizeBytes with
  | infinity => exact exceeds
  | bytes limit =>
      have passed : limit + extra < (text.codeUnits : Int) := exceeds
      change limit < (text.codeUnits : Int)
      omega

theorem codeUnits_dropPrefix? {opening rest : Text} (dropped : text.dropPrefix? opening = some rest) :
    rest.codeUnits ≤ text.codeUnits := by
  obtain ⟨begun, whole, -⟩ := List.dropPrefix?_eq_some_iff.mp dropped
  rw [whole, Text.codeUnits_append]
  omega

theorem codeUnits_stripOptionalLeadingSpace (value : Text) :
    (stripOptionalLeadingSpace value).codeUnits ≤ value.codeUnits := by
  unfold stripOptionalLeadingSpace
  cases dropped : value.dropPrefix? [' '] with
  | none => exact le_refl _
  | some rest => exact codeUnits_dropPrefix? dropped

theorem codeUnits_dropLast (text : Text) : Text.codeUnits text.dropLast ≤ text.codeUnits := by
  obtain ⟨last, whole⟩ := text.dropLast_prefix
  have joined := Text.codeUnits_append text.dropLast last
  rw [whole] at joined
  omega

end Sizes

section Runs

variable {maxEventSizeBytes : SizeLimit} {pending : PendingEvent}

theorem bounded_initially (maxEventSizeBytes : SizeLimit) :
    PendingEvent.Bounded maxEventSizeBytes.fromZero {} :=
  ⟨fits_nil maxEventSizeBytes, .inl rfl⟩

/-- Data that has grown is kept only behind its check. -/
theorem grown_bounded (bounded : pending.Bounded maxEventSizeBytes.fromZero) (eventData : Text) :
    (if eventData.exceeds maxEventSizeBytes then .fail ⟨"SSE event data", maxEventSizeBytes⟩
      else .pure { pending with eventData } : SseEmission PendingEvent).Meets
        (SseEvent.Bounded maxEventSizeBytes.fromZero) (SseSizeError.Of maxEventSizeBytes)
        (PendingEvent.Bounded maxEventSizeBytes.fromZero) := by
  split
  · exact .fail rfl
  · rename_i fits
    exact .pure ⟨fun exceeds => fits exceeds.fromZero, bounded.type⟩

/-- The name of an event is part of its line. -/
theorem readField_bounded (bounded : pending.Bounded maxEventSizeBytes.fromZero) {line : Text}
    (fits : ¬ line.exceeds maxEventSizeBytes.fromZero) :
    (pending.readField maxEventSizeBytes line).Meets (SseEvent.Bounded maxEventSizeBytes.fromZero)
      (SseSizeError.Of maxEventSizeBytes) (PendingEvent.Bounded maxEventSizeBytes.fromZero) := by
  unfold PendingEvent.readField
  split
  · split
    · exact .pure bounded
    · exact
        { results := List.forall_mem_singleton.mpr bounded
          failure := fun _ ended => nomatch ended
          state := fun _ ended => Except.ok.inj ended ▸ bounded_initially maxEventSizeBytes }
  · split
    · exact .pure bounded
    · split
      · rename_i value found
        refine .pure ⟨bounded.data, .inr fun exceeds => fits (exceeds.within ?_)⟩
        exact (codeUnits_stripOptionalLeadingSpace value).trans (codeUnits_dropPrefix? found)
      · split
        · exact grown_bounded bounded _
        · exact .pure bounded

theorem readLine_bounded (bounded : pending.Bounded maxEventSizeBytes.fromZero) (line : Text) :
    (pending.readLine maxEventSizeBytes line).Meets (SseEvent.Bounded maxEventSizeBytes.fromZero)
      (SseSizeError.Of maxEventSizeBytes) (PendingEvent.Bounded maxEventSizeBytes.fromZero) := by
  unfold PendingEvent.readLine
  split
  · exact .fail rfl
  · rename_i fits
    have whole : ¬ line.exceeds maxEventSizeBytes.fromZero := fun exceeds => fits exceeds.fromZero
    split
    · exact readField_bounded bounded fun exceeds => whole (exceeds.within (codeUnits_dropLast line))
    · exact readField_bounded bounded whole

/-- What is left of the buffer gets shorter with every line. -/
theorem scanLines_bounded {chunk : Text} (bounded : pending.Bounded maxEventSizeBytes.fromZero)
    (line : Text) {rest : Text}
    (within : ¬ rest.exceeds (maxEventSizeBytes.fromZero.extended chunk.codeUnits)) :
    (pending.scanLines maxEventSizeBytes chunk line rest).Meets
      (SseSuspension.Bounded maxEventSizeBytes.fromZero) (SseSizeError.Of maxEventSizeBytes)
      fun scanned => scanned.pending.Bounded maxEventSizeBytes.fromZero := by
  induction rest generalizing pending line with
  | nil => exact .pure bounded
  | cons char rest ih =>
      have left : ¬ Text.exceeds rest (maxEventSizeBytes.fromZero.extended chunk.codeUnits) :=
        fun exceeds => within (exceeds.within (by rw [← List.singleton_append, Text.codeUnits_append]; omega))
      unfold PendingEvent.scanLines
      split
      · have read := readLine_bounded bounded line
        exact .bind (read.mapEmitted fun event handed => ⟨left, bounded, handed⟩) fun next kept => ih kept [] left
      · exact ih bounded (line ++ [char]) left

theorem scanChunk_bounded {parser : SseParser} (bounded : parser.pending.Bounded maxEventSizeBytes.fromZero)
    (fits : ¬ parser.buffer.exceeds maxEventSizeBytes.fromZero) (chunk : Text) :
    (parser.scanChunk maxEventSizeBytes chunk).Meets
      (SseSuspension.Bounded maxEventSizeBytes.fromZero) (SseSizeError.Of maxEventSizeBytes)
      fun next => (SseSuspension.reading next).Bounded maxEventSizeBytes.fromZero := by
  have joined : ¬ Text.exceeds (parser.buffer ++ chunk)
      (maxEventSizeBytes.fromZero.extended chunk.codeUnits) := fun exceeds => fits exceeds.retract
  refine (scanLines_bounded bounded [] joined).bind fun next kept => ?_
  unfold SseParser.checked
  split
  · exact .fail rfl
  · rename_i short
    exact .pure ⟨fun exceeds => short exceeds.fromZero, kept⟩

theorem atEnd_bounded (bounded : pending.Bounded maxEventSizeBytes.fromZero) :
    pending.atEnd.Meets (SseEvent.Bounded maxEventSizeBytes.fromZero) (SseSizeError.Of maxEventSizeBytes)
      fun _ => True := by
  unfold PendingEvent.atEnd
  split
  · exact .pure trivial
  · exact
      { results := List.forall_mem_singleton.mpr bounded
        failure := fun _ ended => nomatch ended
        state := fun _ _ => trivial }

theorem run_bounded {parser : SseParser}
    (bounded : (SseSuspension.reading parser).Bounded maxEventSizeBytes.fromZero) (chunks : List Text) :
    (parser.run maxEventSizeBytes chunks).Meets
      (SseSuspension.Bounded maxEventSizeBytes.fromZero) (SseSizeError.Of maxEventSizeBytes)
      fun _ => True := by
  induction chunks generalizing parser with
  | nil =>
      refine .emit bounded ((atEnd_bounded bounded.2).mapEmitted fun event handed => ⟨?_, bounded.2, handed⟩)
      exact fun exceeds => bounded.1 exceeds.restrict
  | cons chunk rest ih =>
      exact .emit bounded ((scanChunk_bounded bounded.2 bounded.1 chunk).bind fun next kept => ih kept)

end Runs

/-- Wherever the parser is suspended, what it holds is within its limit, a negative one counting
as zero, and where it fails it is for a size. -/
theorem suspensions_bounded (maxEventSizeBytes : SizeLimit) (chunks : List Text) :
    (∀ suspension ∈ (suspensions maxEventSizeBytes chunks).emitted,
      suspension.Bounded maxEventSizeBytes.fromZero) ∧
    ∀ error, (suspensions maxEventSizeBytes chunks).ended = .error error →
      error.maxEventSizeBytes = maxEventSizeBytes := by
  have opened : (SseSuspension.reading {}).Bounded maxEventSizeBytes.fromZero :=
    ⟨fits_nil maxEventSizeBytes, bounded_initially maxEventSizeBytes⟩
  have meets := run_bounded opened (chunks.filter fun chunk => !chunk.isEmpty)
  exact ⟨meets.results, meets.failure⟩

/-- An empty buffer is already longer than a negative limit. -/
theorem suspensions_unbounded :
    ¬ ∀ maxEventSizeBytes chunks, ∀ suspension ∈ (suspensions maxEventSizeBytes chunks).emitted,
      suspension.Bounded maxEventSizeBytes := by
  intro always
  have bounded := always (.bytes (-1)) [] (.reading {}) (List.mem_singleton.mpr rfl)
  exact bounded.1 (by decide)

end A2A
