import A2A.Json.Readable
import A2A.Sse.Properties.Chunking

namespace A2A

open Library

/-! The parser gives back the events that the server formatted, however the
connection cuts their text into chunks. -/

/-- What a server writes to a stream. -/
inductive SseFrame where
  | dataEvent (event : JsonValue)
  | errorEvent (error : JsonValue)

section Frames

variable (format : NumberFormat)

def SseFrame.value : SseFrame → JsonValue
  | .dataEvent event => event
  | .errorEvent error => error

def SseFrame.text : SseFrame → Text
  | .dataEvent event => formatSSEEvent format event
  | .errorEvent error => formatSSEErrorEvent format error

def SseFrame.event (frame : SseFrame) : SseEvent where
  type := match frame with
    | .dataEvent _ => "message".toList
    | .errorEvent _ => "error".toList
  data := Json.stringify format frame.value

/-- No line of the frame is longer than the limit. -/
def SseFrame.Fits (maxEventSizeBytes : SizeLimit) (frame : SseFrame) : Prop :=
  ∀ line ∈ (frame.text format).splitOn '\n', ¬ Text.exceeds line maxEventSizeBytes

instance (maxEventSizeBytes : SizeLimit) (frame : SseFrame) :
    Decidable (frame.Fits format maxEventSizeBytes) :=
  List.decidableBAll (fun line => ¬ Text.exceeds line maxEventSizeBytes)
    ((frame.text format).splitOn '\n')

end Frames

section Lines

variable {maxEventSizeBytes : SizeLimit}

theorem Json.Plain.unbroken {text : Text} (plain : Json.Plain text) : '\n' ∉ text :=
  fun member => plain '\n' member (by decide)

theorem Json.Plain.no_return {text : Text} (plain : Json.Plain text) : text.getLast? ≠ some '\r' :=
  fun last => plain '\r' (List.mem_of_getLast? last) (by decide)

theorem Text.exceeds.prepend {text : Text} (exceeds : text.exceeds maxEventSizeBytes) (before : Text) :
    Text.exceeds (before ++ text) maxEventSizeBytes :=
  exceeds.within (by rw [codeUnits_append]; omega)

/-- A line that fits and has no carriage return at its end is read as it stands. -/
theorem readLine_fits {pending : PendingEvent} {line : Text}
    (fits : ¬ line.exceeds maxEventSizeBytes) (plain : Json.Plain line) :
    pending.readLine maxEventSizeBytes line = pending.readField maxEventSizeBytes line := by
  rw [PendingEvent.readLine, if_neg fits, if_neg plain.no_return]

theorem readField_data {pending : PendingEvent} {text : Text} (fresh : pending.eventData = [])
    (fits : ¬ Text.exceeds ("data: ".toList ++ text) maxEventSizeBytes) :
    pending.readField maxEventSizeBytes ("data: ".toList ++ text) =
      .pure { pending with eventData := text } := by
  have shorter : ¬ text.exceeds maxEventSizeBytes := fun exceeds => fits (exceeds.prepend _)
  simp [PendingEvent.readField, List.dropPrefix?, stripOptionalLeadingSpace, fresh, shorter]

theorem readField_error (pending : PendingEvent) :
    pending.readField maxEventSizeBytes "event: error".toList =
      .pure { pending with eventType := "error".toList } := by
  simp [PendingEvent.readField, List.dropPrefix?, stripOptionalLeadingSpace]

theorem readField_blank {pending : PendingEvent} (filled : pending.eventData ≠ []) :
    pending.readField maxEventSizeBytes [] =
      ⟨[⟨pending.eventType, pending.eventData⟩], .ok {}⟩ := by
  simp [PendingEvent.readField, filled]

/-- A data line and the blank line behind it hand out the pending event. -/
theorem feed_data (pending : PendingEvent) {text : Text} (fresh : pending.eventData = [])
    (plain : Json.Plain text) (filled : text ≠ [])
    (fits : ¬ Text.exceeds ("data: ".toList ++ text) maxEventSizeBytes) (rest : Text) :
    Emission.feed (SseParser.readChar maxEventSizeBytes) ⟨[], pending⟩
        ("data: ".toList ++ text ++ "\n\n".toList ++ rest) =
      Emission.bind ⟨[⟨pending.eventType, text⟩], .ok {}⟩
        fun parser => Emission.feed (SseParser.readChar maxEventSizeBytes) parser rest := by
  have line : Json.Plain ("data: ".toList ++ text) := Json.Plain.append (by decide) plain
  have empty : ¬ Text.exceeds [] maxEventSizeBytes := fun exceeds => fits (exceeds.append _)
  have shape : "data: ".toList ++ text ++ "\n\n".toList ++ rest =
      ("data: ".toList ++ text) ++ '\n' :: ([] ++ '\n' :: rest) := by simp
  rw [shape, feed_line line.unbroken, List.nil_append, readLine_fits fits line,
    readField_data fresh fits, Emission.pure_bind, feed_line List.not_mem_nil,
    List.nil_append, readLine_fits empty (by decide), readField_blank filled]
  rfl

end Lines

section Streams

variable {format : NumberFormat} {maxEventSizeBytes : SizeLimit}

/-- An error event is a line with its type, and what a data event would be. -/
theorem formatSSEErrorEvent_eq (error : JsonValue) :
    formatSSEErrorEvent format error =
      "event: error".toList ++ '\n' :: formatSSEEvent format error := by
  have named : "event: error\ndata: ".toList = "event: error".toList ++ '\n' :: "data: ".toList := by
    simp only [String.reduceToList, List.cons_append, List.nil_append]
  unfold formatSSEErrorEvent formatSSEEvent
  rw [named]
  simp only [List.append_assoc, List.cons_append]

theorem formatSSEEvent_lines (event : JsonValue) :
    (formatSSEEvent format event).splitOn '\n' =
      ("data: ".toList ++ Json.stringify format event) :: ['\n'].splitOn '\n' := by
  have line : Json.Plain ("data: ".toList ++ Json.stringify format event) :=
    Json.Plain.append (by decide) (Json.stringify_plain format event)
  exact List.splitOn_append_cons_self_of_not_mem line.unbroken ['\n']

/-- A frame that fits is read as its event, and leaves nothing behind. -/
theorem feed_frame {frame : SseFrame} (fits : frame.Fits format maxEventSizeBytes) (rest : Text) :
    Emission.feed (SseParser.readChar maxEventSizeBytes) {} (frame.text format ++ rest) =
      Emission.bind ⟨[frame.event format], .ok {}⟩
        fun parser => Emission.feed (SseParser.readChar maxEventSizeBytes) parser rest := by
  cases frame with
  | dataEvent event =>
      simp only [SseFrame.Fits, SseFrame.text, formatSSEEvent_lines, List.forall_mem_cons] at fits
      exact feed_data {} rfl (Json.stringify_plain format event)
        (Json.stringify_filled format event) fits.1 rest
  | errorEvent error =>
      have unbroken : '\n' ∉ "event: error".toList := by decide
      simp only [SseFrame.Fits, SseFrame.text, formatSSEErrorEvent_eq, formatSSEEvent_lines,
        List.splitOn_append_cons_self_of_not_mem unbroken, List.forall_mem_cons] at fits
      have data := feed_data { eventType := "error".toList } rfl
        (Json.stringify_plain format error) (Json.stringify_filled format error) fits.2.1 rest
      simp only [SseFrame.text, formatSSEErrorEvent_eq, List.append_assoc, List.cons_append]
      rw [feed_line unbroken, List.nil_append, readLine_fits fits.1 (by decide),
        readField_error, Emission.pure_bind]
      exact data

theorem feed_frames {frames : List SseFrame}
    (fits : ∀ frame ∈ frames, frame.Fits format maxEventSizeBytes) :
    Emission.feed (SseParser.readChar maxEventSizeBytes) {}
        (frames.map (SseFrame.text format)).flatten =
      ⟨frames.map (SseFrame.event format), .ok {}⟩ := by
  induction frames with
  | nil => rfl
  | cons frame rest ih =>
      rw [List.forall_mem_cons] at fits
      rw [List.map_cons, List.flatten_cons, feed_frame fits.1, Emission.ok_bind, ih fits.2]
      rfl

/-- Frames whose lines fit are parsed back as their events, in order and with
nothing else, under every cutting of their text. -/
theorem parseSseStream_frames (frames : List SseFrame) (chunks : List Text)
    (fits : ∀ frame ∈ frames, frame.Fits format maxEventSizeBytes)
    (cut : chunks.flatten = (frames.map (SseFrame.text format)).flatten) :
    parseSseStream maxEventSizeBytes chunks = ⟨frames.map (SseFrame.event format), .ok ()⟩ := by
  rw [parseSseStream_eq_feed, cut, feed_frames fits, Emission.ok_bind, PendingEvent.atEnd, if_pos rfl]
  simp [Emission.pure]

end Streams

def sampleFrames : List SseFrame :=
  [.errorEvent (.object [("code", .number (-32603)), ("message", .string "a\r\nb")]),
    .dataEvent (.array [.null, .bool true])]

/-- Two frames cut between the carriage return's escape and in the second field name. -/
theorem parseSseStream_frames_sample :
    parseSseStream (.bytes 40)
        ["event: err".toList, [], "or\ndata: \x7b\"code\":-32603,\"message\":\"a\\".toList,
          "r\\nb\"\x7d\n\nda".toList, "ta: [null,true]\n\n".toList] =
      ⟨sampleFrames.map (SseFrame.event decimalFormat), .ok ()⟩ :=
  parseSseStream_frames sampleFrames _ (by decide) (by decide)

end A2A
