import A2A.Json
import A2A.Library.Emission

namespace A2A

open Library

/-! Server-Sent Events, as both HTTP transports format them and the client parses them. -/

structure SseEvent where
  type : Text
  data : Text
deriving DecidableEq, Repr

section Format

variable (format : NumberFormat)

def formatSSEEvent (event : JsonValue) : Text :=
  "data: ".toList ++ Json.stringify format event ++ "\n\n".toList

def formatSSEErrorEvent (error : JsonValue) : Text :=
  "event: error\ndata: ".toList ++ Json.stringify format error ++ "\n\n".toList

end Format

/-- What a caller may pass as `maxEventSizeBytes`. -/
inductive SizeLimit where
  | bytes (limit : Int)
  | infinity
deriving DecidableEq, Repr

def DEFAULT_MAX_SSE_EVENT_SIZE_BYTES : SizeLimit := .bytes (4 * 1024 * 1024)

/-- The limit in an error message. -/
def SizeLimit.text : SizeLimit → String
  | .bytes limit => toString limit
  | .infinity => "Infinity"

def Text.exceeds (text : Text) : SizeLimit → Prop
  | .bytes limit => limit < text.codeUnits
  | .infinity => False

instance (text : Text) : ∀ maxEventSizeBytes, Decidable (text.exceeds maxEventSizeBytes)
  | .bytes limit => inferInstanceAs (Decidable (limit < (text.codeUnits : Int)))
  | .infinity => inferInstanceAs (Decidable False)

structure SseSizeError where
  what : String
  maxEventSizeBytes : SizeLimit
deriving DecidableEq

def SseSizeError.message (error : SseSizeError) : String :=
  s!"{error.what} exceeded the maximum allowed size of {error.maxEventSizeBytes.text} bytes. Pass maxEventSizeBytes to raise the limit, or prefer FileWithUri parts for large payloads."

def stripOptionalLeadingSpace (value : Text) : Text :=
  (value.dropPrefix? [' ']).getD value

/-- The event that is being read. -/
structure PendingEvent where
  eventType : Text := "message".toList
  eventData : Text := []
deriving DecidableEq

/-- The parser's variables between two chunks. -/
structure SseParser where
  buffer : Text := []
  pending : PendingEvent := {}
deriving DecidableEq

abbrev SseEmission (σ : Type) := Emission SseEvent SseSizeError σ

section Parse

variable (maxEventSizeBytes : SizeLimit)

/-- What one line does to the pending event, behind the check of its size. -/
def PendingEvent.readField (pending : PendingEvent) (line : Text) : SseEmission PendingEvent :=
  if line = [] then
    if pending.eventData = [] then .pure pending
    else ⟨[⟨pending.eventType, pending.eventData⟩], .ok {}⟩
  else if (line.dropPrefix? [':']).isSome then .pure pending
  else match line.dropPrefix? "event:".toList with
    | some value => .pure { pending with eventType := stripOptionalLeadingSpace value }
    | none => match line.dropPrefix? "data:".toList with
      | some value =>
          let fieldValue := stripOptionalLeadingSpace value
          let eventData :=
            if pending.eventData = [] then fieldValue else pending.eventData ++ '\n' :: fieldValue
          if eventData.exceeds maxEventSizeBytes then .fail ⟨"SSE event data", maxEventSizeBytes⟩
          else .pure { pending with eventData }
      | none => .pure pending

/-- One round of the inner loop, for a line that stands in front of its line feed. -/
def PendingEvent.readLine (pending : PendingEvent) (line : Text) : SseEmission PendingEvent :=
  if line.exceeds maxEventSizeBytes then .fail ⟨"SSE line", maxEventSizeBytes⟩
  else pending.readField maxEventSizeBytes (if line.getLast? = some '\r' then line.dropLast else line)

/-- The inner loop.  `line` is what it has passed in its search for the next line feed. -/
def PendingEvent.readLines (pending : PendingEvent) (line : Text) : Text → SseEmission SseParser
  | [] => .pure ⟨line, pending⟩
  | char :: rest =>
      if char = '\n' then
        (pending.readLine maxEventSizeBytes line).bind fun next => readLines next [] rest
      else readLines pending (line ++ [char]) rest

/-- The check of a line that has not ended yet. -/
def SseParser.checked (parser : SseParser) : SseEmission SseParser :=
  if parser.buffer.exceeds maxEventSizeBytes then .fail ⟨"SSE line", maxEventSizeBytes⟩
  else .pure parser

def SseParser.readChunk (parser : SseParser) (value : Text) : SseEmission SseParser :=
  (parser.pending.readLines maxEventSizeBytes [] (parser.buffer ++ value)).bind
    (SseParser.checked maxEventSizeBytes)

/-- The event still pending when the stream ends. -/
def PendingEvent.atEnd (pending : PendingEvent) : SseEmission Unit :=
  if pending.eventData = [] then .pure ()
  else ⟨[⟨pending.eventType, pending.eventData⟩], .ok ()⟩

/-- The events handed out, and how the generator ends.  `TextDecoderStream`
hands on no empty chunk. -/
def parseSseStream (chunks : List Text) : SseEmission Unit :=
  (Emission.feed (SseParser.readChunk maxEventSizeBytes) {} (chunks.filter (fun chunk => !chunk.isEmpty))).bind
    fun parser => parser.pending.atEnd

end Parse

end A2A
