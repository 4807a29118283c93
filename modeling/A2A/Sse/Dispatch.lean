import A2A.Sse.Base

namespace A2A

open Library

/-! Event streams, and what the event-stream standard has a reader dispatch for them.

Only the event type and the data are followed; a line is a field, a comment or
the blank line that ends a block.
-/

inductive LineEnd where
  | lineFeed
  | carriageReturn
deriving DecidableEq

/-- A finished line: its content, and whether a carriage return stands before its line feed. -/
structure StreamLine where
  content : Text
  ending : LineEnd
  unbroken : '\n' ∉ content ∧ '\r' ∉ content

/-- The line up to its line feed. -/
def StreamLine.body (line : StreamLine) : Text :=
  match line.ending with
  | .lineFeed => line.content
  | .carriageReturn => line.content ++ ['\r']

/-- A stream is a sequence of lines, and perhaps the beginning of one more. -/
structure EventStream where
  lines : List StreamLine
  tail : Text
  unbroken : '\n' ∉ tail ∧ '\r' ∉ tail

def linesText (lines : List StreamLine) (tail : Text) : Text :=
  lines.foldr (fun line rest => line.body ++ '\n' :: rest) tail

def EventStream.text (stream : EventStream) : Text := linesText stream.lines stream.tail

def EventStream.contents (stream : EventStream) : List Text := stream.lines.map StreamLine.content

/-- A field has no value where its line has no colon. -/
structure Field where
  name : Text
  value : Option Text
deriving DecidableEq

/-- The name is what stands before the first colon, the value what follows it but for one blank. -/
def fieldOf (line : Text) : Field where
  name := line.takeWhile (· ≠ ':')
  value :=
    match line.dropWhile (· ≠ ':') with
    | [] => none
    | _ :: value => some (stripOptionalLeadingSpace value)

/-- The data buffer and the event type buffer. -/
structure Buffers where
  eventType : Text := []
  data : Text := []
deriving DecidableEq

/-- The event that a blank line dispatches: the data without its last line feed. -/
def Buffers.dispatch (buffers : Buffers) : List SseEvent :=
  if buffers.data = [] then []
  else [⟨if buffers.eventType = [] then "message".toList else buffers.eventType, buffers.data.dropLast⟩]

def Buffers.process (buffers : Buffers) (field : Field) : Buffers :=
  if field.name = "event".toList then { buffers with eventType := field.value.getD [] }
  else if field.name = "data".toList then
    { buffers with data := buffers.data ++ field.value.getD [] ++ ['\n'] }
  else buffers

/-- Both buffers are reset at every blank line, and comments are passed over. -/
def Buffers.readLine (buffers : Buffers) (line : Text) : List SseEvent × Buffers :=
  if line = [] then (buffers.dispatch, {})
  else if line.head? = some ':' then ([], buffers)
  else ([], buffers.process (fieldOf line))

/-- What a reader dispatches, line by line, and what is in its buffers behind the last line. -/
def Buffers.readLines (buffers : Buffers) : List Text → List SseEvent × Buffers
  | [] => ([], buffers)
  | line :: rest =>
      let (events, next) := buffers.readLine line
      let (more, last) := next.readLines rest
      (events ++ more, last)

section Conditions

/-- What the lines of a block give the fields of a name. -/
def valuesOf (name : Text) (block : List Text) : List (Option Text) :=
  block.filterMap fun line => if (fieldOf line).name = name then some (fieldOf line).value else none

def dataOf (block : List Text) : List (Option Text) := valuesOf "data".toList block

def typesOf (block : List Text) : List (Option Text) := valuesOf "event".toList block

/-- The last type that an `event:` line gave, in this block or before it. -/
def typeInForce (carried : Text) (block : List Text) : Text :=
  (typesOf block).reduceOption.getLast?.getD carried

/-- The last field of the block that names a type gives one. -/
def NamesType (block : List Text) : Prop :=
  ∃ name, (typesOf block).getLast? = some (some name) ∧ name ≠ []

/-- The block's data lines, put together. -/
def joinedData (block : List Text) : Text :=
  ['\n'].intercalate ((dataOf block).map fun value => value.getD [])

/-- A block that both readers take alike: every data line has its colon and the first
has a value, and the type is named in the block or else nowhere since the last event. -/
structure RegularBlock (maxEventSizeBytes : SizeLimit) (carried : Text) (block : List Text) : Prop where
  marked : none ∉ dataOf block
  opened : (dataOf block).head? ≠ some (some [])
  typed : NamesType block ∨ typeInForce carried block = "message".toList
  fits : ¬ (joinedData block).exceeds maxEventSizeBytes

/-- The type in force behind a block's blank line. -/
def carriedBehind (carried : Text) (block : List Text) : Text :=
  if dataOf block = [] then typeInForce carried block else "message".toList

/-- Every block with data is regular; one that is still open need not be as long as no
line of it gives a value.  `block` holds the lines since the last blank one. -/
def RegularLines (maxEventSizeBytes : SizeLimit) : Text → List Text → List Text → Prop
  | carried, block, [] =>
      (∃ value ∈ dataOf block, value.getD [] ≠ []) → RegularBlock maxEventSizeBytes carried block
  | carried, block, line :: rest =>
      if line = [] then
        (dataOf block ≠ [] → RegularBlock maxEventSizeBytes carried block) ∧
          RegularLines maxEventSizeBytes (carriedBehind carried block) [] rest
      else RegularLines maxEventSizeBytes carried (block ++ [line]) rest

/-- No line is longer than the limit, the unfinished one included. -/
structure EventStream.LinesFit (maxEventSizeBytes : SizeLimit) (stream : EventStream) : Prop where
  finished : ∀ line ∈ stream.lines, ¬ line.body.exceeds maxEventSizeBytes
  unfinished : stream.tail ≠ [] → ¬ stream.tail.exceeds maxEventSizeBytes

end Conditions

/-- The parser hands out what the standard dispatches, and behind it nothing, or the
event of the block that the stream leaves open; it ends normally. -/
def FollowsStandard (maxEventSizeBytes : SizeLimit) (stream : EventStream) (chunks : List Text) : Prop :=
  ∃ final, parseSseStream maxEventSizeBytes chunks =
      ⟨(Buffers.readLines {} stream.contents).1 ++ final, .ok ()⟩ ∧
    (final = [] ∨ final = (Buffers.readLines {} stream.contents).2.dispatch)

end A2A
