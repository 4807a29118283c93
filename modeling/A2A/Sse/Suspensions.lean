import A2A.Sse.Base

namespace A2A

open Library

/-! Where the generator of `parseSseStream` is suspended, and what its variables hold then.

It waits for the next chunk of the stream, or it has handed out an event and waits to be
asked for another one.  In between it reads whole lines.
-/

inductive SseSuspension where
  | reading (parser : SseParser)
  /-- The chunk is the one that the event was completed in; at the end of the stream there is none. -/
  | yielding (chunk : Text) (parser : SseParser) (event : SseEvent)
deriving DecidableEq

namespace SseSuspension

/-- What the consumer gets to see of a suspension. -/
def event? : SseSuspension → Option SseEvent
  | .reading _ => none
  | .yielding _ _ event => some event

theorem event?_yielding (chunk : Text) (parser : SseParser) (event : SseEvent) :
    (yielding chunk parser event).event? = some event := rfl

end SseSuspension

abbrev SseRun (σ : Type) := Emission SseSuspension SseSizeError σ

section Run

variable (maxEventSizeBytes : SizeLimit)

/-- The inner loop within a chunk.  An event is handed out before the variables are reset,
and behind the line that completed it is taken off the buffer. -/
def PendingEvent.scanLines (chunk : Text) (pending : PendingEvent) (line : Text) : Text → SseRun SseParser
  | [] => .pure ⟨line, pending⟩
  | char :: rest =>
      if char = '\n' then
        ((pending.readLine maxEventSizeBytes line).mapEmitted (.yielding chunk ⟨rest, pending⟩)).bind
          fun next => scanLines chunk next [] rest
      else scanLines chunk pending (line ++ [char]) rest

def SseParser.scanChunk (parser : SseParser) (chunk : Text) : SseRun SseParser :=
  (parser.pending.scanLines maxEventSizeBytes chunk [] (parser.buffer ++ chunk)).bind fun scanned =>
    (scanned.checked maxEventSizeBytes).mapEmitted (.yielding chunk scanned)

/-- The outer loop, from one read to the next. -/
def SseParser.run (parser : SseParser) : List Text → SseRun Unit
  | [] => Emission.emit (.reading parser) (parser.pending.atEnd.mapEmitted (.yielding [] parser))
  | chunk :: rest =>
      Emission.emit (.reading parser) ((parser.scanChunk maxEventSizeBytes chunk).bind fun next => next.run rest)

/-- The suspensions of the generator in their order, and how it ends. -/
def suspensions (chunks : List Text) : SseRun Unit :=
  SseParser.run maxEventSizeBytes {} (chunks.filter (fun chunk => !chunk.isEmpty))

end Run

/-! ### The generator as its consumer sees it -/

section Seen

variable {maxEventSizeBytes : SizeLimit}

theorem scanLines_seen (chunk : Text) (pending : PendingEvent) (line rest : Text) :
    (pending.scanLines maxEventSizeBytes chunk line rest).filterEmitted SseSuspension.event? =
      pending.readLines maxEventSizeBytes line rest := by
  induction rest generalizing pending line with
  | nil => rfl
  | cons char rest ih =>
      rw [PendingEvent.scanLines, PendingEvent.readLines]
      split
      · rw [Emission.filterEmitted_bind, Emission.filterEmitted_mapEmitted (SseSuspension.event?_yielding _ _)]
        exact Emission.bind_congr fun next _ => ih next []
      · exact ih pending (line ++ [char])

theorem scanChunk_seen (parser : SseParser) (chunk : Text) :
    (parser.scanChunk maxEventSizeBytes chunk).filterEmitted SseSuspension.event? =
      parser.readChunk maxEventSizeBytes chunk := by
  rw [SseParser.scanChunk, SseParser.readChunk, Emission.filterEmitted_bind, scanLines_seen]
  exact Emission.bind_congr fun scanned _ =>
    Emission.filterEmitted_mapEmitted (SseSuspension.event?_yielding chunk scanned) _

theorem run_seen (parser : SseParser) (chunks : List Text) :
    (parser.run maxEventSizeBytes chunks).filterEmitted SseSuspension.event? =
      (Emission.feed (SseParser.readChunk maxEventSizeBytes) parser chunks).bind
        fun last => last.pending.atEnd := by
  induction chunks generalizing parser with
  | nil =>
      rw [SseParser.run, Emission.filterEmitted_emit_none rfl,
        Emission.filterEmitted_mapEmitted (SseSuspension.event?_yielding _ _), Emission.feed, Emission.pure_bind]
  | cons chunk rest ih =>
      rw [SseParser.run, Emission.filterEmitted_emit_none rfl, Emission.filterEmitted_bind, scanChunk_seen,
        Emission.feed, Emission.bind_assoc]
      exact Emission.bind_congr fun next _ => ih next

/-- The events among the suspensions are the ones the generator hands out, and it ends as it does. -/
theorem suspensions_seen (maxEventSizeBytes : SizeLimit) (chunks : List Text) :
    (suspensions maxEventSizeBytes chunks).filterEmitted SseSuspension.event? =
      parseSseStream maxEventSizeBytes chunks :=
  run_seen _ _

end Seen

end A2A
