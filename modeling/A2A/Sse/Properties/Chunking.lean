import A2A.Sse.Base

namespace A2A

open Library

/-! The parser's answer depends on the text alone, not on where it was cut into chunks. -/

section Sizes

variable {maxEventSizeBytes : SizeLimit} {text : Text}

theorem Text.codeUnits_append (text more : Text) :
    Text.codeUnits (text ++ more) = text.codeUnits + more.codeUnits := by
  simp only [codeUnits, List.map_append, List.sum_append]

/-- A text that is too long is too long within another. -/
theorem Text.exceeds.within {longer : Text} (exceeds : text.exceeds maxEventSizeBytes)
    (grown : text.codeUnits ≤ longer.codeUnits) : longer.exceeds maxEventSizeBytes := by
  cases maxEventSizeBytes with
  | infinity => exact exceeds
  | bytes limit =>
      have passed : limit < (text.codeUnits : Int) := exceeds
      change limit < (longer.codeUnits : Int)
      omega

theorem Text.exceeds.append (exceeds : text.exceeds maxEventSizeBytes) (more : Text) :
    Text.exceeds (text ++ more) maxEventSizeBytes :=
  exceeds.within (by rw [codeUnits_append]; omega)

end Sizes

section Chunks

variable {maxEventSizeBytes : SizeLimit}

/-- What one character does, with the check that a chunk's end would make. -/
def SseParser.readChar (maxEventSizeBytes : SizeLimit) (parser : SseParser) (char : Char) :
    SseEmission SseParser :=
  if char = '\n' then
    (parser.pending.readLine maxEventSizeBytes parser.buffer).bind fun pending => .pure ⟨[], pending⟩
  else SseParser.checked maxEventSizeBytes { parser with buffer := parser.buffer ++ [char] }

/-- Nothing before the first line feed ends a line. -/
theorem readLines_skip {pending : PendingEvent} {line buffer : Text} (unbroken : '\n' ∉ buffer)
    (rest : Text) :
    pending.readLines maxEventSizeBytes line (buffer ++ rest) =
      pending.readLines maxEventSizeBytes (line ++ buffer) rest := by
  induction buffer generalizing line with
  | nil => simp
  | cons char more ih =>
      rw [List.mem_cons, not_or] at unbroken
      rw [List.cons_append, PendingEvent.readLines, if_neg (Ne.symm unbroken.1), ih unbroken.2,
        List.append_assoc, List.singleton_append]

theorem readLine_exceeds {pending : PendingEvent} {line : Text}
    (exceeds : line.exceeds maxEventSizeBytes) :
    pending.readLine maxEventSizeBytes line = .fail ⟨"SSE line", maxEventSizeBytes⟩ :=
  if_pos exceeds

/-- A line that is too long already fails, with its line feed in the chunk or without. -/
theorem readLines_exceeds {pending : PendingEvent} {line : Text}
    (exceeds : line.exceeds maxEventSizeBytes) (rest : Text) :
    (pending.readLines maxEventSizeBytes line rest).bind (SseParser.checked maxEventSizeBytes) =
      .fail ⟨"SSE line", maxEventSizeBytes⟩ := by
  induction rest generalizing line with
  | nil => simp only [PendingEvent.readLines, Emission.pure_bind, SseParser.checked, if_pos exceeds]
  | cons char rest ih =>
      rw [PendingEvent.readLines]
      split
      · simp only [readLine_exceeds exceeds, Emission.fail_bind]
      · exact ih (exceeds.append [char])

/-- As long as the line at hand fits, a chunk is read as its characters are. -/
theorem readLines_fits {pending : PendingEvent} {line : Text}
    (fits : ¬ line.exceeds maxEventSizeBytes) (rest : Text) :
    (pending.readLines maxEventSizeBytes line rest).bind (SseParser.checked maxEventSizeBytes) =
      Emission.feed (SseParser.readChar maxEventSizeBytes) ⟨line, pending⟩ rest := by
  induction rest generalizing line pending with
  | nil =>
      simp only [PendingEvent.readLines, Emission.pure_bind, SseParser.checked, if_neg fits,
        Emission.feed]
  | cons char rest ih =>
      rw [PendingEvent.readLines, Emission.feed, SseParser.readChar]
      split
      · have empty : ¬ Text.exceeds [] maxEventSizeBytes := fun exceeds => fits (exceeds.append line)
        simp only [Emission.bind_assoc, Emission.pure_bind]
        exact Emission.bind_congr (fun next _ => ih empty)
      · by_cases exceeds : Text.exceeds (line ++ [char]) maxEventSizeBytes
        · rw [readLines_exceeds exceeds, SseParser.checked, if_pos exceeds, Emission.fail_bind]
        · rw [ih exceeds, SseParser.checked, if_neg exceeds, Emission.pure_bind]

/-- The parser waits inside a line. -/
def SseParser.Unbroken (parser : SseParser) : Prop := '\n' ∉ parser.buffer

theorem readChar_unbroken {parser next : SseParser} {char : Char} (unbroken : parser.Unbroken)
    (ended : (parser.readChar maxEventSizeBytes char).ended = .ok next) : next.Unbroken := by
  unfold SseParser.readChar at ended
  split at ended
  · obtain ⟨pending, -, reached⟩ := Emission.bind_ended ended
    cases reached
    exact List.not_mem_nil
  · rename_i other
    unfold SseParser.checked at ended
    split at ended
    · cases ended
    · cases ended
      simpa [SseParser.Unbroken, eq_comm] using And.intro unbroken (Ne.symm other)

theorem readChunk_eq_feed {parser : SseParser} {value : Text} (unbroken : parser.Unbroken)
    (filled : value ≠ []) :
    parser.readChunk maxEventSizeBytes value =
      Emission.feed (SseParser.readChar maxEventSizeBytes) parser value := by
  rw [SseParser.readChunk, readLines_skip unbroken, List.nil_append]
  by_cases exceeds : parser.buffer.exceeds maxEventSizeBytes
  · cases value with
    | nil => exact absurd rfl filled
    | cons char rest =>
        rw [readLines_exceeds exceeds, Emission.feed, SseParser.readChar]
        split
        · rw [readLine_exceeds exceeds, Emission.fail_bind, Emission.fail_bind]
        · rw [SseParser.checked, if_pos (exceeds.append [char]), Emission.fail_bind]
  · exact readLines_fits exceeds value

/-- The parser reads the text behind the chunks, character after character. -/
theorem parseSseStream_eq_feed (chunks : List Text) :
    parseSseStream maxEventSizeBytes chunks =
      (Emission.feed (SseParser.readChar maxEventSizeBytes) {} chunks.flatten).bind
        fun parser => parser.pending.atEnd := by
  have joined : (chunks.filter (fun chunk => !chunk.isEmpty)).flatten = chunks.flatten :=
    List.flatten_filter_not_isEmpty
  rw [parseSseStream, ← joined]
  have read : Emission.feed (SseParser.readChunk maxEventSizeBytes) {}
        (chunks.filter (fun chunk => !chunk.isEmpty)) =
      Emission.feed (SseParser.readChar maxEventSizeBytes) {}
        (chunks.filter (fun chunk => !chunk.isEmpty)).flatten := by
    refine Emission.feed_flatten (fun parser value => readChunk_eq_feed) readChar_unbroken
      List.not_mem_nil (fun chunk member => ?_)
    simpa using (List.mem_filter.mp member).2
  rw [read]

/-- A line is read at its line feed; one that is too long fails there or before. -/
theorem feed_line {pending : PendingEvent} {seen line : Text} (unbroken : '\n' ∉ line) (rest : Text) :
    Emission.feed (SseParser.readChar maxEventSizeBytes) ⟨seen, pending⟩ (line ++ '\n' :: rest) =
      (pending.readLine maxEventSizeBytes (seen ++ line)).bind fun next =>
        Emission.feed (SseParser.readChar maxEventSizeBytes) ⟨[], next⟩ rest := by
  induction line generalizing seen with
  | nil =>
      simp only [List.nil_append, Emission.feed, SseParser.readChar, if_true, List.append_nil,
        Emission.bind_assoc, Emission.pure_bind]
  | cons char more ih =>
      rw [List.mem_cons, not_or] at unbroken
      have whole : seen ++ char :: more = seen ++ [char] ++ more := by simp
      rw [whole, List.cons_append, Emission.feed, SseParser.readChar, if_neg (Ne.symm unbroken.1),
        SseParser.checked]
      by_cases begun : Text.exceeds (seen ++ [char]) maxEventSizeBytes
      · rw [if_pos begun, readLine_exceeds (begun.append more), Emission.fail_bind, Emission.fail_bind]
      · rw [if_neg begun, Emission.pure_bind, ih unbroken.2]

end Chunks

/-- Two ways of cutting one text into chunks give the same events, and then the
same end: a normal one in both, or the same size error in both. -/
theorem parseSseStream_chunking (maxEventSizeBytes : SizeLimit) {chunks others : List Text}
    (same : chunks.flatten = others.flatten) :
    parseSseStream maxEventSizeBytes chunks = parseSseStream maxEventSizeBytes others := by
  rw [parseSseStream_eq_feed, parseSseStream_eq_feed, same]

/-- A carriage return apart from its line feed, and a limit that the second event passes. -/
theorem parseSseStream_chunking_crlf :
    ["data: a\r".toList, "\n\r\nda".toList, [], "ta: longer".toList].flatten =
        ["data: a\r\n\r\ndata: ".toList, "longer".toList].flatten ∧
      parseSseStream (.bytes 10) ["data: a\r".toList, "\n\r\nda".toList, [], "ta: longer".toList] =
        parseSseStream (.bytes 10) ["data: a\r\n\r\ndata: ".toList, "longer".toList] :=
  ⟨by decide, parseSseStream_chunking _ (by decide)⟩

example : parseSseStream (.bytes 10) ["data: a\r".toList, "\n\r\nda".toList, [], "ta: longer".toList] =
    ⟨[⟨"message".toList, "a".toList⟩], .error ⟨"SSE line", (.bytes 10)⟩⟩ := by
  rfl

end A2A
