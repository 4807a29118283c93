import A2A.Sse.Properties.Blocks

namespace A2A

open Library

/-! The parser beside the dispatch algorithm of the event-stream standard. -/

section Runs

variable {maxEventSizeBytes : SizeLimit}

/-- More lines keep more data. -/
theorem exceeds_snoc {block : List Text} (line : Text)
    (exceeds : (keptData (dataOf block)).exceeds maxEventSizeBytes) :
    (keptData (dataOf (block ++ [line]))).exceeds maxEventSizeBytes := by
  unfold dataOf at exceeds ⊢
  rw [valuesOf_snoc]
  split
  · cases (fieldOf line).value with
    | none => rwa [keptData_bare]
    | some value =>
        rw [keptData_snoc, appendValue]
        split
        · rename_i empty
          rw [empty] at exceeds
          exact exceeds.append value
        · exact exceeds.append _
  · rwa [List.append_nil]

theorem kept_snoc {block : List Text} (line : Text) (kept : keptData (dataOf block) ≠ []) :
    keptData (dataOf (block ++ [line])) ≠ [] := by
  intro empty
  rw [keptData_eq_nil] at empty
  refine kept (keptData_eq_nil.mpr fun value listed => empty value ?_)
  unfold dataOf at listed ⊢
  rw [valuesOf_snoc]
  exact List.mem_append_left _ listed

/-- Data that is too long already spoils the block that it is in. -/
theorem regularLines_fits {carried : Text} {block lines : List Text}
    (regular : RegularLines maxEventSizeBytes carried block lines) (kept : keptData (dataOf block) ≠ []) :
    ¬ (keptData (dataOf block)).exceeds maxEventSizeBytes := by
  have filled := dataOf_ne_nil kept
  induction lines generalizing block with
  | nil =>
      have valued : ∃ value ∈ dataOf block, value.getD [] ≠ [] := by
        by_contra none
        push Not at none
        exact kept (keptData_eq_nil.mpr none)
      exact (regular valued).keptFits filled
  | cons line rest ih =>
      rw [RegularLines] at regular
      split at regular
      · exact (regular.1 filled).keptFits filled
      · have longer := kept_snoc line kept
        intro exceeds
        exact ih regular longer (dataOf_ne_nil longer) (exceeds_snoc line exceeds)

/-- The unfinished line at the end of the stream. -/
theorem feed_tail {pending : PendingEvent} {tail : Text} (unbroken : '\n' ∉ tail) (seen : Text) :
    Emission.feed (SseParser.readChar maxEventSizeBytes) ⟨seen, pending⟩ tail =
      if tail ≠ [] ∧ Text.exceeds (seen ++ tail) maxEventSizeBytes then
        .fail ⟨"SSE line", maxEventSizeBytes⟩
      else .pure ⟨seen ++ tail, pending⟩ := by
  induction tail generalizing seen with
  | nil => simp [Emission.feed]
  | cons char rest ih =>
      rw [List.mem_cons, not_or] at unbroken
      have whole : seen ++ char :: rest = seen ++ [char] ++ rest := by simp
      rw [Emission.feed, SseParser.readChar, if_neg (Ne.symm unbroken.1), SseParser.checked, whole]
      by_cases begun : Text.exceeds (seen ++ [char]) maxEventSizeBytes
      · rw [if_pos begun, Emission.fail_bind, if_pos ⟨List.cons_ne_nil _ _, begun.append rest⟩]
      · rw [if_neg begun, Emission.pure_bind, ih unbroken.2]
        cases rest with
        | nil => rw [if_neg (by simp), if_neg (by simpa using begun)]
        | cons next more => simp only [ne_eq, List.cons_ne_nil, not_false_eq_true, true_and]

/-- What the parser does with the lines that are left, and behind them. -/
def readFrom (maxEventSizeBytes : SizeLimit) (tail : Text) :
    List StreamLine → PendingEvent → SseEmission Unit
  | [], pending =>
      if tail ≠ [] ∧ tail.exceeds maxEventSizeBytes then .fail ⟨"SSE line", maxEventSizeBytes⟩
      else pending.atEnd
  | line :: rest, pending =>
      (pending.readLine maxEventSizeBytes line.body).bind (readFrom maxEventSizeBytes tail rest)

theorem body_unbroken (line : StreamLine) : '\n' ∉ line.body := by
  obtain ⟨content, ending, unbroken⟩ := line
  cases ending with
  | lineFeed => exact unbroken.1
  | carriageReturn => simp [StreamLine.body, unbroken.1]

/-- The parser reads a stream line by line. -/
theorem parseSseStream_eq_readFrom {stream : EventStream} {chunks : List Text}
    (cut : chunks.flatten = stream.text) :
    parseSseStream maxEventSizeBytes chunks = readFrom maxEventSizeBytes stream.tail stream.lines {} := by
  rw [parseSseStream_eq_feed, cut, EventStream.text]
  have unbroken := stream.unbroken.1
  have read : ∀ (lines : List StreamLine) (pending : PendingEvent),
      (Emission.feed (SseParser.readChar maxEventSizeBytes) ⟨[], pending⟩ (linesText lines stream.tail)).bind
        (fun parser => parser.pending.atEnd) = readFrom maxEventSizeBytes stream.tail lines pending := by
    intro lines
    induction lines with
    | nil =>
        intro pending
        rw [linesText, List.foldr_nil, feed_tail unbroken, List.nil_append, readFrom]
        split
        · rfl
        · rw [Emission.pure_bind]
    | cons line rest ih =>
        intro pending
        have split : linesText (line :: rest) stream.tail =
            line.body ++ '\n' :: linesText rest stream.tail := rfl
        rw [split, feed_line (body_unbroken line), List.nil_append, Emission.bind_assoc, readFrom]
        exact Emission.bind_congr fun next _ => ih next
  exact read stream.lines {}

/-- All that one line can do. -/
theorem readLine_step {pending : PendingEvent} (line : StreamLine)
    (passed : pending.eventData ≠ [] → ¬ pending.eventData.exceeds maxEventSizeBytes) :
    pending.readLine maxEventSizeBytes line.body =
      if line.body.exceeds maxEventSizeBytes then .fail ⟨"SSE line", maxEventSizeBytes⟩
      else if line.content = [] then
        if pending.eventData = [] then .pure pending
        else ⟨[⟨pending.eventType, pending.eventData⟩], .ok {}⟩
      else if (pending.note line.content).eventData.exceeds maxEventSizeBytes then
        .fail ⟨"SSE event data", maxEventSizeBytes⟩
      else .pure (pending.note line.content) := by
  rw [readLine_body]
  split
  · rfl
  · rename_i short
    split
    · rename_i blank
      rw [blank]
      exact if_pos rfl
    · rename_i filled
      refine readField_note filled ?_
      by_cases kept : pending.eventData = []
      · intro exceeds
        rw [kept] at exceeds
        exact short (exceeds.append line.body)
      · exact passed kept

/-- The data of an event that the parser hands out: not empty, and no line feed in front. -/
def OpensWithValue (data : Text) : Prop := data ≠ [] ∧ data.head? ≠ some '\n'

theorem note_opens {pending : PendingEvent} (line : StreamLine)
    (opened : pending.eventData.head? ≠ some '\n') :
    (pending.note line.content).eventData.head? ≠ some '\n' := by
  unfold PendingEvent.note
  cases given : (fieldOf line.content).value with
  | none => exact opened
  | some value =>
      simp only
      split
      · exact opened
      · split
        · simp only [appendValue]
          split
          · intro front
            exact line.unbroken.1 (mem_fieldOf given (List.mem_of_mem_head? front))
          · rename_i filled
            rw [List.head?_append_of_ne_nil _ filled]
            exact opened
        · exact opened

theorem readFrom_opens {tail : Text} {lines : List StreamLine} {pending : PendingEvent}
    (passed : pending.eventData ≠ [] → ¬ pending.eventData.exceeds maxEventSizeBytes)
    (opened : pending.eventData.head? ≠ some '\n') :
    ∀ event ∈ (readFrom maxEventSizeBytes tail lines pending).emitted, OpensWithValue event.data := by
  induction lines generalizing pending with
  | nil =>
      intro event handed
      rw [readFrom] at handed
      split at handed
      · cases handed
      · unfold PendingEvent.atEnd at handed
        split at handed
        · cases handed
        · rename_i filled
          rw [List.mem_singleton.mp handed]
          exact ⟨filled, opened⟩
  | cons line rest ih =>
      rw [readFrom, readLine_step line passed]
      split
      · intro event handed
        cases handed
      · split
        · split
          · rw [Emission.pure_bind]
            exact ih passed opened
          · rename_i filled
            have behind := @ih {} (fun kept => absurd rfl kept) nofun
            intro event handed
            rcases List.mem_append.mp handed with first | later
            · rw [List.mem_singleton.mp first]
              exact ⟨filled, opened⟩
            · exact behind event later
        · split
          · intro event handed
            cases handed
          · rename_i fits
            rw [Emission.pure_bind]
            exact ih (fun _ => fits) (note_opens line opened)

end Runs

section Comparison

variable {maxEventSizeBytes : SizeLimit} {tail : Text} {carried : Text} {block : List Text}

/-- From here on the parser hands out what the standard dispatches, and perhaps the open block's event. -/
def FollowsFrom (maxEventSizeBytes : SizeLimit) (tail : Text) (lines : List StreamLine)
    (pending : PendingEvent) (buffers : Buffers) : Prop :=
  ∃ final, readFrom maxEventSizeBytes tail lines pending =
      ⟨(buffers.readLines (lines.map StreamLine.content)).1 ++ final, .ok ()⟩ ∧
    (final = [] ∨ final = (buffers.readLines (lines.map StreamLine.content)).2.dispatch)

/-- The lines that are left fit, and make the blocks that they end regular. -/
structure RegularFrom (maxEventSizeBytes : SizeLimit) (tail : Text) (lines : List StreamLine)
    (carried : Text) (block : List Text) : Prop where
  finished : ∀ line ∈ lines, ¬ line.body.exceeds maxEventSizeBytes
  unfinished : tail ≠ [] → ¬ tail.exceeds maxEventSizeBytes
  blocks : RegularLines maxEventSizeBytes carried block (lines.map StreamLine.content)

/-- At the end only the open block counts, if the parser has kept something of it. -/
theorem follows_end_iff
    (passed : keptData (dataOf block) ≠ [] → ¬ (keptData (dataOf block)).exceeds maxEventSizeBytes) :
    FollowsFrom maxEventSizeBytes tail [] (pendingOf carried block) (buffersOf block) ↔
      RegularFrom maxEventSizeBytes tail [] carried block := by
  have valued : (∃ value ∈ dataOf block, value.getD [] ≠ []) ↔ keptData (dataOf block) ≠ [] := by
    rw [ne_eq, keptData_eq_nil]
    push Not
    rfl
  by_cases long : tail ≠ [] ∧ tail.exceeds maxEventSizeBytes
  · have failed : readFrom maxEventSizeBytes tail [] (pendingOf carried block) =
        .fail ⟨"SSE line", maxEventSizeBytes⟩ := if_pos long
    constructor
    · rintro ⟨final, read, -⟩
      rw [failed] at read
      cases read
    · intro regular
      exact absurd long.2 (regular.unfinished long.1)
  · have ended : readFrom maxEventSizeBytes tail [] (pendingOf carried block) = (pendingOf carried block).atEnd :=
      if_neg long
    have short : tail ≠ [] → ¬ tail.exceeds maxEventSizeBytes := fun filled exceeds => long ⟨filled, exceeds⟩
    by_cases kept : keptData (dataOf block) = []
    · have silent : (pendingOf carried block).atEnd = .pure () := if_pos kept
      refine ⟨fun _ => ⟨nofun, short, fun given => absurd kept (valued.mp given)⟩, fun _ => ?_⟩
      exact ⟨[], by rw [ended, silent]; rfl, .inl rfl⟩
    · have handed : (pendingOf carried block).atEnd =
          ⟨[⟨(pendingOf carried block).eventType, (pendingOf carried block).eventData⟩], .ok ()⟩ := if_neg kept
      have same := @event_eq_iff maxEventSizeBytes carried block kept (passed kept)
      constructor
      · rintro ⟨final, read, given⟩
        rw [ended, handed, Emission.mk.injEq] at read
        have made : [⟨(pendingOf carried block).eventType, (pendingOf carried block).eventData⟩] = final := read.1
        rcases given with empty | event
        · rw [empty] at made
          cases made
        · exact ⟨nofun, short, fun _ => same.mp (made.trans event)⟩
      · intro regular
        have event := same.mpr (regular.blocks (valued.mpr kept))
        exact ⟨_, by rw [ended, handed]; rfl, .inr event⟩

section Step

variable {line : StreamLine} {rest : List StreamLine} {pending next : PendingEvent} {buffers after : Buffers}

theorem not_follows_fail {failure : SseSizeError}
    (read : pending.readLine maxEventSizeBytes line.body = .fail failure) :
    ¬ FollowsFrom maxEventSizeBytes tail (line :: rest) pending buffers := by
  rintro ⟨final, same, -⟩
  rw [readFrom, read, Emission.fail_bind] at same
  exact nomatch congrArg Emission.ended same

/-- A line in which neither reader hands out anything. -/
theorem follows_silent (read : pending.readLine maxEventSizeBytes line.body = .pure next)
    (dispatched : buffers.readLine line.content = ([], after)) :
    FollowsFrom maxEventSizeBytes tail (line :: rest) pending buffers ↔
      FollowsFrom maxEventSizeBytes tail rest next after := by
  simp only [FollowsFrom, readFrom, read, Emission.pure_bind, List.map_cons, Buffers.readLines, dispatched,
    List.nil_append]

/-- A line in which both do. -/
theorem follows_both {event standard : SseEvent}
    (read : pending.readLine maxEventSizeBytes line.body = ⟨[event], .ok next⟩)
    (dispatched : buffers.readLine line.content = ([standard], after)) :
    FollowsFrom maxEventSizeBytes tail (line :: rest) pending buffers ↔
      [event] = [standard] ∧ FollowsFrom maxEventSizeBytes tail rest next after := by
  simp only [FollowsFrom, readFrom, read, Emission.ok_bind, List.map_cons, Buffers.readLines, dispatched,
    Emission.mk.injEq, List.cons_append, List.nil_append, List.cons.injEq, and_true]
  constructor
  · rintro ⟨final, ⟨⟨first, others⟩, ended⟩, given⟩
    exact ⟨first, final, by rw [← others, ← ended], given⟩
  · rintro ⟨first, final, behind, given⟩
    exact ⟨final, ⟨⟨first, by rw [behind]⟩, by rw [behind]⟩, given⟩

/-- A line in which the standard alone does, an event that the parser never hands out. -/
theorem not_follows_missing {standard : SseEvent}
    (read : pending.readLine maxEventSizeBytes line.body = .pure next)
    (dispatched : buffers.readLine line.content = ([standard], after))
    (passed : next.eventData ≠ [] → ¬ next.eventData.exceeds maxEventSizeBytes)
    (opened : next.eventData.head? ≠ some '\n') (unseen : ¬ OpensWithValue standard.data) :
    ¬ FollowsFrom maxEventSizeBytes tail (line :: rest) pending buffers := by
  rintro ⟨final, same, -⟩
  rw [readFrom, read, Emission.pure_bind] at same
  refine unseen (@readFrom_opens _ tail rest _ passed opened standard ?_)
  simp [same, Buffers.readLines, dispatched]

end Step

/-- The standard's event for values that the parser keeps nothing of. -/
theorem emptyData_unseen (empty : keptData (dataOf block) = []) :
    ¬ OpensWithValue (bufferedData (dataOf block)).dropLast := by
  rintro ⟨filled, opened⟩
  rw [keptData_eq_nil] at empty
  cases values : dataOf block with
  | nil => exact filled (by rw [values]; rfl)
  | cons value more =>
      rw [values] at filled opened empty
      have blank : value.getD [] = [] := empty value List.mem_cons_self
      cases more with
      | nil => exact filled (by simp [bufferedData, blank])
      | cons other others =>
          have blankNext : other.getD [] = [] := empty other (List.mem_cons_of_mem _ List.mem_cons_self)
          exact opened (by simp [bufferedData, blank, blankNext])

theorem regular_blank_iff {line : StreamLine} {rest : List StreamLine} (blank : line.content = []) :
    RegularFrom maxEventSizeBytes tail (line :: rest) carried block ↔
      ¬ line.body.exceeds maxEventSizeBytes ∧
        (dataOf block ≠ [] → RegularBlock maxEventSizeBytes carried block) ∧
        RegularFrom maxEventSizeBytes tail rest (carriedBehind carried block) [] := by
  constructor
  · rintro ⟨finished, unfinished, blocks⟩
    rw [List.map_cons, RegularLines, if_pos blank] at blocks
    rw [List.forall_mem_cons] at finished
    exact ⟨finished.1, blocks.1, finished.2, unfinished, blocks.2⟩
  · rintro ⟨short, regular, finished, unfinished, blocks⟩
    refine ⟨List.forall_mem_cons.mpr ⟨short, finished⟩, unfinished, ?_⟩
    rw [List.map_cons, RegularLines, if_pos blank]
    exact ⟨regular, blocks⟩

theorem regular_line_iff {line : StreamLine} {rest : List StreamLine} (filled : line.content ≠ []) :
    RegularFrom maxEventSizeBytes tail (line :: rest) carried block ↔
      ¬ line.body.exceeds maxEventSizeBytes ∧
        RegularFrom maxEventSizeBytes tail rest carried (block ++ [line.content]) := by
  constructor
  · rintro ⟨finished, unfinished, blocks⟩
    rw [List.map_cons, RegularLines, if_neg filled] at blocks
    rw [List.forall_mem_cons] at finished
    exact ⟨finished.1, finished.2, unfinished, blocks⟩
  · rintro ⟨short, finished, unfinished, blocks⟩
    refine ⟨List.forall_mem_cons.mpr ⟨short, finished⟩, unfinished, ?_⟩
    rw [List.map_cons, RegularLines, if_neg filled]
    exact blocks

/-- The induction is on the lines that are left; behind a blank line both readers begin a block. -/
theorem follows_iff {lines : List StreamLine} {carried : Text} {block : List Text}
    (passed : keptData (dataOf block) ≠ [] → ¬ (keptData (dataOf block)).exceeds maxEventSizeBytes) :
    FollowsFrom maxEventSizeBytes tail lines (pendingOf carried block) (buffersOf block) ↔
      RegularFrom maxEventSizeBytes tail lines carried block := by
  induction lines generalizing carried block with
  | nil => exact follows_end_iff passed
  | cons line rest ih =>
      have step := @readLine_step maxEventSizeBytes (pendingOf carried block) line passed
      by_cases long : line.body.exceeds maxEventSizeBytes
      · rw [if_pos long] at step
        exact iff_of_false (not_follows_fail step) fun regular =>
          regular.finished line List.mem_cons_self long
      · rw [if_neg long] at step
        by_cases blank : line.content = []
        · have fresh : ∀ carried : Text, FollowsFrom maxEventSizeBytes tail rest ⟨carried, []⟩ {} ↔
              RegularFrom maxEventSizeBytes tail rest carried [] :=
            fun carried => @ih carried [] (fun kept => absurd rfl kept)
          have dispatched : (buffersOf block).readLine line.content = ((buffersOf block).dispatch, {}) :=
            if_pos blank
          rw [if_pos blank] at step
          rw [regular_blank_iff blank, and_iff_right long]
          by_cases kept : keptData (dataOf block) = []
          · have silent : (pendingOf carried block).readLine maxEventSizeBytes line.body =
                .pure ⟨typeInForce carried block, []⟩ := by
              rw [step, pendingOf_eventData, if_pos kept, pendingOf, kept]
            by_cases given : dataOf block = []
            · have nothing : (buffersOf block).dispatch = [] := by
                unfold buffersOf
                rw [given]
                rfl
              rw [follows_silent silent (nothing ▸ dispatched), fresh, carriedBehind, if_pos given,
                and_iff_right (absurd given)]
            · rw [dispatch_buffersOf given] at dispatched
              refine iff_of_false ?_ fun regular => (regular.1 given).kept given kept
              exact not_follows_missing silent dispatched (fun kept => absurd rfl kept) nofun
                (emptyData_unseen kept)
          · have given := dataOf_ne_nil kept
            have event := @event_eq_iff maxEventSizeBytes carried block kept (passed kept)
            rw [pendingOf_eventData, if_neg kept] at step
            rw [dispatch_buffersOf given] at dispatched event
            rw [pendingOf_eventData] at event
            rw [follows_both step dispatched, event, fresh, carriedBehind, if_neg given,
              imp_iff_right given]
        · rw [if_neg blank, note_pendingOf, pendingOf_eventData] at step
          rw [regular_line_iff blank, and_iff_right long]
          by_cases grown : (keptData (dataOf (block ++ [line.content]))).exceeds maxEventSizeBytes
          · rw [if_pos grown] at step
            have kept : keptData (dataOf (block ++ [line.content])) ≠ [] := by
              intro empty
              rw [empty] at grown
              exact long (grown.append line.body)
            exact iff_of_false (not_follows_fail step) fun regular =>
              regularLines_fits regular.blocks kept grown
          · rw [if_neg grown] at step
            rw [follows_silent step (readLine_buffersOf blank block), ih fun _ => grown]

end Comparison

/-- The parser follows the standard exactly on the streams that fit and whose blocks with
data are regular. -/
theorem parseSseStream_follows_iff (maxEventSizeBytes : SizeLimit) (stream : EventStream) {chunks : List Text}
    (cut : chunks.flatten = stream.text) :
    FollowsStandard maxEventSizeBytes stream chunks ↔
      stream.LinesFit maxEventSizeBytes ∧
        RegularLines maxEventSizeBytes "message".toList [] stream.contents := by
  have read := @parseSseStream_eq_readFrom maxEventSizeBytes stream chunks cut
  have same := @follows_iff maxEventSizeBytes stream.tail stream.lines "message".toList []
    (fun kept => absurd rfl kept)
  have follows : FollowsStandard maxEventSizeBytes stream chunks ↔
      FollowsFrom maxEventSizeBytes stream.tail stream.lines (pendingOf "message".toList [])
        (buffersOf []) := by
    rw [FollowsStandard, read]
    rfl
  rw [follows, same]
  exact ⟨fun regular => ⟨⟨regular.finished, regular.unfinished⟩, regular.blocks⟩,
    fun both => ⟨both.1.finished, both.1.unfinished, both.2⟩⟩

/-- A line that ends with a line feed. -/
def plainLine (content : Text) (unbroken : '\n' ∉ content ∧ '\r' ∉ content) : StreamLine :=
  ⟨content, .lineFeed, unbroken⟩

/-- One block with one data line. -/
def plainStream : EventStream where
  lines := [plainLine "data: a".toList (by decide), plainLine [] (by decide)]
  tail := []
  unbroken := by decide

theorem parseSseStream_follows_plain :
    ["data: a\n".toList, "\n".toList].flatten = plainStream.text ∧
      (FollowsStandard (.bytes 10) plainStream ["data: a\n".toList, "\n".toList] ↔
        plainStream.LinesFit (.bytes 10) ∧
          RegularLines (.bytes 10) "message".toList [] plainStream.contents) :=
  ⟨by decide, parseSseStream_follows_iff _ _ (by decide)⟩

/-- A block that names a type and has no data, and a block with data behind it. -/
def typedStream : EventStream where
  lines := [plainLine "event: error".toList (by decide), plainLine [] (by decide),
    plainLine "data: a".toList (by decide), plainLine [] (by decide)]
  tail := []
  unbroken := by decide

/-- The type of the empty block is handed out with the data of the next. -/
theorem parseSseStream_carries_type :
    ¬ FollowsStandard DEFAULT_MAX_SSE_EVENT_SIZE_BYTES typedStream [typedStream.text] := by
  rintro ⟨final, read, -⟩
  have handed : (parseSseStream DEFAULT_MAX_SSE_EVENT_SIZE_BYTES [typedStream.text]).emitted =
      [⟨"error".toList, "a".toList⟩] := by decide
  have standard : (Buffers.readLines {} typedStream.contents).1 = [⟨"message".toList, "a".toList⟩] := by decide
  rw [read, standard, List.singleton_append, List.cons.injEq, SseEvent.mk.injEq] at handed
  exact absurd handed.1.1 (by decide)

end A2A
