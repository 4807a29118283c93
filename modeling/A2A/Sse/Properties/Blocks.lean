import A2A.Sse.Dispatch
import A2A.Sse.Properties.Chunking
import Mathlib.Data.List.Induction
import Mathlib.Data.List.ReduceOption

namespace A2A

open Library

/-! What a line and a block of lines leave with the parser, and with a reader that follows the
event-stream standard. -/

section Fields

variable {name line value : Text}

theorem fieldOf_colon (clear : ':' ∉ name) (value : Text) :
    fieldOf (name ++ ':' :: value) = ⟨name, some (stripOptionalLeadingSpace value)⟩ := by
  have before : ∀ char ∈ name, decide (char ≠ ':') = true := by
    intro char member
    exact decide_eq_true fun same => clear (same ▸ member)
  have dropped : (name ++ ':' :: value).dropWhile (· ≠ ':') = ':' :: value := by
    rw [List.dropWhile_append_of_pos before, List.dropWhile_cons_of_neg (by simp)]
  rw [fieldOf, dropped, List.takeWhile_append_of_pos before, List.takeWhile_cons_of_neg (by simp),
    List.append_nil]

/-- A field that has a value has its colon. -/
theorem fieldOf_marked (marked : fieldOf line = ⟨name, some value⟩) :
    ∃ rest, line = name ++ ':' :: rest ∧ value = stripOptionalLeadingSpace rest := by
  have split := List.takeWhile_append_dropWhile (p := (· ≠ ':')) (l := line)
  unfold fieldOf at marked
  rw [Field.mk.injEq] at marked
  obtain ⟨names, values⟩ := marked
  cases dropped : line.dropWhile (· ≠ ':') with
  | nil =>
      rw [dropped] at values
      cases values
  | cons char rest =>
      rw [dropped] at values split
      have stopped := List.head?_dropWhile_not (· ≠ ':') line
      rw [dropped] at stopped
      have colon : char = ':' := by simpa using stopped
      refine ⟨rest, ?_, (Option.some.inj values).symm⟩
      rw [← split, names, colon]

theorem dropPrefix?_field :
    line.dropPrefix? (name ++ [':']) = some value ↔ line = name ++ ':' :: value := by
  rw [List.dropPrefix?_eq_some_iff]
  constructor
  · rintro ⟨begun, whole, same⟩
    rw [whole, eq_of_beq same, List.append_assoc, List.singleton_append]
  · intro whole
    exact ⟨_, by rw [whole, List.append_assoc, List.singleton_append], beq_self_eq_true _⟩

theorem fieldOf_comment (comment : line.head? = some ':') : (fieldOf line).name = [] := by
  cases line with
  | nil => cases comment
  | cons char rest =>
      cases comment
      simp [fieldOf]

theorem mem_stripOptionalLeadingSpace {char : Char} (member : char ∈ stripOptionalLeadingSpace value) :
    char ∈ value := by
  unfold stripOptionalLeadingSpace at member
  cases dropped : value.dropPrefix? [' '] with
  | none => rwa [dropped] at member
  | some rest =>
      rw [dropped] at member
      obtain ⟨begun, whole, -⟩ := List.dropPrefix?_eq_some_iff.mp dropped
      rw [whole]
      exact List.mem_append_right _ member

/-- A value is made of its line's characters. -/
theorem mem_fieldOf {char : Char} (given : (fieldOf line).value = some value) (member : char ∈ value) :
    char ∈ line := by
  obtain ⟨rest, whole, stripped⟩ := @fieldOf_marked (fieldOf line).name line value (by rw [← given])
  rw [whole]
  refine List.mem_append_right _ (List.mem_cons_of_mem _ (mem_stripOptionalLeadingSpace ?_))
  rwa [← stripped]

end Fields

section Lines

variable {maxEventSizeBytes : SizeLimit}

/-- A data value behind what the event holds already. -/
def appendValue (eventData value : Text) : Text :=
  if eventData = [] then value else eventData ++ '\n' :: value

/-- What a line that is not blank leaves pending. -/
def PendingEvent.note (pending : PendingEvent) (line : Text) : PendingEvent :=
  match (fieldOf line).value with
  | none => pending
  | some value =>
      if (fieldOf line).name = "event".toList then { pending with eventType := value }
      else if (fieldOf line).name = "data".toList then
        { pending with eventData := appendValue pending.eventData value }
      else pending

theorem note_comment (pending : PendingEvent) {line : Text} (comment : line.head? = some ':') :
    pending.note line = pending := by
  unfold PendingEvent.note
  rw [fieldOf_comment comment]
  split <;> rfl

/-- A line that gives no type and no data leaves no note. -/
theorem note_other (pending : PendingEvent) {line : Text}
    (noType : line.dropPrefix? "event:".toList = none) (noData : line.dropPrefix? "data:".toList = none) :
    pending.note line = pending := by
  have spelled : ∀ (name value : Text), line.dropPrefix? (name ++ [':']) = none →
      (fieldOf line).value = some value → (fieldOf line).name ≠ name := by
    intro name value absent given named
    obtain ⟨rest, whole, -⟩ := @fieldOf_marked name line value (by rw [← given, ← named])
    rw [dropPrefix?_field.mpr whole] at absent
    cases absent
  unfold PendingEvent.note
  cases given : (fieldOf line).value with
  | none => rfl
  | some value =>
      have notEvent := spelled "event".toList value noType given
      have notData := spelled "data".toList value noData given
      simp only [if_neg notEvent, if_neg notData]

/-- A line that is not blank is noted, unless the data grows too long. -/
theorem readField_note {pending : PendingEvent} {line : Text} (filled : line ≠ [])
    (fits : ¬ pending.eventData.exceeds maxEventSizeBytes) :
    pending.readField maxEventSizeBytes line =
      if (pending.note line).eventData.exceeds maxEventSizeBytes then
        .fail ⟨"SSE event data", maxEventSizeBytes⟩
      else .pure (pending.note line) := by
  have eventClear : ':' ∉ "event".toList := by decide
  have dataClear : ':' ∉ "data".toList := by decide
  unfold PendingEvent.readField
  rw [if_neg filled]
  split
  · rename_i comment
    obtain ⟨rest, found⟩ := Option.isSome_iff_exists.mp comment
    have opened : line = ':' :: rest := (@dropPrefix?_field [] line rest).mp found
    rw [note_comment pending (by rw [opened]; rfl), if_neg fits]
  · split
    · rename_i value found
      have field := fieldOf_colon eventClear value
      rw [← (@dropPrefix?_field "event".toList line value).mp found] at field
      have noted : pending.note line = { pending with eventType := stripOptionalLeadingSpace value } := by
        unfold PendingEvent.note
        rw [field]
        rfl
      rw [noted, if_neg fits]
    · rename_i noType
      split
      · rename_i value found
        have field := fieldOf_colon dataClear value
        rw [← (@dropPrefix?_field "data".toList line value).mp found] at field
        have noted : pending.note line =
            { pending with eventData := appendValue pending.eventData (stripOptionalLeadingSpace value) } := by
          unfold PendingEvent.note
          rw [field]
          rfl
        rw [noted]
        rfl
      · rename_i noData
        rw [note_other pending noType noData, if_neg fits]

/-- The parser takes a line's carriage return away, after it has checked its size. -/
theorem readLine_body (pending : PendingEvent) (line : StreamLine) :
    pending.readLine maxEventSizeBytes line.body =
      if line.body.exceeds maxEventSizeBytes then .fail ⟨"SSE line", maxEventSizeBytes⟩
      else pending.readField maxEventSizeBytes line.content := by
  have content : (if line.body.getLast? = some '\r' then line.body.dropLast else line.body) =
      line.content := by
    obtain ⟨content, ending, unbroken⟩ := line
    cases ending with
    | lineFeed =>
        have apart : content.getLast? ≠ some '\r' := fun last => unbroken.2 (List.mem_of_getLast? last)
        exact if_neg apart
    | carriageReturn => simp [StreamLine.body]
  rw [PendingEvent.readLine, content]

end Lines

section Data

variable {values : List (Option Text)} {value : Option Text}

/-- The data that the parser keeps of a block's values. -/
def keptData (values : List (Option Text)) : Text := values.reduceOption.foldl appendValue []

/-- The data buffer that the standard has for them. -/
def bufferedData (values : List (Option Text)) : Text := values.flatMap fun value => value.getD [] ++ ['\n']

theorem keptData_snoc (values : List (Option Text)) (value : Text) :
    keptData (values ++ [some value]) = appendValue (keptData values) value := by
  simp [keptData, List.reduceOption_append]

theorem keptData_bare (values : List (Option Text)) : keptData (values ++ [none]) = keptData values := by
  simp [keptData, List.reduceOption_append]

theorem bufferedData_snoc (values : List (Option Text)) (value : Option Text) :
    bufferedData (values ++ [value]) = bufferedData values ++ value.getD [] ++ ['\n'] := by
  simp [bufferedData]

theorem appendValue_eq_nil {eventData value : Text} :
    appendValue eventData value = [] ↔ eventData = [] ∧ value = [] := by
  unfold appendValue
  split
  · rename_i empty
    simp [empty]
  · rename_i filled
    simp [filled]

/-- The parser keeps nothing of values that are all empty, and something of any other. -/
theorem keptData_eq_nil : keptData values = [] ↔ ∀ value ∈ values, value.getD [] = [] := by
  induction values using List.reverseRecOn with
  | nil => exact ⟨fun _ _ absent => absurd absent List.not_mem_nil, fun _ => rfl⟩
  | append_singleton values value ih =>
      rw [List.forall_mem_append, List.forall_mem_singleton]
      cases value with
      | none =>
          rw [keptData_bare, ih]
          exact ⟨fun each => ⟨each, rfl⟩, fun both => both.1⟩
      | some value => rw [keptData_snoc, appendValue_eq_nil, ih, Option.getD_some]

/-- Every value adds at least as much to the buffer as to what is kept, and a line feed. -/
theorem length_keptData (filled : values ≠ []) :
    (keptData values).length + 1 ≤ (bufferedData values).length := by
  induction values using List.reverseRecOn with
  | nil => exact absurd rfl filled
  | append_singleton values value ih =>
      have before : (keptData values).length ≤ (bufferedData values).length := by
        cases values with
        | nil => exact Nat.le_refl _
        | cons first rest =>
            have longer := ih (List.cons_ne_nil _ _)
            omega
      rw [bufferedData_snoc]
      cases value with
      | none =>
          rw [keptData_bare]
          simp only [List.length_append, Option.getD_none, List.length_nil, List.length_singleton]
          omega
      | some value =>
          rw [keptData_snoc, appendValue]
          split
          · simp only [List.length_append, Option.getD_some, List.length_singleton]
            omega
          · rename_i kept
            have nonempty : values ≠ [] := by
              intro empty
              exact kept (by rw [empty]; rfl)
            have longer := ih nonempty
            simp only [List.length_append, Option.getD_some, List.length_cons]
            omega

/-- Values that all have their colon, behind a first one that is not empty, are kept as they are. -/
theorem bufferedData_eq (filled : values ≠ []) (marked : none ∉ values)
    (opened : values.head? ≠ some (some [])) :
    keptData values ≠ [] ∧ bufferedData values = keptData values ++ ['\n'] := by
  induction values using List.reverseRecOn with
  | nil => exact absurd rfl filled
  | append_singleton values value ih =>
      rw [List.mem_append, not_or] at marked
      cases value with
      | none => exact absurd List.mem_cons_self marked.2
      | some value =>
          rw [keptData_snoc, bufferedData_snoc, Option.getD_some]
          cases values with
          | nil =>
              have named : value ≠ [] := fun empty => opened (by rw [empty]; rfl)
              exact ⟨named, rfl⟩
          | cons first rest =>
              obtain ⟨kept, same⟩ := ih (List.cons_ne_nil _ _) marked.1 opened
              have joined : appendValue (keptData (first :: rest)) value =
                  keptData (first :: rest) ++ '\n' :: value := if_neg kept
              rw [joined, same]
              exact ⟨by simp, by simp⟩

/-- What is lost once is missing for good: a bare line, or an empty one in front. -/
theorem length_bufferedData (kept : keptData values ≠ [])
    (lost : none ∈ values ∨ values.head? = some (some [])) :
    (keptData values).length + 2 ≤ (bufferedData values).length := by
  induction values using List.reverseRecOn with
  | nil => exact absurd rfl kept
  | append_singleton values value ih =>
      rw [bufferedData_snoc]
      cases value with
      | none =>
          rw [keptData_bare] at kept ⊢
          have nonempty : values ≠ [] := by
            intro empty
            exact kept (by rw [empty]; rfl)
          have longer := length_keptData nonempty
          simp only [List.length_append, Option.getD_none, List.length_nil, List.length_singleton]
          omega
      | some value =>
          rw [keptData_snoc] at kept ⊢
          have lostBefore : none ∈ values ∨ values.head? = some (some []) ∨ values = [] ∧ value = [] := by
            rcases lost with bare | front
            · rcases List.mem_append.mp bare with before | last
              · exact .inl before
              · cases List.mem_singleton.mp last
            · cases values with
              | nil => exact .inr (.inr ⟨rfl, by simpa using front⟩)
              | cons first rest => exact .inr (.inl front)
          unfold appendValue at kept ⊢
          split
          · rename_i empty
            rw [if_pos empty] at kept
            have nonempty : values ≠ [] := by
              rintro rfl
              rcases lostBefore with bare | front | ⟨-, blank⟩
              · exact List.not_mem_nil bare
              · cases front
              · exact kept blank
            have longer := length_keptData nonempty
            simp only [List.length_append, Option.getD_some, List.length_singleton]
            omega
          · rename_i filled
            have earlier : none ∈ values ∨ values.head? = some (some []) := by
              rcases lostBefore with bare | front | ⟨empty, -⟩
              · exact .inl bare
              · exact .inr front
              · exact absurd (by rw [empty]; rfl) filled
            have longer := ih filled earlier
            simp only [List.length_append, Option.getD_some, List.length_cons]
            omega

/-- The two readers hold the same data exactly when no line is lost. -/
theorem keptData_eq_iff (kept : keptData values ≠ []) :
    keptData values = (bufferedData values).dropLast ↔
      none ∉ values ∧ values.head? ≠ some (some []) := by
  have filled : values ≠ [] := by
    intro empty
    exact kept (by rw [empty]; rfl)
  constructor
  · intro same
    by_contra lost
    rw [not_and_or, not_not, not_not] at lost
    have longer := length_bufferedData kept lost
    have lengths := congrArg List.length same
    rw [List.length_dropLast] at lengths
    omega
  · rintro ⟨marked, opened⟩
    rw [(bufferedData_eq filled marked opened).2, List.dropLast_concat]

end Data


section Blocks

variable {maxEventSizeBytes : SizeLimit}

/-- What the parser has pending behind the lines of a block. -/
def pendingOf (carried : Text) (block : List Text) : PendingEvent :=
  ⟨typeInForce carried block, keptData (dataOf block)⟩

@[simp] theorem pendingOf_eventData (carried : Text) (block : List Text) :
    (pendingOf carried block).eventData = keptData (dataOf block) := rfl

/-- What the standard has in its buffers there. -/
def buffersOf (block : List Text) : Buffers :=
  ⟨(typesOf block).getLast?.join.getD [], bufferedData (dataOf block)⟩

theorem valuesOf_snoc (name : Text) (block : List Text) (line : Text) :
    valuesOf name (block ++ [line]) =
      valuesOf name block ++ if (fieldOf line).name = name then [(fieldOf line).value] else [] := by
  unfold valuesOf
  rw [List.filterMap_append]
  split
  · rename_i named
    simp [named]
  · rename_i other
    simp [other]

theorem event_ne_data : "event".toList ≠ "data".toList := by decide

theorem note_pendingOf (carried : Text) (block : List Text) (line : Text) :
    (pendingOf carried block).note line = pendingOf carried (block ++ [line]) := by
  unfold PendingEvent.note pendingOf typeInForce dataOf typesOf
  rw [valuesOf_snoc, valuesOf_snoc]
  by_cases typed : (fieldOf line).name = "event".toList
  · rw [if_pos typed, if_neg (typed ▸ event_ne_data), List.append_nil]
    cases (fieldOf line).value with
    | none => simp [List.reduceOption_append]
    | some value => simp [List.reduceOption_append, typed]
  · by_cases given : (fieldOf line).name = "data".toList
    · rw [if_neg typed, if_pos given, List.append_nil]
      cases (fieldOf line).value with
      | none => rw [keptData_bare]
      | some value => simp only [if_neg typed, if_pos given, keptData_snoc]
    · rw [if_neg typed, if_neg given, List.append_nil, List.append_nil]
      cases (fieldOf line).value with
      | none => rfl
      | some value => simp only [if_neg typed, if_neg given]

theorem readLine_buffersOf {line : Text} (filled : line ≠ []) (block : List Text) :
    (buffersOf block).readLine line = ([], buffersOf (block ++ [line])) := by
  have processed : (buffersOf block).process (fieldOf line) = buffersOf (block ++ [line]) := by
    unfold Buffers.process buffersOf dataOf typesOf
    rw [valuesOf_snoc, valuesOf_snoc]
    by_cases typed : (fieldOf line).name = "event".toList
    · rw [if_pos typed, if_pos typed, if_neg (typed ▸ event_ne_data), List.append_nil]
      simp
    · by_cases given : (fieldOf line).name = "data".toList
      · rw [if_neg typed, if_pos given, if_neg typed, if_pos given, List.append_nil, bufferedData_snoc]
      · rw [if_neg typed, if_neg given, if_neg typed, if_neg given, List.append_nil, List.append_nil]
  unfold Buffers.readLine
  rw [if_neg filled, ← processed]
  split
  · rename_i comment
    have unnamed : (buffersOf block).process (fieldOf line) = buffersOf block := by
      unfold Buffers.process
      rw [fieldOf_comment comment]
      rfl
    rw [unnamed]
  · rfl

/-- The type in force is the standard's exactly when the block names its own or none is in force. -/
theorem typeInForce_eq_iff (carried : Text) (block : List Text) :
    (typeInForce carried block =
        if (buffersOf block).eventType = [] then "message".toList else (buffersOf block).eventType) ↔
      NamesType block ∨ typeInForce carried block = "message".toList := by
  by_cases named : NamesType block
  · obtain ⟨name, last, filled⟩ := named
    obtain ⟨before, split⟩ := List.getLast?_eq_some_iff.mp last
    have forced : typeInForce carried block = name := by
      unfold typeInForce
      rw [split]
      simp [List.reduceOption_append]
    have buffered : (buffersOf block).eventType = name := by
      unfold buffersOf
      rw [last]
      rfl
    rw [buffered, if_neg filled, forced]
    exact ⟨fun _ => .inl ⟨name, last, filled⟩, fun _ => rfl⟩
  · have unnamed : (buffersOf block).eventType = [] := by
      unfold buffersOf
      cases last : (typesOf block).getLast? with
      | none => rfl
      | some value =>
          cases value with
          | none => rfl
          | some name =>
              by_contra filled
              exact named ⟨name, last, filled⟩
    rw [if_pos unnamed, or_iff_right named]

theorem dataOf_ne_nil {block : List Text} (kept : keptData (dataOf block) ≠ []) : dataOf block ≠ [] := by
  intro empty
  exact kept (by rw [empty]; rfl)

theorem bufferedData_ne_nil {values : List (Option Text)} (filled : values ≠ []) : bufferedData values ≠ [] := by
  intro empty
  have longer := length_keptData filled
  rw [empty, List.length_nil] at longer
  omega

/-- The buffer is the joined data with one line feed more. -/
theorem joinedData_eq {block : List Text} (filled : dataOf block ≠ []) :
    bufferedData (dataOf block) = joinedData block ++ ['\n'] := by
  unfold joinedData
  generalize dataOf block = values at filled
  induction values with
  | nil => exact absurd rfl filled
  | cons value rest ih =>
      cases rest with
      | nil => simp [bufferedData]
      | cons next more =>
          have behind := ih (List.cons_ne_nil _ _)
          rw [List.map_cons] at behind
          rw [List.map_cons, List.map_cons, List.intercalate_cons_cons, List.append_assoc, ← behind]
          simp [bufferedData]

theorem dispatch_buffersOf {block : List Text} (filled : dataOf block ≠ []) :
    (buffersOf block).dispatch =
      [⟨if (buffersOf block).eventType = [] then "message".toList else (buffersOf block).eventType,
        (bufferedData (dataOf block)).dropLast⟩] :=
  if_neg (bufferedData_ne_nil filled)

/-- Where the parser hands out an event, it is the standard's exactly for a regular block. -/
theorem event_eq_iff {carried : Text} {block : List Text} (kept : (pendingOf carried block).eventData ≠ [])
    (fits : ¬ (pendingOf carried block).eventData.exceeds maxEventSizeBytes) :
    [⟨(pendingOf carried block).eventType, (pendingOf carried block).eventData⟩] =
        (buffersOf block).dispatch ↔
      RegularBlock maxEventSizeBytes carried block := by
  have filled := dataOf_ne_nil kept
  have sameData := @keptData_eq_iff (dataOf block) kept
  have sameType := typeInForce_eq_iff carried block
  rw [dispatch_buffersOf filled, List.singleton_inj, SseEvent.mk.injEq]
  constructor
  · rintro ⟨types, data⟩
    obtain ⟨marked, opened⟩ := sameData.mp data
    refine ⟨marked, opened, sameType.mp types, ?_⟩
    have joined : keptData (dataOf block) = joinedData block := by
      rw [joinedData_eq filled, List.dropLast_concat] at data
      exact data
    rw [← joined]
    exact fits
  · intro regular
    exact ⟨sameType.mpr regular.typed, sameData.mpr ⟨regular.marked, regular.opened⟩⟩

/-- A regular block keeps something, if it has data at all. -/
theorem RegularBlock.kept {carried : Text} {block : List Text}
    (regular : RegularBlock maxEventSizeBytes carried block) (filled : dataOf block ≠ []) :
    keptData (dataOf block) ≠ [] :=
  (bufferedData_eq filled regular.marked regular.opened).1

/-- What a regular block keeps is its joined data, so that it stays within the limit. -/
theorem RegularBlock.keptFits {carried : Text} {block : List Text}
    (regular : RegularBlock maxEventSizeBytes carried block) (filled : dataOf block ≠ []) :
    ¬ (keptData (dataOf block)).exceeds maxEventSizeBytes := by
  have same := (bufferedData_eq filled regular.marked regular.opened).2
  rw [joinedData_eq filled, List.append_cancel_right_eq] at same
  rw [← same]
  exact regular.fits

end Blocks

end A2A
