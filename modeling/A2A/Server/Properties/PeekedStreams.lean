import A2A.Server.Transports.Streams

namespace A2A.Server

open Library

/-! What a consumer sees of an iterator whose first value was peeked, and what the iterator sees
of the consumer.
-/

section Peeking

variable {α : Type u} {ε : Type v}

/-- What a consumer wants once it has these values; with none of them, whether it wants any. -/
abbrev Consumer (α : Type u) (ε : Type v) := List α → Verdict ε

def Consumer.take (consumer : Consumer α ε) (received : List α) (value : α) : List α × Verdict ε :=
  (received ++ [value], consumer (received ++ [value]))

/-- The first value is pulled; then it goes to the consumer, and the values of the generator behind it. -/
def peeked (iterator : AsyncIterator α ε) (consumer : Consumer α ε) (fuel : Nat) :
    Iteration Delegate (List α) ε :=
  match iterator.pull {} with
  | (use, .value value) =>
      match consumer [] with
      | .proceed => handleFirst iterator consumer.take fuel use (.value value) []
      | .leave => ⟨⟨use, .suspendedStart⟩, [], some (.stopped none)⟩
      | .raise error => ⟨⟨use, .suspendedStart⟩, [], some (.stopped (some error))⟩
  | (use, first) => handleFirst iterator consumer.take fuel use first []

/-- The values are the iterator's own, from the first one on, and the consumer wanted each of them. -/
structure OwnSequence (iterator : AsyncIterator α ε) (consumer : Consumer α ε) (received : List α) : Prop where
  values : ∀ position (listed : position < received.length), iterator.next position = .value received[position]
  wanted : ∀ position < received.length, consumer (received.take position) = .proceed

/-- How a run may stand after so many rounds, for the peeking not to be noticed. -/
structure RunsOwnCourse (iterator : AsyncIterator α ε) (consumer : Consumer α ε) (fuel : Nat)
    (run : Iteration Delegate (List α) ε) : Prop where
  own : OwnSequence iterator consumer run.loop
  pending : run.ending = none → fuel ≤ run.loop.length
  finished : run.ending = some .finished → iterator.next run.loop.length = .done
  failed : ∀ error, run.ending = some (.failed error) → iterator.next run.loop.length = .rejected error
  stopped : ∀ thrown, run.ending = some (.stopped thrown) →
    consumer run.loop ≠ .proceed ∧ (iterator.close.isSome = true → run.source.use.returns = 1)
  atMostOnce : run.source.use.returns ≤ 1
  neverRejected : 0 < run.source.use.returns →
    ∀ position < run.source.use.nexts, ∀ error, iterator.next position ≠ .rejected error

/-- At every moment of every run. -/
def PeekTransparent (iterator : AsyncIterator α ε) (consumer : Consumer α ε) : Prop :=
  ∀ fuel, RunsOwnCourse iterator consumer fuel (peeked iterator consumer fuel)

/-- The consumer of an iterator that can be closed does not stop at the value that was peeked. -/
def PassesFirst (iterator : AsyncIterator α ε) (consumer : Consumer α ε) : Prop :=
  iterator.close.isSome = true → ∀ first, iterator.next 0 = .value first →
    consumer [] = .proceed ∧ consumer [first] = .proceed

/-- `return()` does not reject an iterator that the consumer has drained. -/
def DrainsQuietly (iterator : AsyncIterator α ε) (consumer : Consumer α ε) : Prop :=
  ∀ refusal ∈ iterator.close, ∀ received, OwnSequence iterator consumer received →
    (received ≠ [] → consumer received = .proceed) → iterator.next received.length = .done →
    refusal (max (received.length + 1) 2) = none

variable {iterator : AsyncIterator α ε} {consumer : Consumer α ε}

theorem OwnSequence.nil : OwnSequence iterator consumer [] where
  values _ listed := absurd listed (Nat.not_lt_zero _)
  wanted _ listed := absurd listed (Nat.not_lt_zero _)

theorem OwnSequence.snoc {received : List α} {value : α} (own : OwnSequence iterator consumer received)
    (wants : consumer received = .proceed) (yields : iterator.next received.length = .value value) :
    OwnSequence iterator consumer (received ++ [value]) where
  values position listed := by
    rw [List.length_append, List.length_singleton] at listed
    rcases Nat.lt_succ_iff_lt_or_eq.mp listed with before | rfl
    · rw [List.getElem_append_left before]
      exact own.values position before
    · rw [List.getElem_concat_length rfl]
      exact yields
  wanted position listed := by
    rw [List.length_append, List.length_singleton] at listed
    rw [List.take_append_of_le_length (Nat.lt_succ_iff.mp listed)]
    rcases Nat.lt_succ_iff_lt_or_eq.mp listed with before | rfl
    · exact own.wanted position before
    · rwa [List.take_length]

/-- Of two such sequences the shorter one is the beginning of the other. -/
theorem OwnSequence.eq_take {received other : List α} (own : OwnSequence iterator consumer received)
    (ownOther : OwnSequence iterator consumer other) (shorter : received.length ≤ other.length) :
    received = other.take received.length := by
  refine List.ext_getElem (by rw [List.length_take, Nat.min_eq_left shorter]) fun position listed _ => ?_
  rw [List.getElem_take]
  have both := (own.values position listed).symm.trans (ownOther.values position (Nat.lt_of_lt_of_le listed shorter))
  exact Pulled.value.inj both

/-- Before the end of an own sequence nothing has been rejected. -/
theorem OwnSequence.unrejected {received : List α} (own : OwnSequence iterator consumer received)
    {nexts : Nat} (counted : nexts ≤ received.length ∨ iterator.next received.length = .done) :
    ∀ position < nexts, ∀ error, iterator.next position ≠ .rejected error := by
  intro position asked error rejects
  rcases Nat.lt_or_ge position received.length with listed | behind
  · exact nomatch (own.values position listed).symm.trans rejects
  · rcases counted with few | through
    · omega
    · exact nomatch (iterator.doneForGood through behind).symm.trans rejects

/-- The rest of a stream while it runs: it began behind a first value, or behind the end. -/
structure RestRunning (iterator : AsyncIterator α ε) (consumer : Consumer α ε) (rounds : Nat)
    (delegate : Delegate) (received : List α) : Prop where
  own : OwnSequence iterator consumer received
  live : delegate.phase ≠ .completed
  unclosed : delegate.use.returns = 0
  counted : (received.length = rounds + 1 ∧ delegate.use.nexts = received.length ∧ consumer received = .proceed) ∨
    (received = [] ∧ rounds = 0 ∧ delegate.use.nexts = 1 ∧ iterator.next 0 = .done)

/-- What every ending says about the iterator, and about the value of `return()`. -/
structure RestEnded (iterator : AsyncIterator α ε) (consumer : Consumer α ε) (delegate : Delegate)
    (received : List α) (ending : Ending ε) : Prop where
  own : OwnSequence iterator consumer received
  atMostOnce : delegate.use.returns ≤ 1
  neverRejected : 0 < delegate.use.returns →
    ∀ position < delegate.use.nexts, ∀ error, iterator.next position ≠ .rejected error
  finished : ending = .finished → iterator.next received.length = .done ∧
    ∀ refusal ∈ iterator.close, refusal (max (received.length + 1) 2) = none
  failed : ∀ error, ending = .failed error → iterator.next received.length = .rejected error ∨
    iterator.next received.length = .done ∧ (received ≠ [] → consumer received = .proceed) ∧
      ∃ refusal ∈ iterator.close, refusal (max (received.length + 1) 2) = some error
  stopped : ∀ thrown, ending = .stopped thrown → consumer received ≠ .proceed ∧
    (∃ first, iterator.next 0 = .value first) ∧
    (iterator.close.isSome = true → 1 < received.length → delegate.use.returns = 1)

namespace RestRunning

variable {rounds : Nat} {delegate : Delegate} {received : List α}

theorem asks (running : RestRunning iterator consumer rounds delegate received) :
    iterator.next delegate.use.nexts = iterator.next received.length := by
  rcases running.counted with ⟨-, count, -⟩ | ⟨rfl, -, count, through⟩
  · rw [count]
  · rw [count, List.length_nil, through]
    exact iterator.doneForGood through (Nat.zero_le 1)

theorem count (running : RestRunning iterator consumer rounds delegate received) :
    delegate.use.nexts + 1 = max (received.length + 1) 2 := by
  rcases running.counted with ⟨length, count, -⟩ | ⟨rfl, -, count, -⟩
  · omega
  · rw [count]
    rfl

theorem wants (running : RestRunning iterator consumer rounds delegate received) (filled : received ≠ []) :
    consumer received = .proceed := by
  rcases running.counted with ⟨-, -, going⟩ | ⟨empty, -⟩
  · exact going
  · exact absurd empty filled

theorem enough (running : RestRunning iterator consumer rounds delegate received) :
    rounds ≤ received.length := by
  rcases running.counted with ⟨length, -⟩ | ⟨rfl, rounds, -⟩ <;> omega

theorem ends_done (running : RestRunning iterator consumer rounds delegate received)
    (through : iterator.next delegate.use.nexts = .done) :
    ((delegateAsyncIterator iterator).round consumer.take delegate received).Within
      (RestRunning iterator consumer (rounds + 1)) (RestEnded iterator consumer) := by
  have atEnd := running.asks.symm.trans through
  have unrejected : ∀ position < delegate.use.nexts + 1, ∀ error, iterator.next position ≠ .rejected error :=
    running.own.unrejected (.inr atEnd)
  rw [delegate_round_done received running.live through]
  dsimp only [Iteration.Within]
  cases close : iterator.close with
  | none =>
      rw [AsyncIterator.shut, close]
      exact {
        own := running.own
        atMostOnce := by simp [running.unclosed]
        neverRejected := fun _ => unrejected
        finished := fun _ => ⟨atEnd, by simp [close]⟩
        failed := fun _ ending => nomatch ending
        stopped := fun _ ending => nomatch ending }
  | some refusal =>
      rw [AsyncIterator.shut, close]
      dsimp only
      rw [running.count]
      cases refused : refusal (max (received.length + 1) 2) with
      | none =>
          exact {
            own := running.own
            atMostOnce := by simp [running.unclosed]
            neverRejected := fun _ => running.count ▸ unrejected
            finished := fun _ => ⟨atEnd, by simp [close, refused]⟩
            failed := fun _ ending => nomatch ending
            stopped := fun _ ending => nomatch ending }
      | some error =>
          exact {
            own := running.own
            atMostOnce := by simp [running.unclosed]
            neverRejected := fun _ => running.count ▸ unrejected
            finished := fun ending => nomatch ending
            failed := fun _ ending => .inr ⟨atEnd, running.wants, refusal, close, by cases ending; exact refused⟩
            stopped := fun _ ending => nomatch ending }

theorem ends_stopped (running : RestRunning iterator consumer rounds delegate received) {value : α}
    (yields : iterator.next delegate.use.nexts = .value value) (thrown : Option ε)
    (stops : consumer (received ++ [value]) ≠ .proceed) :
    RestEnded iterator consumer
      ⟨(iterator.shut { delegate.use with nexts := delegate.use.nexts + 1 }).1, .completed⟩
      (received ++ [value]) (.stopped thrown) := by
  have next := running.asks.symm.trans yields
  rcases running.counted with ⟨length, count, going⟩ | ⟨rfl, -, -, through⟩
  · have own := running.own.snoc going next
    have unrejected : ∀ position < delegate.use.nexts + 1, ∀ error, iterator.next position ≠ .rejected error :=
      own.unrejected (.inl (by simp [count]))
    have first := own.values 0 (by simp)
    exact {
      own
      atMostOnce := by
        rw [AsyncIterator.shut]
        split <;> simp [running.unclosed]
      neverRejected := fun _ => by
        rw [AsyncIterator.shut]
        split <;> exact unrejected
      finished := fun ending => nomatch ending
      failed := fun _ ending => nomatch ending
      stopped := fun _ _ => ⟨stops, ⟨_, first⟩, fun closable _ => by
        rw [iterator.shut_returns _ closable, running.unclosed]⟩ }
  · exact nomatch next.symm.trans through

/-- One round behind the first value. -/
theorem keeps (running : RestRunning iterator consumer rounds delegate received) :
    ((delegateAsyncIterator iterator).round consumer.take delegate received).Within
      (RestRunning iterator consumer (rounds + 1)) (RestEnded iterator consumer) := by
  cases pulled : iterator.next delegate.use.nexts with
  | done => exact running.ends_done pulled
  | rejected error =>
      have atEnd := running.asks.symm.trans pulled
      rw [delegate_round_rejected received running.live pulled]
      exact {
        own := running.own
        atMostOnce := by simp [running.unclosed]
        neverRejected := fun closed => absurd closed (by simp [running.unclosed])
        finished := fun ending => nomatch ending
        failed := fun _ ending => .inl (by cases ending; exact atEnd)
        stopped := fun _ ending => nomatch ending }
  | value value =>
      have next := running.asks.symm.trans pulled
      rw [delegate_round_value received running.live pulled, Consumer.take]
      cases verdict : consumer (received ++ [value]) with
      | proceed =>
          rcases running.counted with ⟨length, count, going⟩ | ⟨rfl, -, -, through⟩
          · exact {
              own := running.own.snoc going next
              live := by simp
              unclosed := running.unclosed
              counted := .inl ⟨by simp [length], by simp [count], verdict⟩ }
          · exact nomatch next.symm.trans through
      | leave => exact running.ends_stopped pulled _ (by simp [verdict])
      | raise error => exact running.ends_stopped pulled _ (by simp [verdict])

end RestRunning

/-- What is left when the consumer stops before the generator has started. -/
theorem RestEnded.unstarted {received : List α} {first : α} (own : OwnSequence iterator consumer received)
    (peeked : iterator.next 0 = .value first) (short : received.length ≤ 1)
    (stops : consumer received ≠ .proceed) (thrown : Option ε) :
    RestEnded iterator consumer ⟨⟨1, 0⟩, .suspendedStart⟩ received (.stopped thrown) where
  own
  atMostOnce := Nat.zero_le 1
  neverRejected closed := absurd closed (Nat.lt_irrefl 0)
  finished ending := nomatch ending
  failed _ ending := nomatch ending
  stopped _ _ := ⟨stops, ⟨first, peeked⟩, fun _ long => absurd long (Nat.not_lt.mpr short)⟩

theorem peeked_within (iterator : AsyncIterator α ε) (consumer : Consumer α ε) (fuel : Nat) :
    (peeked iterator consumer fuel).Within (RestRunning iterator consumer fuel) (RestEnded iterator consumer) := by
  have rest {received : List α} (running : RestRunning iterator consumer 0 ⟨⟨1, 0⟩, .suspendedStart⟩ received) :=
    Iterable.forAwait_rule RestRunning.keeps fuel running
  rw [Nat.zero_add] at rest
  unfold peeked AsyncIterator.pull
  cases pulled : iterator.next 0 with
  | done =>
      exact rest ⟨.nil, by simp, rfl, .inr ⟨rfl, rfl, rfl, pulled⟩⟩
  | rejected error =>
      exact {
        own := .nil
        atMostOnce := Nat.zero_le 1
        neverRejected := fun closed => absurd closed (Nat.lt_irrefl 0)
        finished := fun ending => nomatch ending
        failed := fun _ ending => .inl (by cases ending; exact pulled)
        stopped := fun _ ending => nomatch ending }
  | value first =>
      dsimp only
      cases opening : consumer [] with
      | leave => exact .unstarted .nil pulled (Nat.zero_le 1) (by simp [opening]) none
      | raise error => exact .unstarted .nil pulled (Nat.zero_le 1) (by simp [opening]) (some error)
      | proceed =>
          have own := OwnSequence.nil.snoc opening pulled
          unfold handleFirst Consumer.take
          dsimp only [List.nil_append] at own ⊢
          cases verdict : consumer [first] with
          | leave => exact .unstarted own pulled (Nat.le_refl 1) (by simp [verdict]) none
          | raise error => exact .unstarted own pulled (Nat.le_refl 1) (by simp [verdict]) (some error)
          | proceed => exact rest ⟨own, by simp, rfl, .inl ⟨rfl, rfl, verdict⟩⟩

/-- The run of a quiet iterator past its first value. -/
theorem RestEnded.runsOwnCourse {delegate : Delegate} {received : List α} {ending : Ending ε} {fuel : Nat}
    (ended : RestEnded iterator consumer delegate received ending) (passes : PassesFirst iterator consumer)
    (drains : DrainsQuietly iterator consumer) :
    RunsOwnCourse iterator consumer fuel ⟨delegate, received, some ending⟩ where
  own := ended.own
  pending running := nomatch running
  finished same := (ended.finished (Option.some.inj same)).1
  failed error same := by
    rcases ended.failed error (Option.some.inj same) with rejected | ⟨through, wants, refusal, close, refuses⟩
    · exact rejected
    · exact nomatch refuses.symm.trans (drains refusal close received ended.own wants through)
  stopped thrown same := by
    obtain ⟨stops, ⟨first, peeked⟩, closed⟩ := ended.stopped thrown (Option.some.inj same)
    refine ⟨stops, fun closable => closed closable ?_⟩
    obtain ⟨wantsAny, wantsFirst⟩ := passes closable first peeked
    cases received with
    | nil => exact absurd wantsAny stops
    | cons value rest =>
        cases rest with
        | nil =>
            cases peeked.symm.trans (ended.own.values 0 (Nat.zero_lt_one))
            exact absurd wantsFirst stops
        | cons next rest => exact Nat.succ_lt_succ (Nat.succ_pos _)
  atMostOnce := ended.atMostOnce
  neverRejected := ended.neverRejected

/-- A consumer that stops before the generator has started leaves the iterator open. -/
theorem peeked_stopped {first : α} (pulled : iterator.next 0 = .value first)
    (stops : ¬ (consumer [] = .proceed ∧ consumer [first] = .proceed)) (fuel : Nat) :
    ∃ received thrown,
      peeked iterator consumer fuel = ⟨⟨⟨1, 0⟩, .suspendedStart⟩, received, some (.stopped thrown)⟩ := by
  unfold peeked AsyncIterator.pull
  rw [pulled]
  dsimp only
  cases opening : consumer [] with
  | leave => exact ⟨_, _, rfl⟩
  | raise error => exact ⟨_, _, rfl⟩
  | proceed =>
      unfold handleFirst Consumer.take
      dsimp only [List.nil_append]
      cases verdict : consumer [first] with
      | proceed => exact absurd ⟨opening, verdict⟩ stops
      | leave => exact ⟨_, _, rfl⟩
      | raise error => exact ⟨_, _, rfl⟩

theorem PeekTransparent.passesFirst (transparent : PeekTransparent iterator consumer) :
    PassesFirst iterator consumer := by
  intro closable first pulled
  by_contra stops
  obtain ⟨received, thrown, stopped⟩ := peeked_stopped pulled stops 0
  have course := transparent 0
  rw [stopped] at course
  exact absurd ((course.stopped thrown rfl).2 closable) Nat.zero_ne_one

theorem PeekTransparent.drainsQuietly (transparent : PeekTransparent iterator consumer) :
    DrainsQuietly iterator consumer := by
  intro refusal close received own wants through
  have course := transparent (received.length + 1)
  have within := peeked_within iterator consumer (received.length + 1)
  generalize peeked iterator consumer (received.length + 1) = run at course within
  -- the run has received nothing that is not in the sequence
  have shorter : run.loop.length ≤ received.length := by
    refine Nat.le_of_not_lt fun longer => ?_
    exact nomatch (course.own.values received.length longer).symm.trans through
  have prefixed := course.own.eq_take own shorter
  -- and stands at its end, unless it has been stopped before
  have reached (notValue : ∀ value, iterator.next run.loop.length ≠ .value value) : run.loop = received := by
    rcases Nat.lt_or_eq_of_le shorter with before | same
    · exact absurd (own.values _ before) (notValue _)
    · rw [prefixed, same, List.take_length]
  cases ending : run.ending with
  | none =>
      have enough := course.pending ending
      omega
  | some ended =>
      unfold Iteration.Within at within
      rw [ending] at within
      cases ended with
      | finished =>
          have same := reached (by simp [course.finished ending])
          have quiet := (within.finished rfl).2 refusal close
          rwa [same] at quiet
      | failed error =>
          have rejects := course.failed error ending
          have same := reached (by simp [rejects])
          rw [same] at rejects
          exact nomatch rejects.symm.trans through
      | stopped thrown =>
          obtain ⟨stops, ⟨first, peeked⟩, -⟩ := within.stopped thrown rfl
          rcases Nat.lt_or_eq_of_le shorter with before | same
          · rw [prefixed] at stops
            exact absurd (own.wanted _ before) stops
          · rw [prefixed, same, List.take_length] at stops
            by_cases empty : received = []
            · rw [empty, List.length_nil] at through
              exact nomatch peeked.symm.trans through
            · exact absurd (wants empty) stops

/-- The peeking goes unnoticed exactly with a consumer that does not stop at the peeked value, on an
iterator whose `return()` does not reject at the end. -/
theorem peekTransparent_iff (iterator : AsyncIterator α ε) (consumer : Consumer α ε) :
    PeekTransparent iterator consumer ↔ PassesFirst iterator consumer ∧ DrainsQuietly iterator consumer := by
  constructor
  · intro transparent
    exact ⟨transparent.passesFirst, transparent.drainsQuietly⟩
  · rintro ⟨passes, drains⟩ fuel
    have within := peeked_within iterator consumer fuel
    generalize peeked iterator consumer fuel = run at within
    obtain ⟨delegate, received, ending⟩ := run
    cases ending with
    | some ending => exact RestEnded.runsOwnCourse within passes drains
    | none =>
        have running : RestRunning iterator consumer fuel delegate received := within
        exact {
          own := running.own
          pending := fun _ => running.enough
          finished := fun ending => nomatch ending
          failed := fun _ ending => nomatch ending
          stopped := fun _ ending => nomatch ending
          atMostOnce := by simp [running.unclosed]
          neverRejected := fun closed => absurd closed (by simp [running.unclosed]) }

def naturals : AsyncIterator Nat Empty where
  next position := .value position
  close := some (fun _ => none)
  doneForGood through := nomatch through

/-- A generator that has not been started passes no `return()` on. -/
theorem stoppedAtFirst_unclosed :
    ¬ PeekTransparent naturals (fun received => if received = [] then .proceed else .leave) := by
  intro transparent
  have wantsFirst := (transparent.passesFirst rfl 0 rfl).2
  exact absurd wantsFirst (by decide)

end Peeking

end A2A.Server
