import Mathlib.Data.List.Basic
import Mathlib.Logic.Relation

namespace A2A.Library

/-! A reader that handles what it receives in order, up to the first item that stops it. -/

section

variable {α : Type u} (stop : α → Bool)

/-- The items up to and including the first that stops. -/
def takeThrough : List α → List α
  | [] => []
  | item :: rest => if stop item then [item] else item :: takeThrough rest

attribute [local simp] takeThrough

variable {stop} {item : α} {items more : List α}

theorem takeThrough_of_none (none : items.any stop = false) : takeThrough stop items = items := by
  induction items with
  | nil => rfl
  | cons item rest ih =>
      simp only [List.any_cons, Bool.or_eq_false_iff] at none
      simp [takeThrough, none.1, ih none.2]

theorem takeThrough_append_of_none (none : items.any stop = false) (more : List α) :
    takeThrough stop (items ++ more) = items ++ takeThrough stop more := by
  induction items with
  | nil => rfl
  | cons item rest ih =>
      simp only [List.any_cons, Bool.or_eq_false_iff] at none
      simp [takeThrough, none.1, ih none.2]

theorem takeThrough_append_of_any (stops : items.any stop = true) (more : List α) :
    takeThrough stop (items ++ more) = takeThrough stop items := by
  induction items with
  | nil => simp at stops
  | cons item rest ih =>
      simp only [List.cons_append, takeThrough]
      split
      · rfl
      · rename_i goesOn
        simp only [List.any_cons, goesOn, Bool.false_or] at stops
        rw [ih stops]

theorem takeThrough_sublist (items : List α) : (takeThrough stop items).Sublist items := by
  induction items with
  | nil => exact .slnil
  | cons item rest ih =>
      simp only [takeThrough]
      split
      · exact (List.nil_sublist rest).cons_cons item
      · exact ih.cons_cons item

theorem takeThrough_initial (items : List α) : takeThrough stop items <+: items := by
  induction items with
  | nil => exact List.prefix_rfl
  | cons item rest ih =>
      simp only [takeThrough]
      split
      · exact ⟨rest, rfl⟩
      · exact (List.cons_prefix_cons).mpr ⟨rfl, ih⟩

theorem takeThrough_append_initial (items more : List α) :
    takeThrough stop items <+: takeThrough stop (items ++ more) := by
  cases stops : items.any stop with
  | true => exact ⟨[], by rw [List.append_nil, takeThrough_append_of_any stops]⟩
  | false =>
      rw [takeThrough_append_of_none stops, takeThrough_of_none stops]
      exact List.prefix_append _ _

theorem takeThrough_map {β : Type v} (tag : β → α) (items : List β) :
    takeThrough stop (items.map tag) = (takeThrough (fun item => stop (tag item)) items).map tag := by
  induction items with
  | nil => rfl
  | cons item rest ih =>
      simp only [List.map_cons, takeThrough, ih]
      split <;> rfl

end

structure Inbox (α : Type u) where
  received : List α
  handled : List α
  /-- What the reader still has to handle; nothing when it has not started or has stopped. -/
  waiting : Option (List α)
  listening : Bool

namespace Inbox

section

variable {α : Type u} (stop : α → Bool)

/-- The waiting items that the reader will get to. -/
def upcoming (inbox : Inbox α) : List α := takeThrough stop (inbox.waiting.getD [])

/-- One more item would be handled. -/
def Open (inbox : Inbox α) : Prop :=
  inbox.listening = true ∧ ∃ items, inbox.waiting = some items ∧ items.any stop = false

def receive (inbox : Inbox α) (item : α) : Inbox α :=
  { inbox with received := inbox.received ++ [item], waiting := inbox.waiting.map (· ++ [item]) }

inductive Step : Inbox α → Inbox α → Prop
  | quiet {inbox listening} : (listening = true → inbox.listening = true) →
      Step inbox { inbox with listening }
  | attach {inbox} : inbox.received = [] → inbox.handled = [] → inbox.waiting = none →
      Step inbox { inbox with waiting := some [], listening := true }
  | receive {inbox} (item : α) : inbox.listening = true → Step inbox (inbox.receive item)
  | handle {inbox item rest listening} : inbox.waiting = some (item :: rest) →
      (listening = true → inbox.listening = true) →
      Step inbox { inbox with
        handled := inbox.handled ++ [item]
        waiting := if stop item then none else some rest
        listening }
  | finish {inbox} : inbox.waiting = some [] → inbox.listening = false →
      Step inbox { inbox with waiting := none, listening := false }

/-- Nothing received is skipped, and nothing is handled after a stop. -/
structure Delivered (inbox : Inbox α) : Prop where
  reading : ∀ items, inbox.waiting = some items →
    inbox.received = inbox.handled ++ items ∧ inbox.handled.any stop = false
  stopped : inbox.waiting = none → inbox.handled = takeThrough stop inbox.received ∧
    (inbox.listening = true → inbox.received.any stop = true)

/-- What remains of `Delivered` when the reader may give up: what has been handled is what was
received first, and a reader that goes on has skipped nothing. -/
structure Ordered (inbox : Inbox α) : Prop where
  reading : ∀ items, inbox.waiting = some items →
    inbox.received = inbox.handled ++ items ∧ inbox.handled.any stop = false
  initial : inbox.handled <+: takeThrough stop inbox.received

/-- What arrives now is handled in its turn, unless something before it stops the reader. -/
def Hears (inbox : Inbox α) : Prop :=
  (inbox.listening = true ∧ inbox.waiting.isSome = true) ∨ inbox.received.any stop = true

variable {stop} {inbox next : Inbox α} {item : α} {items rest : List α}

theorem Delivered.step (delivered : inbox.Delivered stop) (stepped : Step stop inbox next) :
    next.Delivered stop := by
  cases stepped with
  | quiet mutes =>
      exact ⟨delivered.reading, fun none => ⟨(delivered.stopped none).1,
        fun listens => (delivered.stopped none).2 (mutes listens)⟩⟩
  | attach received handled =>
      refine ⟨?_, nofun⟩
      rintro items ⟨⟩
      exact ⟨by rw [received, handled]; rfl, by rw [handled]; rfl⟩
  | receive item listens =>
      refine ⟨?_, ?_⟩
      · intro items queued
        obtain ⟨before, waits, rfl⟩ := Option.map_eq_some_iff.mp queued
        obtain ⟨same, calm⟩ := delivered.reading before waits
        exact ⟨by rw [receive, same, List.append_assoc], calm⟩
      · intro none
        obtain ⟨same, stops⟩ := delivered.stopped (Option.map_eq_none_iff.mp none)
        refine ⟨?_, fun _ => by simp [receive, stops listens]⟩
        rw [receive, takeThrough_append_of_any (stops listens)]
        exact same
  | @handle item rest listening waits mutes =>
      obtain ⟨same, calm⟩ := delivered.reading _ waits
      cases stops : stop item with
      | true =>
          refine ⟨nofun, fun _ => ⟨?_, fun _ => by simp [same, stops]⟩⟩
          change inbox.handled ++ [item] = takeThrough stop inbox.received
          rw [same, takeThrough_append_of_none calm]
          simp [takeThrough, stops]
      | false =>
          refine ⟨?_, nofun⟩
          rintro items ⟨⟩
          exact ⟨by simp [same], by simp only [List.any_append, calm]; simp [stops]⟩
  | finish waits silent =>
      obtain ⟨same, calm⟩ := delivered.reading _ waits
      rw [List.append_nil] at same
      exact ⟨nofun, fun _ => ⟨by rw [same, takeThrough_of_none calm], nofun⟩⟩

theorem Delivered.steps (delivered : inbox.Delivered stop)
    (stepped : Relation.ReflTransGen (Step stop) inbox next) : next.Delivered stop := by
  induction stepped with
  | refl => exact delivered
  | tail _ stepped ih => exact ih.step stepped

theorem Ordered.step (ordered : inbox.Ordered stop) (stepped : Step stop inbox next) :
    next.Ordered stop := by
  cases stepped with
  | quiet => exact ⟨ordered.reading, ordered.initial⟩
  | attach received handled =>
      refine ⟨?_, ordered.initial⟩
      rintro items ⟨⟩
      exact ⟨by rw [received, handled]; rfl, by rw [handled]; rfl⟩
  | receive item =>
      refine ⟨?_, ordered.initial.trans (takeThrough_append_initial _ _)⟩
      intro items queued
      obtain ⟨before, waits, rfl⟩ := Option.map_eq_some_iff.mp queued
      obtain ⟨same, calm⟩ := ordered.reading before waits
      exact ⟨by rw [receive, same, List.append_assoc], calm⟩
  | @handle item rest listening waits =>
      obtain ⟨same, calm⟩ := ordered.reading _ waits
      refine ⟨?_, ?_⟩
      · intro items queued
        change (if stop item then none else some rest) = some items at queued
        split at queued
        · cases queued
        · rename_i goesOn
          cases queued
          refine ⟨by simp [same], ?_⟩
          simp only [List.any_append, calm, List.any_cons, List.any_nil, Bool.or_false, Bool.false_or]
          simpa using goesOn
      · change inbox.handled ++ [item] <+: takeThrough stop inbox.received
        rw [same, takeThrough_append_of_none calm]
        refine (List.prefix_append_right_inj _).mpr ?_
        simp only [takeThrough]
        split
        · exact List.prefix_rfl
        · exact ⟨_, rfl⟩
  | finish => exact ⟨nofun, ordered.initial⟩

theorem Ordered.steps (ordered : inbox.Ordered stop)
    (stepped : Relation.ReflTransGen (Step stop) inbox next) : next.Ordered stop := by
  induction stepped with
  | refl => exact ordered
  | tail _ stepped ih => exact ih.step stepped

/-- Handled and upcoming items are the received ones up to the first stop. -/
theorem Delivered.accounts (delivered : inbox.Delivered stop) :
    takeThrough stop inbox.received = inbox.handled ++ inbox.upcoming stop := by
  cases queued : inbox.waiting with
  | none =>
      rw [upcoming, queued, (delivered.stopped queued).1]
      exact (List.append_nil _).symm
  | some items =>
      obtain ⟨same, calm⟩ := delivered.reading items queued
      rw [upcoming, queued, same, takeThrough_append_of_none calm]
      rfl

/-- While nothing received stops, a reader that listens is open. -/
theorem Delivered.open (delivered : inbox.Delivered stop) (listens : inbox.listening = true)
    (calm : inbox.received.any stop = false) : inbox.Open stop := by
  cases queued : inbox.waiting with
  | none => simp [(delivered.stopped queued).2 listens] at calm
  | some items =>
      rw [(delivered.reading items queued).1, List.any_append, Bool.or_eq_false_iff] at calm
      exact ⟨listens, items, queued, calm.2⟩

theorem upcoming_receive (open' : inbox.Open stop) (item : α) :
    (inbox.receive item).upcoming stop = inbox.upcoming stop ++ [item] := by
  obtain ⟨_, items, waits, calm⟩ := open'
  simp only [upcoming, receive, waits, Option.map_some, Option.getD_some]
  rw [takeThrough_append_of_none calm, takeThrough_of_none calm]
  simp [takeThrough]

/-- What arrives at a reader that is not open is not looked at. -/
theorem upcoming_receive_closed (listens : inbox.listening = true) (closed : ¬ inbox.Open stop)
    (item : α) : (inbox.receive item).upcoming stop = inbox.upcoming stop := by
  cases waits : inbox.waiting with
  | none => simp [upcoming, receive, waits]
  | some items =>
      have stops : items.any stop = true := by
        cases calm : items.any stop with
        | true => rfl
        | false => exact absurd ⟨listens, items, waits, calm⟩ closed
      simp only [upcoming, receive, waits, Option.map_some, Option.getD_some]
      exact takeThrough_append_of_any stops [item]

/-- A handled item was the first upcoming one. -/
theorem upcoming_handle {listening : Bool} {handled : List α}
    (waits : inbox.waiting = some (item :: rest)) :
    inbox.upcoming stop = item :: Inbox.upcoming stop
      { inbox with handled, waiting := if stop item then none else some rest, listening } := by
  simp only [upcoming, waits, Option.getD_some, takeThrough]
  split <;> rfl

theorem Hears.receive (hears : inbox.Hears stop) (item : α) : (inbox.receive item).Hears stop := by
  rcases hears with ⟨listens, waits⟩ | stops
  · exact .inl ⟨listens, by rw [Inbox.receive, Option.isSome_map, waits]⟩
  · exact .inr (by simp [Inbox.receive, stops])

/-- A reader that hears and has received nothing that stops it is open. -/
theorem Hears.open (hears : inbox.Hears stop) (ordered : inbox.Ordered stop)
    (calm : inbox.received.any stop = false) : inbox.Open stop := by
  rcases hears with ⟨listens, waits⟩ | stops
  · obtain ⟨items, waits⟩ := Option.isSome_iff_exists.mp waits
    rw [(ordered.reading items waits).1, List.any_append, Bool.or_eq_false_iff] at calm
    exact ⟨listens, items, waits, calm.2⟩
  · rw [calm] at stops
    cases stops

theorem Step.handled_initial (stepped : Step stop inbox next) : inbox.handled <+: next.handled := by
  cases stepped with
  | handle => exact List.prefix_append _ _
  | _ => exact List.prefix_rfl

theorem Step.waiting_kept (stepped : Step stop inbox next) (same : next.handled = inbox.handled)
    (waits : inbox.waiting = some (item :: rest)) :
    ∃ more, next.waiting = some (item :: rest ++ more) := by
  cases stepped with
  | quiet => exact ⟨[], by rw [List.append_nil]; exact waits⟩
  | attach _ _ none =>
      rw [none] at waits
      cases waits
  | receive arrived => exact ⟨[arrived], by rw [Inbox.receive, waits]; rfl⟩
  | handle => simp at same
  | finish ahead =>
      rw [ahead] at waits
      cases waits

theorem steps_handled_initial (steps : Relation.ReflTransGen (Step stop) inbox next) :
    inbox.handled <+: next.handled := by
  induction steps with
  | refl => exact List.prefix_rfl
  | tail _ stepped ih => exact ih.trans stepped.handled_initial

/-- As long as nothing is handled, what waits goes on waiting. -/
theorem steps_waiting_kept (steps : Relation.ReflTransGen (Step stop) inbox next)
    (same : next.handled = inbox.handled) (waits : inbox.waiting = some (item :: rest)) :
    ∃ more, next.waiting = some (item :: rest ++ more) := by
  induction steps with
  | refl => exact ⟨[], by rw [List.append_nil]; exact waits⟩
  | @tail middle after steps stepped ih =>
      have kept : middle.handled = inbox.handled := by
        refine ((steps_handled_initial steps).eq_of_length_le ?_).symm
        rw [← same]
        exact stepped.handled_initial.length_le
      obtain ⟨more, ahead⟩ := ih kept
      obtain ⟨last, later⟩ := stepped.waiting_kept (same.trans kept.symm) ahead
      refine ⟨more ++ last, later.trans ?_⟩
      rw [← List.append_assoc]
      rfl

end

end Inbox

end A2A.Library
