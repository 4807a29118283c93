import Mathlib.Data.List.Basic

namespace A2A.Library

/-! Listings that are handed out a page at a time.

A walk asks for a first page and then, as long as a page names one, for the
next.  What is listed may change between two requests.
-/

variable {σ τ π ε α : Type}

/-- A walk that came to its end, with the pages it was given.  `moves` says what may have
become of the state by the time the page after this one is asked for. -/
inductive Walk (fetch : σ → τ → Except ε π) (next : π → Option τ) (moves : σ → π → σ → Prop) :
    σ → τ → List π → Prop where
  | refused {state : σ} {token : τ} {error : ε} :
      fetch state token = .error error → Walk fetch next moves state token []
  | last {state : σ} {token : τ} {page : π} :
      fetch state token = .ok page → next page = none → Walk fetch next moves state token [page]
  | more {state later : σ} {token following : τ} {page : π} {pages : List π} :
      fetch state token = .ok page → next page = some following → moves state page later →
      Walk fetch next moves later following pages → Walk fetch next moves state token (page :: pages)

/-- Nothing moves between two requests. -/
def still (state : σ) (_ : π) (later : σ) : Prop := later = state

namespace Walk

variable {fetch : σ → τ → Except ε π} {next : π → Option τ} {moves : σ → π → σ → Prop}
  {state : σ} {token : τ} {pages : List π}

/-- The pages of a listing that stays as it is are determined by the token. -/
theorem unique {others : List π} (walk : Walk fetch next still state token pages)
    (other : Walk fetch next still state token others) : pages = others := by
  induction walk generalizing others with
  | refused failed => cases other <;> simp_all
  | last fetched ends => cases other <;> simp_all
  | more fetched goes same rest ih =>
      cases other with
      | refused failed => simp_all
      | last again ends => simp_all
      | more again goes' same' rest' =>
          cases fetched.symm.trans again
          cases goes.symm.trans goes'
          cases same
          cases same'
          rw [ih rest']

/-- Tokens name what is still to be handed out, a page is the first `size` items of it, and
names the rest: then the pages of a walk are what its token names, cut up. -/
theorem covers (names : τ → List α → Prop) {items : π → List α} {valid : π → Prop} {size : Nat}
    (positive : 0 < size)
    (served : ∀ {token rest}, names token rest → ∃ page, fetch state token = .ok page ∧
      items page = rest.take size ∧ valid page ∧
      (rest.length ≤ size → next page = none) ∧
      (size < rest.length → ∃ following, next page = some following ∧ names following (rest.drop size)))
    {rest : List α} (named : names token rest) :
    ∃ pages, Walk fetch next still state token pages ∧ pages.flatMap items = rest ∧
      ∀ page ∈ pages, valid page := by
  induction measured : rest.length using Nat.strongRecOn generalizing token rest with
  | _ remaining ih =>
      obtain ⟨page, fetched, given, sound, ends, goes⟩ := served named
      by_cases enough : rest.length ≤ size
      · refine ⟨[page], .last fetched (ends enough), ?_, List.forall_mem_singleton.mpr sound⟩
        rw [List.flatMap_singleton, given, List.take_of_length_le enough]
      · have longer := Nat.lt_of_not_le enough
        obtain ⟨following, named', left⟩ := goes longer
        have shorter : (rest.drop size).length < remaining := by
          rw [List.length_drop]
          omega
        obtain ⟨pages, walk, cut, soundAll⟩ := ih _ shorter left rfl
        refine ⟨page :: pages, .more fetched named' rfl walk, ?_, ?_⟩
        · rw [List.flatMap_cons, given, cut, List.take_append_drop]
        · exact List.forall_mem_cons.mpr ⟨sound, soundAll⟩

/-- What is ahead of every token, until a page hands it out, is handed out in the end. -/
theorem hands_out {ahead : σ → τ → Prop} {given : π → Prop}
    (served : ∀ {state token}, ahead state token → ∃ page, fetch state token = .ok page ∧
      (given page ∨ ∃ following, next page = some following ∧
        ∀ {later}, moves state page later → ahead later following))
    (walk : Walk fetch next moves state token pages) (initial : ahead state token) :
    ∃ page ∈ pages, given page := by
  induction walk with
  | refused failed =>
      obtain ⟨_, fetched, _⟩ := served initial
      cases failed.symm.trans fetched
  | last fetched ends =>
      obtain ⟨_, again, handed | ⟨following, goes, _⟩⟩ := served initial
      · cases fetched.symm.trans again
        exact ⟨_, List.mem_singleton_self _, handed⟩
      · cases fetched.symm.trans again
        cases ends.symm.trans goes
  | more fetched goes moved rest ih =>
      obtain ⟨_, again, handed | ⟨following, goes', kept⟩⟩ := served initial
      · cases fetched.symm.trans again
        exact ⟨_, List.mem_cons_self, handed⟩
      · cases fetched.symm.trans again
        cases goes.symm.trans goes'
        obtain ⟨page, listed, handed⟩ := ih (kept moved)
        exact ⟨page, List.mem_cons_of_mem _ listed, handed⟩

end Walk

end A2A.Library
