import A2A.Library.Router

namespace A2A.Library

/-! Dot segments: the parser of a URL takes them out of its path, and what is left is sent.

A router that is mounted at a path sees the segments behind that path.
-/

namespace DotSegments

open Percent Router

/-- A segment that stands for the level above. Its dots may be escaped. -/
def isDoubleDot (segment : List Char) : Bool := decode segment = some ['.', '.']

/-- A segment that stands for the level itself. -/
def isSingleDot (segment : List Char) : Bool := decode segment = some ['.']

def isDot (segment : List Char) : Bool := isSingleDot segment || isDoubleDot segment

/-- The segments of a path behind those that are done, which are listed from the last one on.
A dot segment at the end of the path leaves an empty one. -/
def resolve : List (List Char) → List (List Char) → List (List Char)
  | done, [] => done.reverse
  | done, segment :: rest =>
      let last := if rest = [] then [[]] else []
      if isDoubleDot segment then resolve (last ++ done.tail) rest
      else if isSingleDot segment then resolve (last ++ done) rest
      else resolve (segment :: done) rest

/-- The segments of a path that starts with a slash, without its query. -/
def pathSegments (path : List Char) : List (List Char) :=
  ((path.takeWhile (· ≠ '?')).splitOn '/').tail

/-- A segment that the parser leaves as it is, and that is one segment for every reader. -/
def Plain (segment : List Char) : Prop := isDot segment = false ∧ '/' ∉ segment ∧ '?' ∉ segment

/-- The path of an endpoint, at which its router is mounted. -/
structure Mount where
  segments : List (List Char)
  plain : ∀ segment ∈ segments, Plain segment

/-- What is left behind the words of a mount, whatever the case of their letters. -/
def strip : List (List Char) → List (List Char) → Option (List (List Char))
  | [], rest => some rest
  | _ :: _, [] => none
  | word :: words, segment :: rest => if folded segment = folded word then strip words rest else none

/-- The path that the router sees of a request for a path behind its endpoint, if it sees it at all. -/
def Mount.arriving (mount : Mount) (path : List Char) : Option (List Char) :=
  (strip mount.segments (resolve [] (mount.segments ++ pathSegments path))).map fun rest =>
    rest.flatMap ('/' :: ·) ++ path.dropWhile (· ≠ '?')

variable {segment : List Char} {done rest parts : List (List Char)} {path query : List Char}

theorem isDot_encoded {text verb : List Char} (plain : '%' ∉ verb) :
    isDot (encodeURIComponent text ++ verb) = (text ++ verb == ['.'] || text ++ verb == ['.', '.']) := by
  have read := @decode_escape_append unreserved (by decide) text verb plain
  rw [← encodeURIComponent] at read
  simp only [isDot, isSingleDot, isDoubleDot, read, Option.some.injEq, beq_eq_decide]

theorem isDot_of_decode {dots : List Char} (listed : dots ∈ [['.'], ['.', '.']])
    (read : decode segment = some dots) : isDot segment = true := by
  rw [isDot, isSingleDot, isDoubleDot, read]
  rcases List.mem_cons.mp listed with rfl | double
  · rfl
  · cases List.mem_singleton.mp double
    rfl

theorem plain_nil : Plain [] := ⟨by decide, List.not_mem_nil, List.not_mem_nil⟩

/-- Segments without dots are done one by one. -/
theorem resolve_append {first : List (List Char)} (plain : ∀ segment ∈ first, isDot segment = false) :
    resolve done (first ++ rest) = resolve (first.reverse ++ done) rest := by
  induction first generalizing done with
  | nil => rfl
  | cons segment first ih =>
      rw [List.forall_mem_cons] at plain
      obtain ⟨single, double⟩ := Bool.or_eq_false_iff.mp plain.1
      rw [List.cons_append, resolve, if_neg (by rw [double]; decide), if_neg (by rw [single]; decide), ih plain.2,
        List.reverse_cons, List.append_assoc, List.singleton_append]

theorem resolve_plain (plain : ∀ segment ∈ rest, isDot segment = false) :
    resolve done rest = done.reverse ++ rest := by
  have all := @resolve_append done [] rest plain
  rw [List.append_nil] at all
  rw [all, resolve, List.reverse_append, List.reverse_reverse]

/-- What a resolved path consists of are segments of the path without dots, and empty ones. -/
theorem resolve_forall {Holds : List Char → Prop} (empty : Holds []) (before : ∀ segment ∈ done, Holds segment)
    (keeps : ∀ segment ∈ rest, isDot segment = false → Holds segment) :
    ∀ segment ∈ resolve done rest, Holds segment := by
  induction rest generalizing done with
  | nil => exact fun segment member => before segment (List.mem_reverse.mp member)
  | cons segment rest ih =>
      rw [List.forall_mem_cons] at keeps
      have last : ∀ closing ∈ (if rest = [] then [[]] else [] : List (List Char)), Holds closing := by
        intro closing member
        split at member
        · exact List.mem_singleton.mp member ▸ empty
        · exact absurd member List.not_mem_nil
      rw [resolve]
      split
      · refine ih (List.forall_mem_append.mpr ⟨last, ?_⟩) keeps.2
        exact fun above member => before above (List.mem_of_mem_tail member)
      · rename_i double
        split
        · exact ih (List.forall_mem_append.mpr ⟨last, before⟩) keeps.2
        · rename_i single
          have plain : isDot segment = false :=
            Bool.or_eq_false_iff.mpr ⟨Bool.not_eq_true _ ▸ single, Bool.not_eq_true _ ▸ double⟩
          exact ih (List.forall_mem_cons.mpr ⟨keeps.1 plain, before⟩) keeps.2

theorem strip_append (words : List (List Char)) : strip words (words ++ rest) = some rest := by
  induction words with
  | nil => cases rest <;> rfl
  | cons word words ih => rw [List.cons_append, strip, if_pos rfl, ih]

theorem strip_suffix {words : List (List Char)} (stripped : strip words parts = some rest) : rest <:+ parts := by
  induction words generalizing parts with
  | nil =>
      cases parts <;> cases stripped <;> exact List.suffix_refl _
  | cons word words ih =>
      cases parts with
      | nil => cases stripped
      | cons segment parts =>
          rw [strip] at stripped
          split at stripped
          · exact (ih stripped).trans (List.suffix_cons _ _)
          · cases stripped

theorem pathSegments_joined (clear : ∀ part ∈ parts, '/' ∉ part ∧ '?' ∉ part)
    (marked : ∀ char, query.head? = some char → char = '?') :
    pathSegments (parts.flatMap ('/' :: ·) ++ query) = parts := by
  rw [pathSegments, (span_query (fun part listed => (clear part listed).2) marked).1,
    splitOn_joined (fun part listed => (clear part listed).1), List.tail_cons]

/-- A path without dot segments arrives as it is. -/
theorem arriving_plain (mount : Mount) (plain : ∀ part ∈ parts, Plain part)
    (marked : ∀ char, query.head? = some char → char = '?') :
    mount.arriving (parts.flatMap ('/' :: ·) ++ query) = some (parts.flatMap ('/' :: ·) ++ query) := by
  have clear : ∀ part ∈ parts, '/' ∉ part ∧ '?' ∉ part := fun part listed => (plain part listed).2
  have dotless : ∀ segment ∈ mount.segments ++ parts, isDot segment = false :=
    List.forall_mem_append.mpr
      ⟨fun segment listed => (mount.plain segment listed).1, fun part listed => (plain part listed).1⟩
  rw [Mount.arriving, pathSegments_joined clear marked, resolve_plain dotless, List.reverse_nil, List.nil_append,
    strip_append, (span_query (fun part listed => (clear part listed).2) marked).2]
  rfl

/-- Whatever path arrives, no segment that a router reads of it is one of dots. -/
theorem segments_arriving {mount : Mount} {arrived : List Char}
    (clear : ∀ part ∈ parts, '/' ∉ part ∧ '?' ∉ part) (marked : ∀ char, query.head? = some char → char = '?')
    (arrives : mount.arriving (parts.flatMap ('/' :: ·) ++ query) = some arrived) :
    ∃ raws, segments arrived = some raws ∧ ∀ raw ∈ raws, isDot raw = false := by
  obtain ⟨rest, stripped, rfl⟩ := Option.map_eq_some_iff.mp arrives
  rw [pathSegments_joined clear marked] at stripped
  have resolved : ∀ segment ∈ rest, Plain segment := by
    intro segment member
    refine resolve_forall plain_nil (List.forall_mem_nil _) ?_ segment ((strip_suffix stripped).mem member)
    exact List.forall_mem_append.mpr ⟨fun segment listed _ => mount.plain segment listed,
      fun part listed plain => ⟨plain, clear part listed⟩⟩
  rw [(span_query (fun part listed => (clear part listed).2) marked).2,
    segments_joined (fun segment member => (resolved segment member).2) marked]
  refine ⟨_, rfl, ?_⟩
  intro raw member
  split at member
  · exact (resolved raw (List.dropLast_subset _ member)).1
  · exact (resolved raw member).1

end DotSegments

end A2A.Library
