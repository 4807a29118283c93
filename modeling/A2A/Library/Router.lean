import Mathlib.Data.String.Basic
import A2A.Library.Percent
import A2A.Library.Readable

namespace A2A.Library

/-! Routing by an ordered table: the first route that matches a path handles it.

A path is matched as it stands, segment by segment and whatever the case of its
letters; the parameters it captures are decoded afterwards, once.
-/

namespace Router

open Percent

variable {ν : Type u} {μ : Type v} {κ : Type w}

/-- A segment of a route: a word or a parameter, and behind it a verb, which may be empty. -/
inductive Segment (ν : Type u) where
  | literal (word verb : List Char)
  | param (name : ν) (verb : List Char)

structure Route (ν : Type u) (μ : Type v) (κ : Type w) where
  method : μ
  path : List (Segment ν)
  handler : κ

def folded (text : List Char) : List Char := text.map Char.toLower

/-- What stands in front of the verb that a segment ends with. -/
def stripVerb (verb : List Char) : List Char → Option (List Char)
  | [] => if verb = [] then some [] else none
  | char :: rest =>
      if folded (char :: rest) = folded verb then some []
      else (stripVerb verb rest).map (char :: ·)

def Segment.capture : Segment ν → List Char → Option (List (ν × List Char))
  | .literal word verb, raw => if folded raw = folded (word ++ verb) then some [] else none
  | .param name verb, raw =>
      match stripVerb verb raw with
      | some (char :: rest) => some [(name, char :: rest)]
      | _ => none

def captures : List (Segment ν) → List (List Char) → Option (List (ν × List Char))
  | [], [] => some []
  | segment :: path, raw :: raws =>
      (segment.capture raw).bind (fun first => (captures path raws).map (first ++ ·))
  | _, _ => none

def decodeParams : List (ν × List Char) → Option (List (ν × List Char))
  | [] => some []
  | (name, raw) :: rest =>
      (decode raw).bind (fun value => (decodeParams rest).map ((name, value) :: ·))

inductive Dispatch (ν : Type u) (κ : Type w) where
  | handled (handler : κ) (params : List (ν × List Char))
  /-- A parameter that cannot be decoded ends the search. -/
  | malformed
  | notFound

def dispatch [DecidableEq μ] (method : μ) (raws : List (List Char)) :
    List (Route ν μ κ) → Dispatch ν κ
  | [] => .notFound
  | route :: rest =>
      match (captures route.path raws).map decodeParams with
      | none => dispatch method raws rest
      | some none => .malformed
      | some (some params) =>
          if route.method = method then .handled route.handler params
          else dispatch method raws rest

/-- The segments of a path, without its query and without one slash at its end. -/
def segments (path : List Char) : Option (List (List Char)) :=
  match (path.takeWhile (· ≠ '?')).splitOn '/' with
  | [] :: rest => some (if rest.getLast? = some [] then rest.dropLast else rest)
  | _ => none

/-- A segment of a path as its author means it. -/
structure Piece where
  text : List Char
  verb : List Char

def Piece.raw (piece : Piece) : List Char := encodeURIComponent piece.text ++ piece.verb

/-- A verb starts at a colon. -/
def isVerb : List Char → Bool
  | [] => true
  | char :: word => char = ':' && word.all unreserved

def Piece.Proper (piece : Piece) : Prop := piece.text ≠ [] ∧ isVerb piece.verb = true

def Segment.proper : Segment ν → Bool
  | .literal word verb => word.all unreserved && isVerb verb
  | .param _ verb => isVerb verb

/-- Whether a segment is met by a piece. -/
def Segment.Fits : Segment ν → Piece → Prop
  | .literal word verb, piece => folded piece.text = folded word ∧ folded piece.verb = folded verb
  | .param _ verb, piece => verb = [] ∨ folded piece.verb = folded verb

instance (segment : Segment ν) (piece : Piece) : Decidable (segment.Fits piece) :=
  match segment with
  | .literal _ _ => inferInstanceAs (Decidable (_ ∧ _))
  | .param _ _ => inferInstanceAs (Decidable (_ ∨ _))

/-- What a segment takes from a piece that meets it. -/
def Segment.binds : Segment ν → Piece → List (ν × List Char)
  | .literal _ _, _ => []
  | .param name verb, piece => [(name, if verb = [] then piece.text ++ piece.verb else piece.text)]

def Fits : List (Segment ν) → List Piece → Prop
  | [], [] => True
  | segment :: path, piece :: pieces => segment.Fits piece ∧ Fits path pieces
  | _, _ => False

def decidableFits : (path : List (Segment ν)) → (pieces : List Piece) → Decidable (Fits path pieces)
  | [], [] => isTrue trivial
  | [], _ :: _ => isFalse id
  | _ :: _, [] => isFalse id
  | segment :: path, piece :: pieces =>
      have := decidableFits path pieces
      inferInstanceAs (Decidable (segment.Fits piece ∧ Fits path pieces))

instance (path : List (Segment ν)) (pieces : List Piece) : Decidable (Fits path pieces) :=
  decidableFits path pieces

def binds : List (Segment ν) → List Piece → List (ν × List Char)
  | segment :: path, piece :: pieces => segment.binds piece ++ binds path pieces
  | _, _ => []

/-- The first route of a method that the pieces of a path meet. -/
def route [DecidableEq μ] (method : μ) (pieces : List Piece) :
    List (Route ν μ κ) → Dispatch ν κ
  | [] => .notFound
  | first :: rest =>
      if first.method = method ∧ Fits first.path pieces then
        .handled first.handler (binds first.path pieces)
      else route method pieces rest

section Folding

theorem isAlpha_eq (char : Char) : char.isAlpha = (char.isUpper || char.isLower) := rfl

theorem toLower_cases (char : Char) :
    char.toLower = char ∨ char.isUpper = true ∧ char.toLower.isLower = true := by
  unfold Char.toLower
  split
  · rename_i upper
    refine .inr ⟨decide_eq_true upper, Bool.and_eq_true_iff.mpr ⟨decide_eq_true ?_, decide_eq_true ?_⟩⟩
    all_goals
      simp only [UInt32.le_iff_toNat_le, ge_iff_le, Char.reduceVal, UInt32.reduceToNat, UInt32.reduceSub,
        UInt32.toNat_add] at upper ⊢
      omega
  · exact .inl rfl

theorem toLower_eq_iff {char other : Char} (mark : other.isAlpha = false) :
    char.toLower = other ↔ char = other := by
  rcases toLower_cases char with same | ⟨upper, lower⟩
  · rw [same]
  · constructor
    · intro same
      rw [same] at lower
      simp [isAlpha_eq, lower] at mark
    · intro same
      rw [same] at upper
      simp [isAlpha_eq, upper] at mark

theorem unreserved_toLower (char : Char) : unreserved char.toLower = unreserved char := by
  rcases toLower_cases char with same | ⟨upper, lower⟩
  · rw [same]
  · simp [unreserved, Char.isAlphanum, isAlpha_eq, upper, lower]

@[simp] theorem folded_append (text more : List Char) :
    folded (text ++ more) = folded text ++ folded more := List.map_append

@[simp] theorem folded_eq_nil {text : List Char} : folded text = [] ↔ text = [] := List.map_eq_nil_iff

theorem mem_folded {char : Char} {text : List Char} (mark : char.isAlpha = false) :
    char ∈ folded text ↔ char ∈ text := by
  simp only [folded, List.mem_map, toLower_eq_iff mark, exists_eq_right]

/-- A word without reserved characters is spelled like a text or like its encoding alike. -/
theorem folded_encode {text word : List Char} (plain : word.all unreserved = true) :
    folded (encodeURIComponent text) = folded word ↔ folded text = folded word := by
  have plainly : ∀ {other : List Char}, folded other = folded word →
      ∀ char ∈ other, unreserved char = true := by
    intro other same char member
    have spelled : char.toLower ∈ folded word := same ▸ List.mem_map_of_mem member
    obtain ⟨letter, listed, equal⟩ := List.mem_map.mp spelled
    rw [← unreserved_toLower, ← equal, unreserved_toLower]
    exact List.all_eq_true.mp plain letter listed
  by_cases keeps : ∀ char ∈ text, unreserved char = true
  · rw [encodeURIComponent, escape_kept keeps]
  · constructor
    · intro same
      obtain ⟨char, member, escapes⟩ : ∃ char ∈ text, unreserved char = false := by
        simpa using keeps
      have percent := plainly same _ (percent_mem_escape member escapes)
      exact absurd percent (by decide)
    · exact fun same => absurd (plainly same) keeps

end Folding

section Verbs

variable {text word verb other : List Char}

theorem colon_not_mem_encode (text : List Char) : ':' ∉ folded (encodeURIComponent text) := by
  rw [mem_folded (by decide)]
  exact not_mem_encodeURIComponent (by decide) (by decide) text

theorem colon_not_mem (plain : word.all unreserved = true) : ':' ∉ word := by
  intro member
  exact absurd (List.all_eq_true.mp plain ':' member) (by decide)

theorem isVerb_cases (proper : isVerb verb = true) :
    verb = [] ∨ ∃ word, verb = ':' :: word ∧ ':' ∉ word := by
  cases verb with
  | nil => exact .inl rfl
  | cons char word =>
      simp only [isVerb, Bool.and_eq_true, decide_eq_true_eq] at proper
      exact .inr ⟨word, by rw [proper.1], colon_not_mem proper.2⟩

/-- A verb goes on from a text without colons. -/
theorem stops_verb (proper : isVerb verb = true) : Stops (· ≠ ':') (folded verb) := by
  rcases isVerb_cases proper with rfl | ⟨word, rfl, _⟩
  · exact stops_nil _
  · exact stops_cons (by decide) _

/-- The word of a segment and its verb are told apart. -/
theorem folded_raw (plain : word.all unreserved = true) (proper : isVerb verb = true)
    (proper' : isVerb other = true) :
    folded (encodeURIComponent text ++ other) = folded (word ++ verb) ↔
      folded text = folded word ∧ folded other = folded verb := by
  rw [← folded_encode plain, folded_append, folded_append]
  constructor
  · intro same
    refine @append_eq_append_of_stops _ (· ≠ ':') _ _ _ _ ?_ ?_ (stops_verb proper') (stops_verb proper) same
    · exact fun char member equal => colon_not_mem_encode text (equal ▸ member)
    · intro char member equal
      exact colon_not_mem plain ((mem_folded (by decide)).mp (equal ▸ member))
  · exact fun same => by rw [same.1, same.2]

theorem stripVerb_nil (text : List Char) : stripVerb [] text = some text := by
  induction text with
  | nil => rfl
  | cons char rest ih => simp [stripVerb, ih, folded]

/-- Without a colon there is no verb. -/
theorem stripVerb_none (clear : ':' ∉ text) : stripVerb (':' :: word) text = none := by
  induction text with
  | nil => rfl
  | cons char rest ih =>
      rw [List.mem_cons, not_or] at clear
      have differs : folded (char :: rest) ≠ folded (':' :: word) := by
        intro same
        have heads : char.toLower = ':' := (List.cons.inj same).1
        exact clear.1 ((toLower_eq_iff (by decide)).mp heads).symm
      rw [stripVerb, if_neg differs, ih clear.2]
      rfl

theorem stripVerb_append (clear : ':' ∉ text) (proper : isVerb other = true) :
    stripVerb (':' :: word) (text ++ other) =
      if folded other = folded (':' :: word) then some text else none := by
  induction text with
  | nil =>
      rcases isVerb_cases proper with rfl | ⟨rest, rfl, none⟩
      · rfl
      · rw [List.nil_append, stripVerb, stripVerb_none none]
        rfl
  | cons char rest ih =>
      rw [List.mem_cons, not_or] at clear
      have differs : folded (char :: (rest ++ other)) ≠ folded (':' :: word) := by
        intro same
        have heads : char.toLower = ':' := (List.cons.inj same).1
        exact clear.1 ((toLower_eq_iff (by decide)).mp heads).symm
      rw [List.cons_append, stripVerb, if_neg differs, ih clear.2]
      split <;> rfl

end Verbs

section Pieces

variable {segment : Segment ν} {piece : Piece}

theorem percent_not_mem_verb {verb : List Char} (proper : isVerb verb = true) : '%' ∉ verb := by
  cases verb with
  | nil => exact List.not_mem_nil
  | cons char word =>
      simp only [isVerb, Bool.and_eq_true, decide_eq_true_eq] at proper
      rw [List.mem_cons, not_or, proper.1]
      refine ⟨by decide, ?_⟩
      intro member
      exact absurd (List.all_eq_true.mp proper.2 '%' member) (by decide)

theorem decodeParams_append {first rest : List (ν × List Char)} :
    decodeParams (first ++ rest) =
      (decodeParams first).bind (fun first => (decodeParams rest).map (first ++ ·)) := by
  induction first with
  | nil =>
      rw [List.nil_append, decodeParams, Option.bind_some]
      cases decodeParams rest <;> rfl
  | cons entry first ih =>
      obtain ⟨name, raw⟩ := entry
      rw [List.cons_append, decodeParams, decodeParams, ih]
      cases decode raw <;> cases decodeParams first <;> cases decodeParams rest <;> rfl

theorem decodeParams_single (name : ν) (text : List Char) {more : List Char} (plain : '%' ∉ more) :
    decodeParams [(name, encodeURIComponent text ++ more)] = some [(name, text ++ more)] := by
  rw [decodeParams, encodeURIComponent, decode_escape_append (by decide) text plain]
  rfl

/-- A segment captures the encoding of what it takes. -/
theorem capture_raw (plain : segment.proper = true) (proper : piece.Proper) :
    (segment.capture piece.raw).map decodeParams =
      if segment.Fits piece then some (some (segment.binds piece)) else none := by
  obtain ⟨text, other⟩ := piece
  obtain ⟨given, isVerb⟩ := proper
  cases segment with
  | literal word verb =>
      rw [Segment.proper, Bool.and_eq_true] at plain
      have read := @folded_raw text word verb other plain.1 plain.2 isVerb
      by_cases fits : (Segment.literal (ν := ν) word verb).Fits ⟨text, other⟩
      · rw [Segment.capture, Piece.raw, if_pos (read.mpr fits), if_pos fits]
        rfl
      · rw [Segment.capture, Piece.raw, if_neg (fits ∘ read.mp), if_neg fits]
        rfl
  | param name verb =>
      have written : encodeURIComponent text ≠ [] := escape_ne_nil given
      obtain ⟨char, rest, spelled⟩ := List.exists_cons_of_ne_nil written
      rcases isVerb_cases plain with rfl | ⟨word, rfl, _⟩
      · have whole := decodeParams_single name text (percent_not_mem_verb isVerb)
        rw [spelled, List.cons_append] at whole
        simp only [Segment.capture, Segment.Fits, Segment.binds, Piece.raw, stripVerb_nil, spelled,
          List.cons_append, Option.map_some, whole, if_true, true_or]
      · have clear : ':' ∉ encodeURIComponent text :=
          not_mem_encodeURIComponent (by decide) (by decide) text
        have alone := decodeParams_single name text List.not_mem_nil
        rw [List.append_nil, List.append_nil, spelled] at alone
        simp only [Segment.capture, Segment.Fits, Segment.binds, Piece.raw,
          stripVerb_append clear isVerb, reduceCtorEq, if_false, false_or]
        by_cases same : folded other = folded (':' :: word)
        · simp only [if_pos same, spelled, Option.map_some, alone]
        · simp only [if_neg same, Option.map_none]

theorem captures_raw {path : List (Segment ν)} {pieces : List Piece}
    (plain : ∀ segment ∈ path, segment.proper = true) (proper : ∀ piece ∈ pieces, piece.Proper) :
    (captures path (pieces.map Piece.raw)).map decodeParams =
      if Fits path pieces then some (some (binds path pieces)) else none := by
  induction path generalizing pieces with
  | nil => cases pieces <;> rfl
  | cons segment path ih =>
      cases pieces with
      | nil => rfl
      | cons piece pieces =>
          rw [List.forall_mem_cons] at plain proper
          have first := capture_raw plain.1 proper.1
          have rest := ih plain.2 proper.2
          rw [List.map_cons, captures]
          by_cases fits : segment.Fits piece
          · rw [if_pos fits, Option.map_eq_some_iff] at first
            obtain ⟨raw, captured, decoded⟩ := first
            rw [captured, Option.bind_some, Option.map_map]
            by_cases others : Fits path pieces
            · rw [if_pos others, Option.map_eq_some_iff] at rest
              obtain ⟨raws, captureds, decodeds⟩ := rest
              have meets : Fits (segment :: path) (piece :: pieces) := ⟨fits, others⟩
              rw [captureds, if_pos meets, Option.map_some, Function.comp, decodeParams_append, decoded,
                decodeds]
              rfl
            · have misses : ¬ Fits (segment :: path) (piece :: pieces) := others ∘ And.right
              rw [if_neg others, Option.map_eq_none_iff] at rest
              rw [rest, if_neg misses]
              rfl
          · have misses : ¬ Fits (segment :: path) (piece :: pieces) := fits ∘ And.left
            rw [if_neg fits, Option.map_eq_none_iff] at first
            rw [first, if_neg misses]
            rfl

theorem raw_ne_nil (proper : piece.Proper) : piece.raw ≠ [] := by
  intro empty
  exact escape_ne_nil proper.1 (List.append_eq_nil_iff.mp empty).1

theorem not_mem_raw {char : Char} (reserved : unreserved char = false) (other : char ≠ '%')
    (mark : char ≠ ':') (proper : piece.Proper) : char ∉ piece.raw := by
  obtain ⟨text, verb⟩ := piece
  obtain ⟨_, isVerb⟩ := proper
  intro member
  rcases List.mem_append.mp member with encoded | behind
  · exact not_mem_encodeURIComponent reserved other text encoded
  · cases verb with
    | nil => exact nomatch behind
    | cons first word =>
        simp only [Router.isVerb, Bool.and_eq_true, decide_eq_true_eq] at isVerb
        rcases List.mem_cons.mp behind with same | within
        · exact mark (same.trans isVerb.1)
        · rw [List.all_eq_true.mp isVerb.2 char within] at reserved
          exact absurd reserved (by decide)

/-- An encoded path goes where its pieces lead, with its parameters decoded. -/
theorem dispatch_raw [DecidableEq μ] {method : μ} {routes : List (Route ν μ κ)} {pieces : List Piece}
    (plain : ∀ route ∈ routes, ∀ segment ∈ route.path, segment.proper = true)
    (proper : ∀ piece ∈ pieces, piece.Proper) :
    dispatch method (pieces.map Piece.raw) routes = route method pieces routes := by
  induction routes with
  | nil => rfl
  | cons first rest ih =>
      rw [List.forall_mem_cons] at plain
      rw [dispatch, route, captures_raw plain.1 proper, ih plain.2]
      by_cases fits : Fits first.path pieces
      · simp only [if_pos fits, and_iff_left fits]
      · simp only [if_neg fits, mt And.right fits, if_false]

end Pieces

section Captured

/-- The parameters that a path names, in order. -/
def names : List (Segment ν) → List ν
  | [] => []
  | .literal _ _ :: path => names path
  | .param name _ :: path => name :: names path

theorem captures_names {path : List (Segment ν)} {raws : List (List Char)}
    {params : List (ν × List Char)} (captured : captures path raws = some params) :
    params.map Prod.fst = names path ∧ ∀ entry ∈ params, entry.2 ≠ [] := by
  induction path generalizing raws params with
  | nil =>
      cases raws with
      | nil =>
          cases captured
          exact ⟨rfl, List.forall_mem_nil _⟩
      | cons raw raws => exact nomatch captured
  | cons segment path ih =>
      cases raws with
      | nil => exact nomatch captured
      | cons raw raws =>
          rw [captures, Option.bind_eq_some_iff] at captured
          obtain ⟨first, taken, rest⟩ := captured
          obtain ⟨others, left, rfl⟩ := Option.map_eq_some_iff.mp rest
          obtain ⟨named, given⟩ := ih left
          cases segment with
          | literal word verb =>
              simp only [Segment.capture] at taken
              split at taken
              · cases taken
                exact ⟨named, given⟩
              · exact nomatch taken
          | param name verb =>
              simp only [Segment.capture] at taken
              split at taken
              · cases taken
                refine ⟨?_, List.forall_mem_cons.mpr ⟨List.cons_ne_nil _ _, given⟩⟩
                rw [List.map_append, named]
                rfl
              · exact nomatch taken

theorem decodeParams_names {raw params : List (ν × List Char)} (decoded : decodeParams raw = some params)
    (given : ∀ entry ∈ raw, entry.2 ≠ []) :
    params.map Prod.fst = raw.map Prod.fst ∧ ∀ entry ∈ params, entry.2 ≠ [] := by
  induction raw generalizing params with
  | nil =>
      cases decoded
      exact ⟨rfl, List.forall_mem_nil _⟩
  | cons entry raw ih =>
      obtain ⟨name, text⟩ := entry
      rw [List.forall_mem_cons] at given
      rw [decodeParams, Option.bind_eq_some_iff] at decoded
      obtain ⟨value, first, rest⟩ := decoded
      obtain ⟨others, left, rfl⟩ := Option.map_eq_some_iff.mp rest
      obtain ⟨named, filled⟩ := ih left given.2
      refine ⟨?_, List.forall_mem_cons.mpr ⟨decode_ne_nil given.1 first, filled⟩⟩
      rw [List.map_cons, List.map_cons, named]

/-- A handled request has been captured by one of the routes of its handler. -/
theorem dispatch_captured [DecidableEq μ] {method : μ} {raws : List (List Char)}
    {routes : List (Route ν μ κ)} {handler : κ} {params : List (ν × List Char)}
    (handled : dispatch method raws routes = .handled handler params) :
    ∃ route ∈ routes, route.handler = handler ∧
      ∃ taken, captures route.path raws = some taken ∧ decodeParams taken = some params := by
  induction routes with
  | nil => exact nomatch handled
  | cons route rest ih =>
      have later : dispatch method raws rest = .handled handler params →
          ∃ route' ∈ route :: rest, route'.handler = handler ∧
            ∃ taken, captures route'.path raws = some taken ∧ decodeParams taken = some params := by
        intro found
        obtain ⟨route', listed, same⟩ := ih found
        exact ⟨route', List.mem_cons_of_mem _ listed, same⟩
      rw [dispatch] at handled
      split at handled
      · exact later handled
      · exact nomatch handled
      · rename_i params' decoded
        split at handled
        · cases handled
          exact ⟨route, List.mem_cons_self, rfl, Option.map_eq_some_iff.mp decoded⟩
        · exact later handled

/-- A handled request has the parameters of one of the routes of its handler, none of them empty. -/
theorem dispatch_params [DecidableEq μ] {method : μ} {raws : List (List Char)}
    {routes : List (Route ν μ κ)} {handler : κ} {params : List (ν × List Char)}
    (handled : dispatch method raws routes = .handled handler params) :
    (∃ route ∈ routes, route.handler = handler ∧ params.map Prod.fst = names route.path) ∧
      ∀ entry ∈ params, entry.2 ≠ [] := by
  obtain ⟨route, listed, same, taken, captured, decoded⟩ := dispatch_captured handled
  obtain ⟨named, given⟩ := captures_names captured
  obtain ⟨spelled, filled⟩ := decodeParams_names decoded given
  exact ⟨⟨route, listed, same, spelled.trans named⟩, filled⟩

/-- What is captured is what a segment of the path leaves in front of the verb of a parameter. -/
theorem captures_from {path : List (Segment ν)} {raws : List (List Char)} {taken : List (ν × List Char)}
    (captured : captures path raws = some taken) :
    ∀ entry ∈ taken, ∃ verb, .param entry.1 verb ∈ path ∧ ∃ raw ∈ raws, stripVerb verb raw = some entry.2 := by
  induction path generalizing raws taken with
  | nil =>
      cases raws with
      | nil =>
          cases captured
          exact List.forall_mem_nil _
      | cons raw raws => exact nomatch captured
  | cons segment path ih =>
      cases raws with
      | nil => exact nomatch captured
      | cons raw raws =>
          rw [captures, Option.bind_eq_some_iff] at captured
          obtain ⟨first, took, rest⟩ := captured
          obtain ⟨others, left, rfl⟩ := Option.map_eq_some_iff.mp rest
          intro entry member
          rcases List.mem_append.mp member with here | there
          · cases segment with
            | literal word verb =>
                simp only [Segment.capture] at took
                split at took
                · cases took
                  exact absurd here List.not_mem_nil
                · exact nomatch took
            | param name verb =>
                simp only [Segment.capture] at took
                split at took
                · rename_i char text stripped
                  cases took
                  cases List.mem_singleton.mp here
                  exact ⟨verb, List.mem_cons_self, raw, List.mem_cons_self, stripped⟩
                · exact nomatch took
          · obtain ⟨verb, listed, other, among, stripped⟩ := ih left entry there
            exact ⟨verb, List.mem_cons_of_mem _ listed, other, List.mem_cons_of_mem _ among, stripped⟩

theorem decodeParams_from {raw params : List (ν × List Char)} (decoded : decodeParams raw = some params) :
    ∀ entry ∈ params, ∃ text, (entry.1, text) ∈ raw ∧ decode text = some entry.2 := by
  induction raw generalizing params with
  | nil =>
      cases decoded
      exact List.forall_mem_nil _
  | cons first raw ih =>
      obtain ⟨name, text⟩ := first
      rw [decodeParams, Option.bind_eq_some_iff] at decoded
      obtain ⟨value, read, rest⟩ := decoded
      obtain ⟨others, left, rfl⟩ := Option.map_eq_some_iff.mp rest
      refine List.forall_mem_cons.mpr ⟨⟨text, List.mem_cons_self, read⟩, ?_⟩
      intro entry member
      obtain ⟨source, listed, same⟩ := ih left entry member
      exact ⟨source, List.mem_cons_of_mem _ listed, same⟩

end Captured

section Paths

variable {parts : List (List Char)} {query : List Char}

theorem splitOn_parts {first : List Char} (clear : ∀ part ∈ first :: parts, '/' ∉ part) :
    (first ++ parts.flatMap ('/' :: ·)).splitOn '/' = first :: parts := by
  induction parts generalizing first with
  | nil =>
      rw [List.flatMap_nil, List.append_nil]
      exact List.splitOn_eq_singleton (clear first List.mem_cons_self)
  | cons part parts ih =>
      rw [List.forall_mem_cons] at clear
      rw [List.flatMap_cons, List.cons_append, List.splitOn_append_cons_self_of_not_mem clear.1,
        ih clear.2]

/-- A path ends where its query begins. -/
theorem span_query (clear : ∀ part ∈ parts, '?' ∉ part) (marked : ∀ char, query.head? = some char → char = '?') :
    (parts.flatMap ('/' :: ·) ++ query).takeWhile (· ≠ '?') = parts.flatMap ('/' :: ·) ∧
      (parts.flatMap ('/' :: ·) ++ query).dropWhile (· ≠ '?') = query := by
  have inside : ∀ char ∈ parts.flatMap ('/' :: ·), decide (char ≠ '?') = true := by
    intro char member
    obtain ⟨part, listed, among⟩ := List.mem_flatMap.mp member
    rcases List.mem_cons.mp among with same | within
    · rw [same]
      decide
    · refine decide_eq_true ?_
      exact fun same => clear part listed (same ▸ within)
  rw [List.takeWhile_append_of_pos inside, List.dropWhile_append_of_pos inside]
  cases query with
  | nil => exact ⟨List.append_nil _, rfl⟩
  | cons char rest =>
      rw [marked char rfl]
      exact ⟨List.append_nil _, rfl⟩

theorem splitOn_joined (clear : ∀ part ∈ parts, '/' ∉ part) :
    (parts.flatMap ('/' :: ·)).splitOn '/' = [] :: parts := by
  have joined := @splitOn_parts parts [] (List.forall_mem_cons.mpr ⟨List.not_mem_nil, clear⟩)
  rwa [List.nil_append] at joined

/-- Parts joined by slashes are the segments of what they make up, but for an empty one at the end. -/
theorem segments_joined (clear : ∀ part ∈ parts, '/' ∉ part ∧ '?' ∉ part)
    (marked : ∀ char, query.head? = some char → char = '?') :
    segments (parts.flatMap ('/' :: ·) ++ query) =
      some (if parts.getLast? = some [] then parts.dropLast else parts) := by
  rw [segments, (span_query (fun part listed => (clear part listed).2) marked).1,
    splitOn_joined fun part listed => (clear part listed).1]

theorem segments_join (given : ∀ part ∈ parts, part ≠ [])
    (clear : ∀ part ∈ parts, '/' ∉ part ∧ '?' ∉ part)
    (marked : ∀ char, query.head? = some char → char = '?') :
    segments (parts.flatMap ('/' :: ·) ++ query) = some parts := by
  have last : parts.getLast? ≠ some [] := by
    intro found
    exact given [] (List.mem_of_getLast? found) rfl
  rw [segments_joined clear marked, if_neg last]

end Paths

end Router

end A2A.Library
