import Mathlib.Data.List.Induction
import A2A.Server.Stores

namespace A2A.Server

open Library

/-! The context object of a call, with the extension lists that a call changes in place. -/

abbrev Extensions := List String

namespace Extensions

def createFrom (current : Option Extensions) (additional : String) : Extensions :=
  if (current.getD []).contains additional then current.getD []
  else current.getD [] ++ [additional]

/-- `addActivatedExtension` for each URI in turn. -/
def createFromAll (current : Option Extensions) (additional : List String) : Option Extensions :=
  additional.foldl (fun current uri => some (createFrom current uri)) current

@[simp] theorem createFromAll_nil (current : Option Extensions) :
    createFromAll current [] = current := rfl

theorem createFromAll_snoc (current : Option Extensions) (additional : List String) (uri : String) :
    createFromAll current (additional ++ [uri]) =
      some (createFrom (createFromAll current additional) uri) := by
  simp [createFromAll]

/-- An extension that was added once never leaves the list again. -/
theorem mem_createFromAll {current : Option Extensions} {additional : List String} {uri : String} :
    uri ∈ (createFromAll current additional).getD [] ↔ uri ∈ current.getD [] ∨ uri ∈ additional := by
  induction additional using List.reverseRecOn with
  | nil => simp
  | append_singleton additional last ih =>
      rw [createFromAll_snoc, Option.getD_some, createFrom, List.mem_append, List.mem_singleton,
        ← or_assoc, ← ih]
      split
      · rename_i present
        have present : last ∈ (createFromAll current additional).getD [] := by simpa using present
        constructor
        · exact .inl
        · rintro (listed | rfl)
          · exact listed
          · exact present
      · rw [List.mem_append, List.mem_singleton]

/-- The list of a context that started without one: each extension where it was first added. -/
theorem createFromAll_none (additional : List String) :
    createFromAll none additional =
      if additional.isEmpty then none else some additional.eraseDups := by
  induction additional using List.reverseRecOn with
  | nil => rfl
  | append_singleton additional last ih =>
      have listed : (createFromAll none additional).getD [] = additional.eraseDups := by
        rw [ih]
        cases additional <;> rfl
      rw [createFromAll_snoc, createFrom, listed, List.eraseDups_append]
      by_cases present : last ∈ additional
      · simp [present, List.removeAll]
      · simp [present, List.removeAll, List.eraseDups_cons]

end Extensions

/-- A `ServerCallContext` object.  `subclass` is what a custom context builder's own class adds
to it. -/
structure CallContext (ς : Type) extends ServerCallContext where
  requestedExtensions : Option Extensions
  activatedExtensions : Option Extensions
  subclass : Option ς
  /-- The constructor replaces a version that is missing or empty. -/
  versioned : requestedVersion ≠ ""

structure ServerCallContextOptions where
  requestedExtensions : Option Extensions
  user : Option User
  tenant : Option String
  requestedVersion : Option String
  state : Option (OrderedMap String JsonValue)

def absentHeaderVersion : String := "0.3"

/-- `options?.requestedVersion || ABSENT_HEADER_VERSION` -/
def versionOr (requestedVersion : Option String) : String :=
  match requestedVersion with
  | some version => if version = "" then absentHeaderVersion else version
  | none => absentHeaderVersion

theorem versionOr_ne_empty (requestedVersion : Option String) : versionOr requestedVersion ≠ "" := by
  unfold versionOr
  split
  · split
    · decide
    · assumption
  · decide

namespace CallContext

variable {ς : Type}

/-- `new ServerCallContext(options)` -/
def new (options : ServerCallContextOptions) : CallContext ς where
  tenant := options.tenant
  user := options.user
  requestedVersion := versionOr options.requestedVersion
  state := options.state.getD .empty
  requestedExtensions := options.requestedExtensions
  activatedExtensions := none
  subclass := none
  versioned := versionOr_ne_empty _

/-- `defaultServerCallContextBuilder` -/
def build (extensions : Option Extensions) (user : Option User) (headers : JsonValue)
    (requestedVersion tenant : Option String) : CallContext ς :=
  new {
    requestedExtensions := extensions
    user
    state := some (OrderedMap.empty.set "headers" headers)
    requestedVersion
    tenant }

def addActivatedExtension (context : CallContext ς) (uri : String) : CallContext ς :=
  { context with activatedExtensions := some (.createFrom context.activatedExtensions uri) }

def setRequestedExtensions (context : CallContext ς) (extensions : Option Extensions) :
    CallContext ς :=
  { context with requestedExtensions := extensions }

def setState (context : CallContext ς) (key : String) (value : JsonValue) : CallContext ς :=
  { context with state := context.state.set key value }

end CallContext

/-- What the parties that hold a context object do to it while the call runs. -/
inductive ContextUpdate where
  | addActivatedExtension (uri : String)
  | setRequestedExtensions (extensions : Option Extensions)
  | setState (key : String) (value : JsonValue)

def ContextUpdate.activated : ContextUpdate → Option String
  | addActivatedExtension uri => some uri
  | _ => none

/-- The extensions that a series of updates activates, in order. -/
def activations (updates : List ContextUpdate) : List String :=
  updates.filterMap ContextUpdate.activated

namespace CallContext

variable {ς : Type}

def update (context : CallContext ς) : ContextUpdate → CallContext ς
  | .addActivatedExtension uri => context.addActivatedExtension uri
  | .setRequestedExtensions extensions => context.setRequestedExtensions extensions
  | .setState key value => context.setState key value

def updateAll (context : CallContext ς) (updates : List ContextUpdate) : CallContext ς :=
  updates.foldl update context

theorem updateAll_activatedExtensions (context : CallContext ς) (updates : List ContextUpdate) :
    (context.updateAll updates).activatedExtensions =
      Extensions.createFromAll context.activatedExtensions (activations updates) := by
  induction updates generalizing context with
  | nil => rfl
  | cons first rest ih =>
      rw [updateAll, List.foldl_cons, ← updateAll, ih]
      cases first <;> rfl

end CallContext

end A2A.Server
