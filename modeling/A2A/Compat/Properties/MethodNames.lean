import A2A.Compat.Methods

namespace A2A.Compat

open Library Errors Server

/-! Which method names the two protocol versions tell apart, and how they are translated. -/

/-- The listed v0.3 names of JSON-RPC and of gRPC, and those of today. -/
def legacyMethods : List String := legacyJsonRpcToV1.map Prod.fst
def legacyGrpcMethods : List String := legacyJsonRpcToLegacyGrpc.map Prod.snd
def v1Methods : List String := legacyJsonRpcToV1.map Prod.snd ++ v1MethodsWithoutLegacyEquivalent

/-- A name is translated to a listed one that is translated back, or is refused. -/
def TranslatesExactly (translate back : String → Except Thrown MethodName) (targets : List String)
    (method : String) : Prop :=
  (∃ name ∈ targets, translate method = .ok (.name name) ∧ back name = .ok (.name method)) ∨
    ∃ message, translate method = .error (invalidRequest message)

/-- What is promised of every string that a peer sends as a method. -/
structure ExactMethod (method : String) : Prop where
  legacy : isLegacyJsonRpcMethod (some (.string method)) = true ↔ method ∈ legacyMethods
  v1 : isV1JsonRpcMethod (some (.string method)) = true ↔ method ∈ v1Methods
  apart : ¬ (isLegacyJsonRpcMethod (some (.string method)) = true ∧ isV1JsonRpcMethod (some (.string method)) = true)
  jsonRpcToV1 : TranslatesExactly legacyJsonRpcToV1Method v1MethodToLegacyJsonRpc v1Methods method
  grpcToV1 : TranslatesExactly legacyGrpcToV1Method v1MethodToLegacyGrpc v1Methods method
  jsonRpcToGrpc : TranslatesExactly legacyJsonRpcToLegacyGrpcMethod legacyGrpcToLegacyJsonRpcMethod
    legacyGrpcMethods method
  grpcToJsonRpc : TranslatesExactly legacyGrpcToLegacyJsonRpcMethod legacyJsonRpcToLegacyGrpcMethod
    legacyMethods method
  composed : (legacyJsonRpcToLegacyGrpcMethod method).bind (fun mapped => legacyGrpcToV1Method mapped.key) =
    legacyJsonRpcToV1Method method

section Tables

variable {table back : List (String × String)} {method : String}

theorem tableEntry_of_lookup {mapped : String} (found : OrderedMap.lookup table method = some mapped) :
    tableEntry table method = some (.name mapped) := by
  rw [tableEntry, readProperty, found]

theorem tableEntry_of_absent (own : method ∉ inheritedNames) (absent : OrderedMap.lookup table method = none) :
    tableEntry table method = none := by
  have foreign : method ∉ objectPrototype := own
  simp only [tableEntry, readProperty, absent, if_neg foreign]

theorem inTable_iff (own : method ∉ inheritedNames) : inTable table method = true ↔ method ∈ table.map Prod.fst := by
  rw [inTable, Bool.or_eq_true, List.contains_iff_mem, List.contains_iff_mem, or_iff_left own]

/-- Two tables that invert each other translate exactly. -/
theorem lookup_translatesExactly (own : method ∉ inheritedNames) {direction : String} {targets : List String}
    {backwards : String → Except Thrown MethodName}
    (reads : ∀ name, ∀ mapped ∈ tableEntry back name, backwards name = .ok mapped)
    (inverse : ∀ entry ∈ table, OrderedMap.lookup back entry.2 = some entry.1 ∧ entry.2 ∈ targets) :
    TranslatesExactly (lookup table · direction) backwards targets method := by
  cases found : OrderedMap.lookup table method with
  | some mapped =>
      obtain ⟨inverted, listed⟩ := inverse _ (OrderedMap.mem_of_lookup found)
      refine .inl ⟨mapped, listed, ?_, reads mapped _ (tableEntry_of_lookup inverted)⟩
      simp only [lookup, tableEntry_of_lookup found]
  | none =>
      refine .inr ⟨"Unknown " ++ direction ++ " method: \"" ++ method ++ "\"", ?_⟩
      simp only [lookup, tableEntry_of_absent own found]

theorem lookup_reads (direction : String) :
    ∀ name, ∀ mapped ∈ tableEntry back name, lookup back name direction = .ok mapped := by
  intro name mapped found
  rw [Option.mem_def] at found
  simp only [lookup, found]

theorem lookupFromV1_reads (legacyTransport : String) :
    ∀ name, ∀ mapped ∈ tableEntry back name, lookupFromV1 back name legacyTransport = .ok mapped := by
  intro name mapped found
  rw [Option.mem_def] at found
  simp only [lookupFromV1, found]

end Tables

/-- By way of the v0.3 gRPC name, or directly. -/
theorem legacyJsonRpc_composed {method : String} (own : method ∉ inheritedNames) :
    (legacyJsonRpcToLegacyGrpcMethod method).bind (fun mapped => legacyGrpcToV1Method mapped.key) =
      legacyJsonRpcToV1Method method := by
  have keys : ∀ name, (OrderedMap.lookup legacyJsonRpcToLegacyGrpc name).isSome = true ↔
      (OrderedMap.lookup legacyJsonRpcToV1 name).isSome = true := fun name => by
    rw [OrderedMap.isSome_lookup, OrderedMap.isSome_lookup]
    exact Iff.rfl
  have meets : ∀ entry ∈ legacyJsonRpcToLegacyGrpc,
      OrderedMap.lookup legacyGrpcToV1 entry.2 = OrderedMap.lookup legacyJsonRpcToV1 entry.1 := by decide +kernel
  cases grpc : OrderedMap.lookup legacyJsonRpcToLegacyGrpc method with
  | none =>
      have absent : OrderedMap.lookup legacyJsonRpcToV1 method = none := by
        rw [← Option.not_isSome_iff_eq_none, ← keys, grpc]
        nofun
      simp only [legacyJsonRpcToLegacyGrpcMethod, legacyJsonRpcToV1Method, lookup,
        tableEntry_of_absent own grpc, tableEntry_of_absent own absent, Except.bind]
  | some name =>
      obtain ⟨target, direct⟩ := Option.isSome_iff_exists.mp ((keys method).mp (grpc ▸ rfl))
      have second := (meets _ (OrderedMap.mem_of_lookup grpc)).trans direct
      simp only [legacyJsonRpcToLegacyGrpcMethod, legacyJsonRpcToV1Method, legacyGrpcToV1Method, lookup,
        tableEntry_of_lookup grpc, tableEntry_of_lookup direct, Except.bind, MethodName.key,
        tableEntry_of_lookup second]

/-- The names are told apart and translated exactly, but for those that every object inherits. -/
theorem methodNames_exact_iff (method : String) : ExactMethod method ↔ method ∉ inheritedNames := by
  constructor
  · intro exact inherited
    have both (table : List (String × String)) : inTable table method = true := by
      rw [inTable, List.contains_iff_mem.mpr inherited, Bool.or_true]
    exact exact.apart ⟨both _, by rw [isV1JsonRpcMethod, both, Bool.true_or]⟩
  · intro own
    have legacy : isLegacyJsonRpcMethod (some (.string method)) = true ↔ method ∈ legacyMethods := inTable_iff own
    have v1 : isV1JsonRpcMethod (some (.string method)) = true ↔ method ∈ v1Methods := by
      rw [isV1JsonRpcMethod, Bool.or_eq_true, inTable_iff own, List.contains_iff_mem, v1Methods, List.mem_append]
      exact Iff.rfl
    refine ⟨legacy, v1, fun both => ?_, ?_, ?_, ?_, ?_, legacyJsonRpc_composed own⟩
    · have disjoint : ∀ name ∈ legacyMethods, name ∉ v1Methods := by decide +kernel
      exact disjoint method (legacy.mp both.1) (v1.mp both.2)
    · exact lookup_translatesExactly own (lookupFromV1_reads "JSON-RPC") (by decide +kernel)
    · exact lookup_translatesExactly own (lookupFromV1_reads "gRPC") (by decide +kernel)
    · exact lookup_translatesExactly own (lookup_reads "legacy gRPC") (by decide +kernel)
    · exact lookup_translatesExactly own (lookup_reads "legacy JSON-RPC") (by decide +kernel)

/-- `toString` passes for a method of both versions, and is translated to a function. -/
theorem inheritedMethod_confused :
    isLegacyJsonRpcMethod (some (.string "toString")) = true ∧ isV1JsonRpcMethod (some (.string "toString")) = true ∧
      legacyJsonRpcToV1Method "toString" = .ok (.inherited "toString") ∧ ¬ ExactMethod "toString" :=
  ⟨by decide +kernel, by decide +kernel, rfl, fun exact => exact.apart ⟨by decide +kernel, by decide +kernel⟩⟩

end A2A.Compat
