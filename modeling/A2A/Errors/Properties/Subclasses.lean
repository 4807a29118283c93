import A2A.Errors.Properties.RoundTrips

namespace A2A.Errors

open Library

/-! Classes that are derived from the SDK's, which the encoders have never seen.

A constructor runs before those of the classes below it, and the first of all
names the error after the class that `new` was called on.  A name that every
plain object inherits finds a function in the tables of the encoders, which is
no class's code; the fallback stands for it here.
-/

/-- A class declaration: its name, and what its constructor assigns behind `super`. -/
structure ClassDeclaration where
  name : String
  assignedName : Option String
  assignedReason : Option String

/-- A class with the declarations that lead to it from an SDK class, the topmost first. -/
structure DerivedClass where
  base : ErrorClass
  declarations : List ClassDeclaration

namespace DerivedClass

/-- The SDK's class itself. -/
def sdk (derived : DerivedClass) : DerivedClass := ⟨derived.base, []⟩

/-- `new.target.name` -/
def targetName (derived : DerivedClass) : String :=
  (derived.declarations.getLast?.map ClassDeclaration.name).getD derived.base.name

/-- The name that the SDK's constructors leave: a transport twin assigns the semantic class's. -/
def sdkName (derived : DerivedClass) : TransportContext → String
  | .none => derived.targetName
  | _ => derived.base.name

/-- `error.name` behind all constructors. -/
def errorName (derived : DerivedClass) (transport : TransportContext) : String :=
  derived.declarations.foldl (fun name declaration => declaration.assignedName.getD name)
    (derived.sdkName transport)

/-- `error.reason` behind all constructors. -/
def errorReason (derived : DerivedClass) : String :=
  derived.declarations.foldl (fun reason declaration => declaration.assignedReason.getD reason)
    derived.base.reason

/-- An instance.  Only a class that is derived through a transport twin has a transport's context. -/
def create (derived : DerivedClass) (message : String) (metadata : List (String × String))
    (transport : TransportContext) : A2AError where
  semantic := some derived.base
  name := derived.errorName transport
  reason := derived.errorReason
  message := message
  metadata := keptMetadata (some (metadataJson metadata))
  transport := transport

/-- The declarations leave the error with the SDK class's name: the last name that one of them
assigns is it, or none assigns a name and the class is derived through a twin or has the name itself. -/
def KeepsName (derived : DerivedClass) (transport : TransportContext) : Prop :=
  match (derived.declarations.filterMap ClassDeclaration.assignedName).getLast? with
  | some name => name = derived.base.name
  | none => derived.sdkName transport = derived.base.name

/-- The last reason that a declaration assigns, if one does, is the SDK class's. -/
def KeepsReason (derived : DerivedClass) : Prop :=
  ∀ reason ∈ (derived.declarations.filterMap ClassDeclaration.assignedReason).getLast?,
    reason = derived.base.reason

end DerivedClass

/-- What a plain instance of a semantic class has on the wires. -/
structure HasMappingOf (errorClass : ErrorClass) (error : A2AError) : Prop where
  jsonRpcCode : (toJsonRpcError (.a2a error)).code = .number errorClass.jsonRpcCode
  restStatus : restStatusFor (.a2a error) = errorClass.httpStatus
  grpcStatus : grpcStatusFor (.a2a error) = errorClass.grpcStatus

/-- The encoders write for an instance what they write for the SDK class's own, and the decoders
give that class back.  Over JSON-RPC a twin's own envelope code decides. -/
structure InheritsMapping (printer : Printer) (codec : StatusCodec) (headers : Option JsonValue)
    (method : Option String) (base : ErrorClass) (error sdk : A2AError) : Prop where
  jsonRpcCode : (toJsonRpcError (.a2a error)).code = (toJsonRpcError (.a2a sdk)).code
  restStatus : restStatusFor (.a2a error) = restStatusFor (.a2a sdk)
  restBody : ∀ httpStatus, toRestErrorBody (.a2a error) httpStatus = toRestErrorBody (.a2a sdk) httpStatus
  grpcStatus : grpcStatusFor (.a2a error) = grpcStatusFor (.a2a sdk)
  plain : error.transport = .none → HasMappingOf base error
  plainOverJsonRpc : error.transport = .none →
    (overJsonRpc printer error).map A2AError.semantic = .ok (some base)
  overJsonRpc : (overJsonRpc printer error).map A2AError.semantic =
    (overJsonRpc printer sdk).map A2AError.semantic
  overRest : (overRest printer headers error).map A2AError.semantic = .ok (some base)
  overGrpc : (overGrpc codec printer method error).map A2AError.semantic = .ok (some base)

/-- The protobuf codecs return the reason of an `ErrorInfo`, and the details of a status. -/
structure StatusCodec.CarriesReason (codec : StatusCodec) (code : Int) (message : String) (info : ErrorInfo) :
    Prop where
  reason : (codec.decodeErrorInfo (codec.encodeErrorInfo info)).reason = info.reason
  details : (codec.decodeStatus
      (codec.encodeStatus ⟨code, message, [⟨errorInfoType, codec.encodeErrorInfo info⟩]⟩)).details =
    [⟨errorInfoType, codec.encodeErrorInfo info⟩]

section Names

/-- The last assignment counts. -/
theorem foldl_assigned (assigned : ClassDeclaration → Option String) (declarations : List ClassDeclaration)
    (first : String) :
    declarations.foldl (fun value declaration => (assigned declaration).getD value) first =
      (declarations.filterMap assigned).getLast?.getD first := by
  induction declarations generalizing first with
  | nil => rfl
  | cons declaration rest ih =>
      rw [List.foldl_cons, ih]
      cases given : assigned declaration with
      | none => rw [List.filterMap_cons_none given, Option.getD_none]
      | some value =>
          rw [List.filterMap_cons_some given, List.getLast?_cons, Option.getD_some]
          cases (rest.filterMap assigned).getLast? <;> rfl

variable (derived : DerivedClass) (transport : TransportContext)

theorem errorName_eq_iff : derived.errorName transport = derived.base.name ↔ derived.KeepsName transport := by
  unfold DerivedClass.errorName DerivedClass.KeepsName
  rw [foldl_assigned]
  cases (derived.declarations.filterMap ClassDeclaration.assignedName).getLast? <;> exact Iff.rfl

theorem errorReason_eq_iff : derived.errorReason = derived.base.reason ↔ derived.KeepsReason := by
  unfold DerivedClass.errorReason DerivedClass.KeepsReason
  rw [foldl_assigned]
  cases (derived.declarations.filterMap ClassDeclaration.assignedReason).getLast? with
  | none => exact ⟨fun _ _ absent => (nomatch absent), fun _ => rfl⟩
  | some reason =>
      constructor
      · intro same found given
        rwa [← Option.some.inj given]
      · intro each
        exact each reason rfl

theorem lookup_errorSpecs {name : String} {errorClass : ErrorClass}
    (found : OrderedMap.lookup errorSpecs name = some errorClass) : name = errorClass.name := by
  obtain ⟨listed, -, same⟩ := List.mem_map.mp (OrderedMap.mem_of_lookup found)
  cases same
  rfl

theorem readProperty_errorSpecsByReason {reason : String} {errorClass : ErrorClass}
    (found : readProperty errorSpecsByReason reason = .own errorClass) : reason = errorClass.reason := by
  unfold readProperty at found
  split at found
  · rename_i value listed
    cases found
    obtain ⟨row, -, same⟩ := List.mem_map.mp (OrderedMap.mem_of_lookup listed)
    cases same
    rfl
  · split at found <;> cases found

end Names

section Decoding

variable (printer : Printer) (error : A2AError)

/-- What a REST client decodes depends on the reason alone. -/
theorem overRest_semantic (headers : Option JsonValue) :
    (overRest printer headers error).map A2AError.semantic =
      match readProperty errorSpecsByReason error.reason with
      | .own errorClass => .ok (some errorClass)
      | .inherited => .error .thrown
      | .absent => .ok none := by
  have reason : reasonOf error.toErrorInfo = some error.reason := by
    simp [reasonOf, A2AError.toErrorInfo, field, OrderedMap.lookup]
  have found : findDetail [error.toErrorInfo] =
      match readProperty errorSpecsByReason error.reason with
      | .own errorClass => .ok (some (errorClass, metadataOf error.toErrorInfo))
      | .inherited => .error .thrown
      | .absent => .ok none := by
    rw [A2AError.toErrorInfo] at reason ⊢
    cases read : readProperty errorSpecsByReason error.reason <;> simp only [findDetail, reason, read]
  have sent : detailsOf (toRestErrorBody (.a2a error) (restStatusFor (.a2a error))) = [error.toErrorInfo] := rfl
  have decoded : ∃ text : String,
      (if isFalsy (field (toRestErrorBody (.a2a error) (restStatusFor (.a2a error))) "message") then
        some (.string "Unknown error")
      else field (toRestErrorBody (.a2a error) (restStatusFor (.a2a error))) "message") = some (.string text) := by
    by_cases silent : error.message = ""
    · exact ⟨"Unknown error", by simp [toRestErrorBody, field, OrderedMap.lookup, isFalsy, silent]⟩
    · exact ⟨error.message, by simp [toRestErrorBody, field, OrderedMap.lookup, isFalsy, silent]⟩
  obtain ⟨text, written⟩ := decoded
  unfold overRest
  rw [toRestErrorBody] at sent written ⊢
  simp only [fromRestErrorBody, written, sent, found]
  cases readProperty errorSpecsByReason error.reason <;> rfl

/-- What a gRPC client decodes depends on the name alone. -/
theorem overGrpc_semantic {codec : StatusCodec} (method : Option String)
    (carries : ∀ errorClass : ErrorClass, codec.CarriesReason (grpcStatusFor (.a2a error)) error.message
      ⟨errorClass.reason, errorDomain, stringMetadata error.metadata⟩) :
    (overGrpc codec printer method error).map A2AError.semantic =
      .ok (OrderedMap.lookup errorSpecs error.name) := by
  cases named : OrderedMap.lookup errorSpecs error.name with
  | none =>
      simp [overGrpc, toServiceError, buildGrpcErrorMetadata, named, fromGrpcError, findErrorInfo,
        constructGeneric, errorMessage, Printer.print, bind, Except.bind, pure, Except.pure, Except.map]
  | some errorClass =>
      have own := readProperty_reason errorClass
      obtain ⟨reason, details⟩ := carries errorClass
      simp [overGrpc, toServiceError, buildGrpcErrorMetadata, named, encodeGrpcStatusDetails, fromGrpcError,
        details, findErrorInfo, reason, own, ErrorClass.construct, errorMessage, Printer.print, bind,
        Except.bind, pure, Except.pure, Except.map]

end Decoding

section Inheritance

variable {derived : DerivedClass} {message : String} {metadata : List (String × String)}
  {transport : TransportContext}

/-- An instance of a class that keeps name and reason is like one of the SDK's. -/
theorem create_eq_sdk (name : derived.errorName transport = derived.base.name)
    (reason : derived.errorReason = derived.base.reason) :
    derived.create message metadata transport = derived.sdk.create message metadata transport := by
  have sdkName : derived.sdk.errorName transport = derived.base.name := by
    cases transport <;> rfl
  unfold DerivedClass.create
  rw [name, reason, sdkName]
  rfl

theorem sdk_create_eq_raise : derived.sdk.create message metadata .none = derived.base.raise message metadata := rfl

theorem raise_hasMapping (errorClass : ErrorClass) (message : String) (metadata : List (String × String)) :
    HasMappingOf errorClass (errorClass.raise message metadata) where
  jsonRpcCode := by simp only [toJsonRpcError, ErrorClass.raise, lookup_name]
  restStatus := httpStatus_eq errorClass message metadata
  grpcStatus := grpcStatus_eq errorClass message metadata

/-- An instance inherits its SDK class's mapping exactly when the declarations leave name and reason alone. -/
theorem inherits_mapping_iff (derived : DerivedClass) (message : String) (metadata : List (String × String))
    (transport : TransportContext) {printer : Printer} (prints : printer.PrintsIntegers) {codec : StatusCodec}
    (carries : ∀ sent : ErrorClass,
      codec.CarriesReason (grpcStatusFor (.a2a (derived.create message metadata transport))) message
        ⟨sent.reason, errorDomain, metadata⟩)
    (headers : Option JsonValue) (method : Option String) :
    InheritsMapping printer codec headers method derived.base (derived.create message metadata transport)
        (derived.sdk.create message metadata transport) ↔
      derived.KeepsName transport ∧ derived.KeepsReason := by
  have strings : stringMetadata (derived.create message metadata transport).metadata = metadata :=
    stringMetadata_raise derived.base message metadata
  have rest := overRest_semantic printer (derived.create message metadata transport) headers
  have grpc := overGrpc_semantic printer (derived.create message metadata transport) method
    (fun sent => by rw [strings]; exact carries sent)
  rw [← errorName_eq_iff, ← errorReason_eq_iff]
  constructor
  · intro inherits
    constructor
    · rw [inherits.overGrpc] at grpc
      exact lookup_errorSpecs (Except.ok.inj grpc).symm
    · rw [inherits.overRest] at rest
      split at rest
      · rename_i errorClass found
        rw [Option.some.inj (Except.ok.inj rest)]
        exact readProperty_errorSpecsByReason found
      · cases rest
      · cases rest
  · rintro ⟨name, reason⟩
    have same : derived.create message metadata transport = derived.sdk.create message metadata transport :=
      create_eq_sdk name reason
    have restBack : (overRest printer headers (derived.create message metadata transport)).map A2AError.semantic =
        .ok (some derived.base) := by
      have held : (derived.create message metadata transport).reason = derived.base.reason := reason
      rw [rest, held, readProperty_reason]
    have grpcBack : (overGrpc codec printer method (derived.create message metadata transport)).map
        A2AError.semantic = .ok (some derived.base) := by
      have held : (derived.create message metadata transport).name = derived.base.name := name
      rw [grpc, held, lookup_name]
    exact {
      jsonRpcCode := by rw [same]
      restStatus := by rw [same]
      restBody := fun httpStatus => by rw [same]
      grpcStatus := by rw [same]
      plain := fun plain => by
        have alone : transport = .none := plain
        subst alone
        rw [same]
        exact raise_hasMapping derived.base message metadata
      plainOverJsonRpc := fun plain => by
        have alone : transport = .none := plain
        subst alone
        obtain ⟨data, received⟩ := overJsonRpc_eq derived.base message metadata prints
        rw [same, sdk_create_eq_raise, received]
        rfl
      overJsonRpc := by rw [same]
      overRest := restBack
      overGrpc := grpcBack }

end Inheritance

section Examples

/-- `class RetriedTaskNotFoundError extends TaskNotFoundError {}` -/
def retriedTaskNotFound : DerivedClass := ⟨.taskNotFound, [⟨"RetriedTaskNotFoundError", none, none⟩]⟩

/-- The same two levels down, where a constructor assigns the SDK's name again. -/
def renamedTaskNotFound : DerivedClass :=
  ⟨.taskNotFound, [⟨"RetriedTaskNotFoundError", none, none⟩, ⟨"OldTaskNotFoundError", some "TaskNotFoundError", none⟩]⟩

/-- The wire format on the statuses that tell a caller about a class, decoded by comparison. -/
def tableCodec : StatusCodec where
  encodeErrorInfo := shortCodec.encodeErrorInfo
  decodeErrorInfo bytes :=
    match ErrorClass.all.find? fun sent => shortCodec.encodeErrorInfo ⟨sent.reason, errorDomain, []⟩ = bytes with
    | some sent => ⟨sent.reason, errorDomain, []⟩
    | none => ⟨"", "", []⟩
  encodeStatus := shortCodec.encodeStatus
  decodeStatus := shortCodec.decodeStatus

theorem tableCodec_carries (sent : ErrorClass) :
    tableCodec.CarriesReason 5 "gone" ⟨sent.reason, errorDomain, []⟩ where
  reason := by cases sent <;> decide +kernel
  details := by cases sent <;> decide +kernel

theorem renamedTaskNotFound_inherits :
    integerPrinter.PrintsIntegers ∧
      (∀ sent : ErrorClass, tableCodec.CarriesReason
        (grpcStatusFor (.a2a (renamedTaskNotFound.create "gone" [] .none))) "gone" ⟨sent.reason, errorDomain, []⟩) ∧
      (InheritsMapping integerPrinter tableCodec none none .taskNotFound
          (renamedTaskNotFound.create "gone" [] .none) (renamedTaskNotFound.sdk.create "gone" [] .none) ↔
        renamedTaskNotFound.KeepsName .none ∧ renamedTaskNotFound.KeepsReason) :=
  ⟨integerPrinter_prints, tableCodec_carries,
    inherits_mapping_iff renamedTaskNotFound "gone" [] .none integerPrinter_prints tableCodec_carries none none⟩

/-- A class of its own name is an internal error over JSON-RPC. -/
theorem retriedTaskNotFound_unmapped :
    ¬ InheritsMapping integerPrinter tableCodec none none .taskNotFound (retriedTaskNotFound.create "gone" [] .none)
      (retriedTaskNotFound.sdk.create "gone" [] .none) := by
  intro inherits
  have code := (inherits.plain rfl).jsonRpcCode
  have sent : (toJsonRpcError (.a2a (retriedTaskNotFound.create "gone" [] .none))).code =
      .number internalErrorCode := rfl
  rw [sent, JsonValue.number.injEq] at code
  exact absurd code (by decide)

end Examples

end A2A.Errors
