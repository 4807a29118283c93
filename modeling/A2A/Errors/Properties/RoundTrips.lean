import Mathlib.Algebra.Group.Int.Defs
import Mathlib.Algebra.Group.Nat.Defs
import A2A.Errors.Wire

namespace A2A.Errors

open Library

/-! An error on its way from the server's encoder to the client's decoder. -/

/-- `String` of an integer in the range of the safe ones. -/
def Printer.PrintsIntegers (printer : Printer) : Prop :=
  ∀ number : Int, number.natAbs < 2 ^ 53 → printer.number number = toString number

/-- The protobuf codecs return a status with one `ErrorInfo` as it was. -/
structure StatusCodec.Carries (codec : StatusCodec) (code : Int) (message : String) (info : ErrorInfo) : Prop where
  errorInfo : codec.decodeErrorInfo (codec.encodeErrorInfo info) = info
  status : codec.decodeStatus (codec.encodeStatus ⟨code, message, [⟨errorInfoType, codec.encodeErrorInfo info⟩]⟩) =
    ⟨code, message, [⟨errorInfoType, codec.encodeErrorInfo info⟩]⟩

/-- The metadata of an error as JSON. -/
def metadataJson (metadata : List (String × String)) : JsonValue :=
  .object (metadata.map (fun entry => (entry.1, .string entry.2)))

/-- An error as the server's code constructs it. -/
def ErrorClass.raise (errorClass : ErrorClass) (message : String) (metadata : List (String × String)) :
    A2AError where
  semantic := some errorClass
  name := errorClass.name
  reason := errorClass.reason
  message := message
  metadata := keptMetadata (some (metadataJson metadata))
  transport := .none

def overJsonRpc (printer : Printer) (error : A2AError) : Except TypeError A2AError :=
  fromJsonRpcErrorResponse printer (toJsonRpcError (.a2a error)).toJson

/-- The body's status is the response's. -/
def overRest (printer : Printer) (headers : Option JsonValue) (error : A2AError) :
    Except TypeError A2AError :=
  fromRestErrorBody printer (restStatusFor (.a2a error)) headers
    (toRestErrorBody (.a2a error) (restStatusFor (.a2a error)))

def overGrpc (codec : StatusCodec) (printer : Printer) (method : Option String) (error : A2AError) :
    Except TypeError A2AError :=
  fromGrpcError codec printer (toServiceError codec (.a2a error)) method

/-- The code that an error carries for its transport. -/
def A2AError.code (error : A2AError) : Option JsonValue :=
  match error.transport with
  | .none => none
  | .jsonrpc envelopeCode _ => envelopeCode
  | .rest statusCode _ => some (.number statusCode)
  | .grpc status _ => some (.number status)

/-- The decoder gives an error of the sent one's class with its message, its metadata and the
code it was sent with. -/
def Survives (sent : A2AError) (code : Int) (received : Except TypeError A2AError) : Prop :=
  ∃ error, received = .ok error ∧ error.semantic = sent.semantic ∧ error.message = sent.message ∧
    error.metadata = sent.metadata ∧ error.code = some (.number code)

section

variable (errorClass : ErrorClass) {printer : Printer} {codec : StatusCodec} (message : String)
  (metadata : List (String × String))

theorem lookup_name : OrderedMap.lookup errorSpecs errorClass.name = some errorClass := by
  cases errorClass <;> decide +kernel

theorem readProperty_reason :
    readProperty errorSpecsByReason errorClass.reason = .own errorClass := by
  cases errorClass <;> decide +kernel

/-- Every class is found again by the code it is sent with. -/
theorem semanticName_code : semanticName (toString errorClass.jsonRpcCode) = .own errorClass := by
  cases errorClass <;> decide +kernel

/-- Over JSON-RPC an error keeps its class, its message and its code, and loses its metadata. -/
theorem overJsonRpc_eq (prints : printer.PrintsIntegers) :
    ∃ data, overJsonRpc printer (errorClass.raise message metadata) = .ok {
      semantic := some errorClass
      name := errorClass.name
      reason := errorClass.reason
      message
      metadata := none
      transport := .jsonrpc (some (.number errorClass.jsonRpcCode)) data } := by
  have printed : printer.number errorClass.jsonRpcCode = toString errorClass.jsonRpcCode :=
    prints _ (by cases errorClass <;> decide)
  have encoded : toJsonRpcError (.a2a (errorClass.raise message metadata)) =
      ⟨.number errorClass.jsonRpcCode, message, some (.array [(errorClass.raise message metadata).toErrorInfo])⟩ := by
    simp only [toJsonRpcError, ErrorClass.raise, lookup_name]
  have key : propertyKey printer (some (.number errorClass.jsonRpcCode)) =
      .ok (toString errorClass.jsonRpcCode) := by
    rw [propertyKey, Printer.print, printed]
  have found : semanticName errorClass.jsonRpcCode.repr = .own errorClass := semanticName_code errorClass
  refine ⟨some (.array [(errorClass.raise message metadata).toErrorInfo]), ?_⟩
  rw [overJsonRpc, encoded]
  simp [JsonRpcError.toJson, fromJsonRpcErrorResponse, field, OrderedMap.lookup, key, found,
    ErrorClass.construct, errorMessage, Printer.print, keptMetadata, bind, Except.bind, pure, Except.pure]

/-- The metadata that `toErrorInfo` writes is what the decoder reads. -/
theorem metadataOf_toErrorInfo :
    keptMetadata (metadataOf (errorClass.raise message metadata).toErrorInfo) =
      (errorClass.raise message metadata).metadata := by
  cases metadata with
  | nil => rfl
  | cons entry rest =>
      simp [ErrorClass.raise, metadataJson, keptMetadata, A2AError.toErrorInfo, metadataOf, field,
        OrderedMap.lookup]

theorem reasonOf_toErrorInfo :
    reasonOf (errorClass.raise message metadata).toErrorInfo = some errorClass.reason := by
  simp [reasonOf, A2AError.toErrorInfo, field, OrderedMap.lookup, ErrorClass.raise]

theorem findDetail_toErrorInfo :
    findDetail [(errorClass.raise message metadata).toErrorInfo] =
      .ok (some (errorClass, metadataOf (errorClass.raise message metadata).toErrorInfo)) := by
  have reason := reasonOf_toErrorInfo errorClass message metadata
  have own := readProperty_reason errorClass
  rw [A2AError.toErrorInfo] at reason ⊢
  simp only [findDetail, reason, own]

theorem httpStatus_eq : restStatusFor (.a2a (errorClass.raise message metadata)) = errorClass.httpStatus := by
  simp [restStatusFor, ErrorClass.raise, lookup_name]

/-- Over REST an error keeps everything. -/
theorem overRest_survives (headers : Option JsonValue) (filled : message ≠ "") :
    Survives (errorClass.raise message metadata) errorClass.httpStatus
      (overRest printer headers (errorClass.raise message metadata)) := by
  have status := httpStatus_eq errorClass message metadata
  have found := findDetail_toErrorInfo errorClass message metadata
  have kept := metadataOf_toErrorInfo errorClass message metadata
  refine ⟨{
    semantic := some errorClass
    name := errorClass.name
    reason := errorClass.reason
    message
    metadata := (errorClass.raise message metadata).metadata
    transport := .rest errorClass.httpStatus headers }, ?_, rfl, rfl, rfl, rfl⟩
  have sent : (errorClass.raise message metadata).message = message := rfl
  simp [overRest, status, toRestErrorBody, fromRestErrorBody, detailsOf, field, OrderedMap.lookup, isFalsy,
    sent, filled, found, ErrorClass.construct, errorMessage, Printer.print, kept, bind, Except.bind, pure,
    Except.pure]

theorem stringMetadata_raise : stringMetadata (errorClass.raise message metadata).metadata = metadata := by
  cases metadata with
  | nil => rfl
  | cons entry rest =>
      simp [ErrorClass.raise, metadataJson, keptMetadata, stringMetadata, List.filterMap_map]

theorem grpcStatus_eq : grpcStatusFor (.a2a (errorClass.raise message metadata)) = errorClass.grpcStatus := by
  simp [grpcStatusFor, ErrorClass.raise, lookup_name]

/-- Over gRPC an error keeps everything. -/
theorem overGrpc_survives (method : Option String) (filled : message ≠ "")
    (carries : codec.Carries errorClass.grpcStatus message ⟨errorClass.reason, errorDomain, metadata⟩) :
    Survives (errorClass.raise message metadata) errorClass.grpcStatus
      (overGrpc codec printer method (errorClass.raise message metadata)) := by
  have status := grpcStatus_eq errorClass message metadata
  have strings := stringMetadata_raise errorClass message metadata
  have own := readProperty_reason errorClass
  have sent : (errorClass.raise message metadata).message = message := rfl
  have name : (errorClass.raise message metadata).name = errorClass.name := rfl
  refine ⟨{
    semantic := some errorClass
    name := errorClass.name
    reason := errorClass.reason
    message
    metadata := (errorClass.raise message metadata).metadata
    transport := .grpc errorClass.grpcStatus
      (buildGrpcErrorMetadata codec (.a2a (errorClass.raise message metadata))) }, ?_, rfl, rfl, rfl, rfl⟩
  simp [overGrpc, toServiceError, buildGrpcErrorMetadata, name, lookup_name, encodeGrpcStatusDetails, status,
    strings, sent, fromGrpcError, carries.status, findErrorInfo, carries.errorInfo, own, filled, ErrorClass.construct,
    errorMessage, Printer.print, bind, Except.bind, pure, Except.pure]
  rfl

/-- An error survives all three transports exactly when it carries no metadata.  A key that the
generated decoder would assign to `__proto__` is left to the codec. -/
theorem survives_iff (errorClass : ErrorClass) {printer : Printer} (prints : printer.PrintsIntegers)
    (codec : StatusCodec) (headers : Option JsonValue) (method : Option String) {message : String}
    (filled : message ≠ "") (metadata : List (String × String))
    (carries : "__proto__" ∉ metadata.map Prod.fst →
      codec.Carries errorClass.grpcStatus message ⟨errorClass.reason, errorDomain, metadata⟩) :
    (Survives (errorClass.raise message metadata) errorClass.jsonRpcCode
        (overJsonRpc printer (errorClass.raise message metadata)) ∧
      Survives (errorClass.raise message metadata) errorClass.httpStatus
        (overRest printer headers (errorClass.raise message metadata)) ∧
      Survives (errorClass.raise message metadata) errorClass.grpcStatus
        (overGrpc codec printer method (errorClass.raise message metadata))) ↔ metadata = [] := by
  obtain ⟨data, received⟩ := overJsonRpc_eq errorClass message metadata prints
  constructor
  · rintro ⟨⟨error, decoded, _, _, same, _⟩, _⟩
    rw [received] at decoded
    cases decoded
    cases metadata with
    | nil => rfl
    | cons entry rest => simp [ErrorClass.raise, metadataJson, keptMetadata] at same
  · rintro rfl
    exact ⟨⟨_, received, rfl, rfl, rfl, rfl⟩, overRest_survives errorClass message [] headers filled,
      overGrpc_survives errorClass message [] method filled (carries (by simp))⟩

end

/-- A field of at most 127 bytes on the protobuf wire. -/
def delimited (tag : UInt8) (bytes : List UInt8) : List UInt8 := tag :: UInt8.ofNat bytes.length :: bytes

def missingTask : ErrorInfo := ⟨"TASK_NOT_FOUND", errorDomain, []⟩

/-- The wire format on short messages, decoded where the message is the one about a missing task. -/
def shortCodec : StatusCodec where
  encodeErrorInfo info :=
    delimited 10 info.reason.toUTF8.toList ++ delimited 18 info.domain.toUTF8.toList ++
      info.metadata.flatMap (fun entry =>
        delimited 26 (delimited 10 entry.1.toUTF8.toList ++ delimited 18 entry.2.toUTF8.toList))
  decodeErrorInfo _ := missingTask
  encodeStatus status :=
    [8, UInt8.ofNat status.code.toNat] ++ delimited 18 status.message.toUTF8.toList ++
      status.details.flatMap (fun detail =>
        delimited 26 (delimited 10 detail.typeUrl.toUTF8.toList ++ delimited 18 detail.value))
  decodeStatus bytes := ⟨5, "gone", [⟨errorInfoType, bytes.drop 54⟩]⟩

theorem shortCodec_carries : shortCodec.Carries 5 "gone" missingTask where
  errorInfo := rfl
  status := by decide +kernel

/-- Prints integers in full. -/
def integerPrinter : Printer := ⟨fun number => toString number.num⟩

theorem integerPrinter_prints : integerPrinter.PrintsIntegers := fun _ _ => rfl

theorem missingTask_survives :
    "gone" ≠ "" ∧ integerPrinter.PrintsIntegers ∧ shortCodec.Carries 5 "gone" missingTask ∧
      ((Survives (ErrorClass.taskNotFound.raise "gone" []) (-32001)
          (overJsonRpc integerPrinter (ErrorClass.taskNotFound.raise "gone" [])) ∧
        Survives (ErrorClass.taskNotFound.raise "gone" []) 404
          (overRest integerPrinter none (ErrorClass.taskNotFound.raise "gone" [])) ∧
        Survives (ErrorClass.taskNotFound.raise "gone" []) 5
          (overGrpc shortCodec integerPrinter none (ErrorClass.taskNotFound.raise "gone" []))) ↔
        ([] : List (String × String)) = []) :=
  ⟨by decide, integerPrinter_prints, shortCodec_carries,
    survives_iff .taskNotFound integerPrinter_prints shortCodec none none (by decide) []
      (fun _ => shortCodec_carries)⟩

/-- Metadata that names the missing task does not reach a JSON-RPC caller. -/
theorem overJsonRpc_loses_metadata :
    ¬ ∀ (errorClass : ErrorClass) (message : String) (metadata : List (String × String)), message ≠ "" →
      Survives (errorClass.raise message metadata) errorClass.jsonRpcCode
        (overJsonRpc integerPrinter (errorClass.raise message metadata)) := by
  intro always
  obtain ⟨error, decoded, _, _, same, _⟩ := always .taskNotFound "gone" [("taskId", "xyz")] (by decide)
  obtain ⟨data, received⟩ := overJsonRpc_eq .taskNotFound "gone" [("taskId", "xyz")] integerPrinter_prints
  rw [received] at decoded
  cases decoded
  simp [ErrorClass.raise, metadataJson, keptMetadata] at same

end A2A.Errors
