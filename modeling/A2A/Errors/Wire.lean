import A2A.Errors.Base
import A2A.Library.Decimal

namespace A2A.Errors

open Library

/-! The encoders and decoders of errors: JSON-RPC envelopes, REST bodies, gRPC statuses.

The encoders look up the name of an error's class, which is no name that a plain
object inherits; the decoders look up what the other side has sent.
-/

/-- What a server may have caught. -/
inductive Thrown where
  | a2a (error : A2AError)
  | error (message : String)
  | other

/-- `JSON_RPC_ERROR_CODE` -/
def ErrorClass.jsonRpcCode : ErrorClass → Int
  | taskNotFound => -32001
  | taskNotCancelable => -32002
  | pushNotificationNotSupported => -32003
  | unsupportedOperation => -32004
  | contentTypeNotSupported => -32005
  | invalidAgentResponse => -32006
  | extendedAgentCardNotConfigured => -32007
  | extensionSupportRequired => -32008
  | versionNotSupported => -32009
  | requestMalformed => -32602

def internalErrorCode : Int := -32603

/-- `JSON_RPC_CODE_TO_ERROR` -/
def jsonRpcCodeToError : List (String × ErrorClass) :=
  ErrorClass.all.map (fun errorClass => (toString errorClass.jsonRpcCode, errorClass))

/-- `RESERVED_CODE_TO_SEMANTIC` -/
def reservedCodeToSemantic : List (String × ErrorClass) :=
  [("-32700", .requestMalformed), ("-32600", .requestMalformed), ("-32601", .requestMalformed)]

/-- The error object of a JSON-RPC response. -/
structure JsonRpcError where
  code : JsonValue
  message : String
  data : Option JsonValue

def JsonRpcError.toJson (error : JsonRpcError) : JsonValue :=
  .object
    ([("code", error.code), ("message", .string error.message)] ++
      match error.data with
      | some data => [("data", data)]
      | none => [])

def toJsonRpcError : Thrown → JsonRpcError
  | .a2a error =>
      match error.transport with
      | .jsonrpc envelopeCode _ => {
          code := envelopeCode.getD (.number internalErrorCode)
          message := error.message
          data := (OrderedMap.lookup errorSpecs error.name).map (fun _ => .array [error.toErrorInfo]) }
      | _ => {
          code :=
            match OrderedMap.lookup errorSpecs error.name with
            | some errorClass => .number errorClass.jsonRpcCode
            | none => .number internalErrorCode
          message := error.message
          data := some (.array [error.toErrorInfo]) }
  | .error message => {
      code := .number internalErrorCode
      message := if message = "" then "An unexpected error occurred." else message
      data := none }
  | .other => {
      code := .number internalErrorCode
      message := "An unexpected error occurred."
      data := none }

/-- `JSON_RPC_CODE_TO_ERROR[code] ?? RESERVED_CODE_TO_SEMANTIC[code]` -/
def semanticName (key : String) : Property ErrorClass :=
  match readProperty jsonRpcCodeToError key with
  | .absent => readProperty reservedCodeToSemantic key
  | found => found

/-- The property key that a code is read as. -/
def propertyKey (printer : Printer) : Option JsonValue → Except TypeError String
  | none => .ok "undefined"
  | some value =>
      match printer.print value with
      | some key => .ok key
      | none => .error .thrown

def fromJsonRpcErrorResponse (printer : Printer) : JsonValue → Except TypeError A2AError
  | .null => .error .thrown
  | error => do
      let code := field error "code"
      let message := field error "message"
      let transport := TransportContext.jsonrpc code (field error "data")
      let key ← propertyKey printer code
      match semanticName key with
      | .own errorClass => errorClass.construct printer message none transport
      -- The table of classes has no row for a function, and `new undefined` throws.
      | .inherited => .error .thrown
      | .absent => constructGeneric "JsonRpcTransportError" printer message transport

/-- `REST_ERROR_HTTP_STATUS` -/
def ErrorClass.httpStatus : ErrorClass → Int
  | taskNotFound => 404
  | invalidAgentResponse => 500
  | _ => 400

/-- `REST_ERROR_STATUS_NAME` -/
def ErrorClass.statusName : ErrorClass → String
  | taskNotFound => "NOT_FOUND"
  | contentTypeNotSupported | requestMalformed => "INVALID_ARGUMENT"
  | invalidAgentResponse => "INTERNAL"
  | _ => "FAILED_PRECONDITION"

def restStatusFor : Thrown → Int
  | .a2a error =>
      match error.transport with
      | .rest statusCode _ => statusCode
      | _ => ((OrderedMap.lookup errorSpecs error.name).map ErrorClass.httpStatus).getD 500
  | _ => 500

/-- The `error` member of the body. -/
def toRestErrorBody (thrown : Thrown) (httpStatus : Int) : JsonValue :=
  let message :=
    match thrown with
    | .a2a error => error.message
    | .error message => message
    | .other => "An unexpected error occurred."
  let details :=
    match thrown with
    | .a2a error => [error.toErrorInfo]
    | _ => []
  let statusName :=
    match thrown with
    | .a2a error => ((OrderedMap.lookup errorSpecs error.name).map ErrorClass.statusName).getD "UNKNOWN"
    | _ =>
        if httpStatus = 404 then "NOT_FOUND"
        else if httpStatus = 500 then "INTERNAL"
        else if httpStatus = 400 then "INVALID_ARGUMENT"
        else "UNKNOWN"
  .object [("code", .number httpStatus), ("status", .string statusName), ("message", .string message),
    ("details", .array details)]

/-- `!value` -/
def isFalsy : Option JsonValue → Bool
  | none | some .null | some (.bool false) => true
  | some (.number value) => value = 0
  | some (.string value) => value = ""
  | _ => false

/-- The reason of a detail that is an `ErrorInfo`. -/
def reasonOf (detail : JsonValue) : Option String :=
  match field detail "@type", field detail "reason" with
  | some (.string type), some (.string reason) => if type = errorInfoType then some reason else none
  | _, _ => none

/-- The metadata of a detail of this protocol's domain. -/
def metadataOf (detail : JsonValue) : Option JsonValue :=
  match field detail "domain", field detail "metadata" with
  | some (.string domain), some (.object fields) => if domain = errorDomain then some (.object fields) else none
  | some (.string domain), some (.array values) => if domain = errorDomain then some (.array values) else none
  | _, _ => none

/-- The loop over `details`: the first detail with a known reason, if there is one. -/
def findDetail : List JsonValue → Except TypeError (Option (ErrorClass × Option JsonValue))
  | [] => .ok none
  | .null :: _ => .error .thrown
  | detail :: rest =>
      match reasonOf detail with
      | none => findDetail rest
      | some reason =>
          match readProperty errorSpecsByReason reason with
          | .own errorClass => .ok (some (errorClass, metadataOf detail))
          | .inherited => .error .thrown
          | .absent => findDetail rest

/-- The `details` of a body, which count when they are an array. -/
def detailsOf (body : JsonValue) : List JsonValue :=
  match field body "details" with
  | some (.array details) => details
  | _ => []

def fromRestErrorBody (printer : Printer) (statusCode : Int) (headers : Option JsonValue) :
    JsonValue → Except TypeError A2AError
  | .null => .error .thrown
  | body => do
      let transport := TransportContext.rest statusCode headers
      let message :=
        if isFalsy (field body "message") then some (.string "Unknown error") else field body "message"
      let found ← findDetail (detailsOf body)
      match found with
      | some (errorClass, metadata) => errorClass.construct printer message metadata transport
      | none => constructGeneric "A2AError" printer message transport

/-- `GRPC_ERROR_STATUS` -/
def ErrorClass.grpcStatus : ErrorClass → Int
  | taskNotFound => 5
  | contentTypeNotSupported | requestMalformed => 3
  | invalidAgentResponse => 13
  | _ => 9

structure ErrorInfo where
  reason : String
  domain : String
  metadata : List (String × String)

/-- `google.protobuf.Any` -/
structure AnyMessage where
  typeUrl : String
  value : List UInt8
deriving DecidableEq

structure Status where
  code : Int
  message : String
  details : List AnyMessage
deriving DecidableEq

/-- The generated protobuf codecs. -/
structure StatusCodec where
  encodeErrorInfo : ErrorInfo → List UInt8
  decodeErrorInfo : List UInt8 → ErrorInfo
  encodeStatus : Status → List UInt8
  decodeStatus : List UInt8 → Status

/-- What a gRPC call reports: a code, its details, and the blob of `grpc-status-details-bin`. -/
structure ServiceError where
  code : Option Int
  details : Option String
  statusDetailsBin : Option (List UInt8)

def grpcStatusFor : Thrown → Int
  | .a2a error =>
      match error.transport with
      | .grpc status _ => status
      | _ => ((OrderedMap.lookup errorSpecs error.name).map ErrorClass.grpcStatus).getD 2
  | _ => 2

/-- The pairs of strings in a metadata map. -/
def stringMetadata : Option JsonValue → List (String × String)
  | some (.object fields) =>
      fields.filterMap (fun
        | (key, .string value) => some (key, value)
        | _ => none)
  | _ => []

def encodeGrpcStatusDetails (codec : StatusCodec) (status : Int) (message reason : String)
    (metadata : Option JsonValue) : List UInt8 :=
  let info := codec.encodeErrorInfo ⟨reason, errorDomain, stringMetadata metadata⟩
  codec.encodeStatus ⟨status, message, [⟨errorInfoType, info⟩]⟩

def buildGrpcErrorMetadata (codec : StatusCodec) : Thrown → Option (List UInt8)
  | .a2a error =>
      (OrderedMap.lookup errorSpecs error.name).map (fun errorClass =>
        encodeGrpcStatusDetails codec (grpcStatusFor (.a2a error)) error.message errorClass.reason
          error.metadata)
  | _ => none

/-- `mapToError` of the gRPC service. -/
def toServiceError (codec : StatusCodec) (thrown : Thrown) : ServiceError where
  code := some (grpcStatusFor thrown)
  details := some (
    match thrown with
    | .a2a error => error.message
    | .error message => message
    | .other => "Internal server error")
  statusDetailsBin := buildGrpcErrorMetadata codec thrown

/-- The loop over the details of a decoded status. -/
def findErrorInfo (codec : StatusCodec) :
    List AnyMessage → Except TypeError (Option (ErrorClass × Option JsonValue))
  | [] => .ok none
  | detail :: rest =>
      if detail.typeUrl = errorInfoType then
        let info := codec.decodeErrorInfo detail.value
        match readProperty errorSpecsByReason info.reason with
        | .own errorClass =>
            let metadata :=
              if info.domain = errorDomain then
                some (JsonValue.object (info.metadata.map (fun entry => (entry.1, .string entry.2))))
              else none
            .ok (some (errorClass, metadata))
        | .inherited => .error .thrown
        | .absent => findErrorInfo codec rest
      else findErrorInfo codec rest

/-- `text.trim()` on a text that starts with no white space. -/
def trimEnd (text : String) : String :=
  String.ofList (text.toList.reverse.dropWhile Decimal.isWhiteSpace).reverse

def fromGrpcError (codec : StatusCodec) (printer : Printer) (error : ServiceError)
    (method : Option String) : Except TypeError A2AError := do
  let status := error.statusDetailsBin.map codec.decodeStatus
  let found ← findErrorInfo codec ((status.map Status.details).getD [])
  let details := error.details.getD ""
  match found with
  | some (errorClass, metadata) =>
      let message := if details = "" then (status.map Status.message).getD "" else details
      errorClass.construct printer (some (.string message)) metadata
        (.grpc (error.code.getD errorClass.grpcStatus) error.statusDetailsBin)
  | none =>
      let suffix :=
        match method with
        | some method => if method = "" then "" else " for " ++ method
        | none => ""
      let code := error.code.getD 2
      let text := "gRPC error" ++ suffix ++ ": " ++ toString code ++ " " ++ details
      constructGeneric "A2AError" printer (some (.string (trimEnd text))) (.grpc code error.statusDetailsBin)

end A2A.Errors
