import A2A.Types

namespace A2A.Errors

open Library

/-! The error classes, their tables, and what the decoders need of the language:
property reads on plain objects and the conversion of JSON values to strings.
-/

/-- A `TypeError` that the language throws. -/
inductive TypeError where
  | thrown
deriving DecidableEq, Repr

/-- The names that every plain object inherits. -/
def objectPrototype : List String :=
  ["constructor", "__defineGetter__", "__defineSetter__", "hasOwnProperty", "__lookupGetter__",
    "__lookupSetter__", "isPrototypeOf", "propertyIsEnumerable", "toString", "valueOf", "__proto__",
    "toLocaleString"]

/-- What reading a property of a plain object gives. -/
inductive Property (α : Type) where
  | own (value : α)
  | inherited
  | absent
deriving DecidableEq, Repr

def readProperty {α : Type} (table : List (String × α)) (key : String) : Property α :=
  match OrderedMap.lookup table key with
  | some value => .own value
  | none => if key ∈ objectPrototype then .inherited else .absent

/-- `value.key` on a JSON value that is not `null`, for a key that nothing inherits. -/
def field (value : JsonValue) (key : String) : Option JsonValue :=
  match value with
  | .object fields => OrderedMap.lookup fields key
  | _ => none

/-- `String(number)`, which is left open where the number is no integer. -/
structure Printer where
  number : Rat → String

mutual

/-- `String(value)`.  An object with a `toString` of its own cannot be converted, since no JSON
value can be called. -/
def Printer.print (printer : Printer) : JsonValue → Option String
  | .null => some "null"
  | .bool value => some (if value then "true" else "false")
  | .number value => some (printer.number value)
  | .string value => some value
  | .array values => printer.join values
  | .object fields =>
      match OrderedMap.lookup fields "toString" with
      | some _ => none
      | none => some "[object Object]"

/-- `values.join(",")`, where `null` is empty. -/
def Printer.join (printer : Printer) : List JsonValue → Option String
  | [] => some ""
  | [.null] => some ""
  | [value] => printer.print value
  | .null :: rest => (printer.join rest).map (fun tail => "," ++ tail)
  | value :: rest => do
      let first ← printer.print value
      let tail ← printer.join rest
      return first ++ "," ++ tail

end

/-- The semantic error classes of `specs`. -/
inductive ErrorClass where
  | taskNotFound
  | taskNotCancelable
  | pushNotificationNotSupported
  | unsupportedOperation
  | contentTypeNotSupported
  | invalidAgentResponse
  | extendedAgentCardNotConfigured
  | extensionSupportRequired
  | versionNotSupported
  | requestMalformed
deriving DecidableEq, Repr

namespace ErrorClass

def all : List ErrorClass :=
  [taskNotFound, taskNotCancelable, pushNotificationNotSupported, unsupportedOperation,
    contentTypeNotSupported, invalidAgentResponse, extendedAgentCardNotConfigured,
    extensionSupportRequired, versionNotSupported, requestMalformed]

def name : ErrorClass → String
  | taskNotFound => "TaskNotFoundError"
  | taskNotCancelable => "TaskNotCancelableError"
  | pushNotificationNotSupported => "PushNotificationNotSupportedError"
  | unsupportedOperation => "UnsupportedOperationError"
  | contentTypeNotSupported => "ContentTypeNotSupportedError"
  | invalidAgentResponse => "InvalidAgentResponseError"
  | extendedAgentCardNotConfigured => "ExtendedAgentCardNotConfiguredError"
  | extensionSupportRequired => "ExtensionSupportRequiredError"
  | versionNotSupported => "VersionNotSupportedError"
  | requestMalformed => "RequestMalformedError"

def reason : ErrorClass → String
  | taskNotFound => "TASK_NOT_FOUND"
  | taskNotCancelable => "TASK_NOT_CANCELABLE"
  | pushNotificationNotSupported => "PUSH_NOTIFICATION_NOT_SUPPORTED"
  | unsupportedOperation => "UNSUPPORTED_OPERATION"
  | contentTypeNotSupported => "CONTENT_TYPE_NOT_SUPPORTED"
  | invalidAgentResponse => "INVALID_AGENT_RESPONSE"
  | extendedAgentCardNotConfigured => "EXTENDED_AGENT_CARD_NOT_CONFIGURED"
  | extensionSupportRequired => "EXTENSION_SUPPORT_REQUIRED"
  | versionNotSupported => "VERSION_NOT_SUPPORTED"
  | requestMalformed => "INVALID_PARAMS"

end ErrorClass

/-- `A2A_ERROR_SPECS` -/
def errorSpecs : List (String × ErrorClass) :=
  ErrorClass.all.map (fun errorClass => (errorClass.name, errorClass))

/-- `A2A_ERROR_SPECS_BY_REASON` -/
def errorSpecsByReason : List (String × ErrorClass) :=
  ErrorClass.all.map (fun errorClass => (errorClass.reason, errorClass))

def errorDomain : String := "a2a-protocol.org"

def errorInfoType : String := "type.googleapis.com/google.rpc.ErrorInfo"

/-- What the transport variants of an error add to it. -/
inductive TransportContext where
  | none
  | jsonrpc (envelopeCode : Option JsonValue) (data : Option JsonValue)
  | rest (statusCode : Int) (headers : Option JsonValue)
  | grpc (status : Int) (statusDetailsBin : Option (List UInt8))

/-- `A2AError` and its subclasses.  `semantic` is the class of `specs` that the error is an
instance of, if there is one. -/
structure A2AError where
  semantic : Option ErrorClass
  name : String
  reason : String
  message : String
  metadata : Option JsonValue
  transport : TransportContext

/-- The constructor keeps metadata that has a key. -/
def keptMetadata : Option JsonValue → Option JsonValue
  | some (.object fields) => if fields.isEmpty then none else some (.object fields)
  | some (.array values) => if values.isEmpty then none else some (.array values)
  | _ => none

/-- The constructor's message, which `Error` converts to a string. -/
def errorMessage (printer : Printer) : Option JsonValue → Except TypeError String
  | none | some .null => .ok "An unexpected error occurred."
  | some value =>
      match printer.print value with
      | some text => .ok text
      | none => .error .thrown

/-- `new` on a semantic class or one of its transport twins. -/
def ErrorClass.construct (errorClass : ErrorClass) (printer : Printer) (message metadata : Option JsonValue)
    (transport : TransportContext) : Except TypeError A2AError := do
  let text ← errorMessage printer message
  return {
    semantic := some errorClass
    name := errorClass.name
    reason := errorClass.reason
    message := text
    metadata := keptMetadata metadata
    transport }

/-- `new` on the class `name` that no semantic class is a parent of. -/
def constructGeneric (name : String) (printer : Printer) (message : Option JsonValue)
    (transport : TransportContext) : Except TypeError A2AError := do
  let text ← errorMessage printer message
  return {
    semantic := none
    name
    reason := "INTERNAL_ERROR"
    message := text
    metadata := none
    transport }

/-- `toErrorInfo` -/
def A2AError.toErrorInfo (error : A2AError) : JsonValue :=
  .object
    ([("@type", .string errorInfoType), ("reason", .string error.reason), ("domain", .string errorDomain)] ++
      match error.metadata with
      | some metadata => [("metadata", metadata)]
      | none => [])

end A2A.Errors
