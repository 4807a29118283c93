import A2A.Compat.JsonRpcHandler

namespace A2A.Compat

open Library Errors Server

/-! The tables of method names, and the translations that read them. -/

/-- What a table holds under a name: a name, or what it inherits from `Object.prototype`. -/
inductive MethodName where
  | name (method : String)
  | inherited (property : String)
deriving DecidableEq

/-- The property key that the value is converted to. -/
def MethodName.key : MethodName → String
  | .name method => method
  | .inherited "__proto__" => "[object Object]"
  | .inherited "constructor" => "function Object() \x7b [native code] \x7d"
  | .inherited property => "function " ++ property ++ "() \x7b [native code] \x7d"

/-- `LEGACY_JSONRPC_TO_LEGACY_GRPC` -/
def legacyJsonRpcToLegacyGrpc : List (String × String) := [
  ("message/send", "SendMessage"),
  ("message/stream", "SendStreamingMessage"),
  ("tasks/get", "GetTask"),
  ("tasks/cancel", "CancelTask"),
  ("tasks/resubscribe", "TaskSubscription"),
  ("tasks/pushNotificationConfig/set", "CreateTaskPushNotificationConfig"),
  ("tasks/pushNotificationConfig/get", "GetTaskPushNotificationConfig"),
  ("tasks/pushNotificationConfig/list", "ListTaskPushNotificationConfig"),
  ("tasks/pushNotificationConfig/delete", "DeleteTaskPushNotificationConfig"),
  ("agent/getAuthenticatedExtendedCard", "GetAgentCard")]

/-- `LEGACY_GRPC_TO_LEGACY_JSONRPC` -/
def legacyGrpcToLegacyJsonRpc : List (String × String) := legacyJsonRpcToLegacyGrpc.map Prod.swap

/-- `LEGACY_GRPC_TO_V1` -/
def legacyGrpcToV1 : List (String × String) :=
  legacyJsonRpcToLegacyGrpc.filterMap (fun entry =>
    (OrderedMap.lookup legacyJsonRpcToV1 entry.1).map (entry.2, ·))

/-- `V1_TO_LEGACY_GRPC` -/
def v1ToLegacyGrpc : List (String × String) := legacyGrpcToV1.map Prod.swap

/-- `table[method]`, without a value where it is undefined. -/
def tableEntry (table : List (String × String)) (method : String) : Option MethodName :=
  match readProperty table method with
  | .own mapped => some (.name mapped)
  | .inherited => some (.inherited method)
  | .absent => none

def lookup (table : List (String × String)) (method direction : String) : Except Thrown MethodName :=
  match tableEntry table method with
  | some mapped => .ok mapped
  | none => .error (invalidRequest ("Unknown " ++ direction ++ " method: \"" ++ method ++ "\""))

def lookupFromV1 (table : List (String × String)) (method legacyTransport : String) : Except Thrown MethodName :=
  match tableEntry table method with
  | some mapped => .ok mapped
  | none =>
      if v1MethodsWithoutLegacyEquivalent.contains method then
        .error (unsupportedOperation
          ("v1.0 method \"" ++ method ++ "\" has no equivalent in v0.3 " ++ legacyTransport))
      else .error (invalidRequest ("Unknown v1.0 method: \"" ++ method ++ "\""))

def legacyJsonRpcToV1Method (method : String) : Except Thrown MethodName :=
  lookup legacyJsonRpcToV1 method "legacy JSON-RPC"

def v1MethodToLegacyJsonRpc (method : String) : Except Thrown MethodName :=
  lookupFromV1 v1ToLegacyJsonRpc method "JSON-RPC"

def legacyJsonRpcToLegacyGrpcMethod (method : String) : Except Thrown MethodName :=
  lookup legacyJsonRpcToLegacyGrpc method "legacy JSON-RPC"

def legacyGrpcToLegacyJsonRpcMethod (method : String) : Except Thrown MethodName :=
  lookup legacyGrpcToLegacyJsonRpc method "legacy gRPC"

def legacyGrpcToV1Method (method : String) : Except Thrown MethodName :=
  lookup legacyGrpcToV1 method "legacy gRPC"

def v1MethodToLegacyGrpc (method : String) : Except Thrown MethodName :=
  lookupFromV1 v1ToLegacyGrpc method "gRPC"

end A2A.Compat
