import A2A.Compat.JsonRpc

namespace A2A.Compat

open Library Errors

/-! The v0.3 error facade, whose `new A2AError(code, message, data)` gives an error of today's classes. -/

def METHOD_NOT_FOUND : Int := -32601
def PARSE_ERROR : Int := -32700
def INVALID_REQUEST : Int := -32600

/-- `makeA2AError`.  The table is read under the text of the code. -/
def makeA2AError (printer : Printer) (code : Int) (message : String) (data : Option JsonValue) :
    Except TypeError A2AError :=
  let text := some (.string message)
  let envelope := TransportContext.jsonrpc (some (.number code)) data
  match readProperty jsonRpcCodeToError (printer.number code) with
  | .own errorClass =>
      if data.isNone then errorClass.construct printer text none .none
      else errorClass.construct printer text none envelope
  -- The table of classes has no row for a function, and `new undefined` throws.
  | .inherited => .error .thrown
  | .absent =>
      if code = METHOD_NOT_FOUND then ErrorClass.unsupportedOperation.construct printer text none envelope
      else if code = PARSE_ERROR ∨ code = INVALID_REQUEST then
        ErrorClass.requestMalformed.construct printer text none envelope
      else constructGeneric "JsonRpcTransportError" printer text envelope

end A2A.Compat
