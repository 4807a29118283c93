import A2A.Server.Transports.EventStreams
import A2A.Types.Codec

namespace A2A.Client

open Library Errors Server

/-! Responses as the HTTP transports of the client get them, and what both need of the language to read them.

`fetch` itself does not fail here: a response has arrived, and its body can be read.
-/

section Parsing

/-- The number that a key is, where it is an array index. -/
def arrayIndex (key : String) : Option Nat :=
  let digits := key.toList
  let index := digits.foldl (fun index digit => 10 * index + (digit.toNat - '0'.toNat)) 0
  if digits ≠ [] ∧ digits.all Char.isDigit ∧ (digits.head? = some '0' → digits = ['0']) ∧ index < 2 ^ 32 - 1 then
    some index
  else none

/-- Whether an object of the language can list one key somewhere before another. -/
def listedBefore (key later : String) : Bool :=
  match arrayIndex key, arrayIndex later with
  | some index, some behind => index < behind
  | some _, none => true
  | none, some _ => false
  | none, none => key ≠ later

/-- The keys of an object of the language, in their order. -/
def ListedKeys (keys : List String) : Prop := keys.Pairwise fun key later => listedBefore key later = true

instance : DecidablePred ListedKeys :=
  fun keys => inferInstanceAs (Decidable (keys.Pairwise fun key later => listedBefore key later = true))

/-- `JSON.parse`, which gives back what `JSON.stringify` wrote. -/
structure JsonParser (format : NumberFormat) where
  parse : Text → Except String JsonValue
  parse_stringify : ∀ value : JsonValue, value.EveryObject ListedKeys →
    parse (Json.stringify format value) = .ok value

end Parsing

/-- What a call rejects with. -/
inductive ClientError where
  /-- An error of the SDK that an error response stands for. -/
  | mapped (error : A2AError)
  /-- A `TypeError` of the language. -/
  | typeError
  | syntaxError (message : String)
  | error (message : String) (cause : Option ClientError)

/-- A response that `fetch` resolves with. -/
structure FetchResponse where
  status : Int
  statusText : String
  /-- The `Content-Type` header. -/
  contentType : Option String
  /-- All of the headers, as an object. -/
  headers : JsonValue
  /-- The chunks of the body, decoded. -/
  chunks : List Text

namespace FetchResponse

def ok (response : FetchResponse) : Bool := 200 ≤ response.status && response.status ≤ 299

/-- `response.text()` -/
def text (response : FetchResponse) : Text := response.chunks.flatten

end FetchResponse

section Sending

/-- What goes out for the calls on a response. -/
structure HttpReply where
  status : Int := 200
  contentType : Option String := none
  text : Text := []

/-- The type of a text that Express sends. -/
def withCharset (type : String) : String := type ++ "; charset=utf-8"

def HttpReply.after (format : NumberFormat) (reply : HttpReply) : ResponseCall → HttpReply
  | .setHeader name values => if name = "Content-Type" then { reply with contentType := values.getLast? } else reply
  | .flushHeaders | .finish => reply
  -- the type is set unless there is one
  | .json statusCode body => {
      status := statusCode
      contentType := some (withCharset (reply.contentType.getD "application/json"))
      text := reply.text ++ Json.stringify format body }
  | .write text => { reply with text := reply.text ++ text }

def HttpReply.ofCalls (format : NumberFormat) (calls : List ResponseCall) : HttpReply :=
  calls.foldl (HttpReply.after format) {}

/-- The response arrives in full, in whichever chunks. -/
structure HttpReply.Arrives (reply : HttpReply) (response : FetchResponse) : Prop where
  status : response.status = reply.status
  contentType : response.contentType = reply.contentType
  text : response.text = reply.text

end Sending

/-- An error of the decoders. -/
def thrownBy : Thrown → ClientError
  | .a2a error => .mapped error
  | .error message => .error message none
  | .other => .typeError

/-- `value.key`, which throws on `null`. -/
def property (value : JsonValue) (key : String) : Except ClientError (Option JsonValue) :=
  match value with
  | .null => .error .typeError
  | value => .ok (field value key)

/-- `key in value`, for a key that nothing inherits. -/
def hasProperty (value : JsonValue) (key : String) : Except ClientError Bool :=
  match value with
  | .object fields => .ok (OrderedMap.lookup fields key).isSome
  | .array _ => .ok false
  | _ => .error .typeError

/-- `value` in a template literal. -/
def template (printer : Printer) (value : Option JsonValue) : Except ClientError String :=
  match propertyKey printer value with
  | .ok text => .ok text
  | .error .thrown => .error .typeError

/-- Whether an event is empty but for white space. -/
def isBlank (data : Text) : Bool := data.all Decimal.isWhiteSpace

/-- The events of a stream, processed one by one, up to the first that is refused. -/
def takeEvents (process : SseEvent → Except ClientError (Option StreamResponse)) :
    List SseEvent → Except SseSizeError Unit → List (Option StreamResponse) × Except ClientError Unit
  | [], .ok _ => ([], .ok ())
  | [], .error error => ([], .error (.error error.message none))
  | event :: rest, ended =>
      match process event with
      | .error error => ([], .error error)
      | .ok response =>
          let later := takeEvents process rest ended
          (response :: later.1, later.2)

/-- `for await (const event of parseSseStream(response))` -/
def readEvents (process : SseEvent → Except ClientError (Option StreamResponse)) (response : FetchResponse) :
    List (Option StreamResponse) × Except ClientError Unit :=
  let parsed := parseSseStream DEFAULT_MAX_SSE_EVENT_SIZE_BYTES response.chunks
  takeEvents process parsed.emitted parsed.ended

/-- Whether the response is an event stream. -/
def FetchResponse.isEventStream (response : FetchResponse) : Bool :=
  response.contentType.any fun type => "text/event-stream".toList.isPrefixOf type.toList

end A2A.Client
