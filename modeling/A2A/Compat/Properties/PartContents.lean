import A2A.Compat.Translate

namespace A2A.Compat

open Library

/-! The two ways a part takes to a v1.0 peer that is reached through v0.3. -/

/-- Through the JSON-RPC wire. -/
def jsonRpcWire (part : A2A.Part) : Except CompatError A2A.Part := toCompatPart part >>= toCorePart

/-- Through the protobuf wire of gRPC and REST. -/
def protobufWire (part : A2A.Part) : Except CompatError A2A.Part := do
  let compat ← toCompatPart part
  let proto ← ToProto.part compat
  let received ← FromProto.part proto
  toCorePart received

def isObject : JsonValue → Bool
  | .object _ => true
  | _ => false

/-- What a data value becomes on the protobuf wire, which drops the flag of the wrapper. -/
def wrapped (value : JsonValue) : JsonValue :=
  if isObject value then value else .object [("value", value)]

theorem wrapped_eq_iff (value : JsonValue) : wrapped value = value ↔ isObject value = true := by
  cases value <;> simp [wrapped, isObject]

/-- The content on the protobuf wire's far side. -/
def protobufContent : A2A.PartContent → A2A.PartContent
  | .data (some value) => .data (some (wrapped value))
  | content => content

variable {content : A2A.PartContent} (mediaType : String)

/-- The JSON-RPC wire carries every content, wrapped values included. -/
theorem jsonRpcWire_content (present : content ≠ .data none) :
    (jsonRpcWire ⟨some content, none, "", mediaType⟩).map A2A.Part.content = .ok (some content) := by
  cases content with
  | text value => rfl
  | raw value => simp [jsonRpcWire, toCompatPart, toCorePart, bind, Except.bind, Except.map]
  | url value => rfl
  | data value =>
      rcases value with _ | value
      · exact absurd rfl present
      · cases value <;> rfl

theorem protobufWire_content (present : content ≠ .data none) :
    (protobufWire ⟨some content, none, "", mediaType⟩).map A2A.Part.content =
      .ok (some (protobufContent content)) := by
  cases content with
  | text value => rfl
  | raw value =>
      simp [protobufWire, toCompatPart, ToProto.part, FromProto.part, toCorePart, protobufContent, bind,
        Except.bind, Except.map]
  | url value => rfl
  | data value =>
      rcases value with _ | value
      · exact absurd rfl present
      · cases value <;> rfl

/-- Both wires deliver a part's content exactly when a data part holds an object. -/
theorem part_wires_agree_iff (present : content ≠ .data none) :
    ((protobufWire ⟨some content, none, "", mediaType⟩).map A2A.Part.content =
        (jsonRpcWire ⟨some content, none, "", mediaType⟩).map A2A.Part.content ∧
      (protobufWire ⟨some content, none, "", mediaType⟩).map A2A.Part.content = .ok (some content) ∧
      (jsonRpcWire ⟨some content, none, "", mediaType⟩).map A2A.Part.content = .ok (some content)) ↔
      ∀ value, content = .data (some value) → isObject value = true := by
  rw [jsonRpcWire_content mediaType present, protobufWire_content mediaType present]
  cases content with
  | text value => simp [protobufContent]
  | raw value => simp [protobufContent]
  | url value => simp [protobufContent]
  | data value =>
      rcases value with _ | value
      · exact absurd rfl present
      · simp [protobufContent, wrapped_eq_iff]

/-- The amount and the currency of an order. -/
def orderData : JsonValue := .object [("amount", .number 5), ("currency", .string "EUR")]

theorem part_wires_agree_order :
    (A2A.PartContent.data (some orderData) ≠ .data none) ∧
      (((protobufWire ⟨some (.data (some orderData)), none, "", ""⟩).map A2A.Part.content =
          (jsonRpcWire ⟨some (.data (some orderData)), none, "", ""⟩).map A2A.Part.content ∧
        (protobufWire ⟨some (.data (some orderData)), none, "", ""⟩).map A2A.Part.content =
          .ok (some (.data (some orderData))) ∧
        (jsonRpcWire ⟨some (.data (some orderData)), none, "", ""⟩).map A2A.Part.content =
          .ok (some (.data (some orderData)))) ↔
      ∀ value, A2A.PartContent.data (some orderData) = .data (some value) → isObject value = true) :=
  ⟨by simp, part_wires_agree_iff "" (by simp)⟩

/-- A bare number reaches the peer as an object that holds it. -/
theorem protobufWire_wraps_number :
    ¬ ∀ content : A2A.PartContent, content ≠ .data none →
      (protobufWire ⟨some content, none, "", ""⟩).map A2A.Part.content =
        (jsonRpcWire ⟨some content, none, "", ""⟩).map A2A.Part.content := by
  intro agree
  have same := agree (.data (some (.number 5))) (by simp)
  rw [jsonRpcWire_content "" (by simp), protobufWire_content "" (by simp)] at same
  simp [protobufContent, wrapped, isObject] at same

end A2A.Compat
