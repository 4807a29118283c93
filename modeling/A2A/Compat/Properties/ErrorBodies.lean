import A2A.Compat.Errors
import A2A.Errors.Properties.RoundTrips
import A2A.Errors.Properties.Totality

namespace A2A.Compat

open Library Errors

/-- `String` of an integer: its digits where it is safe, and otherwise no code of the table and no
name that objects inherit. -/
structure PrintsNumbers (printer : Printer) : Prop where
  digits : printer.PrintsIntegers
  strange : ∀ number : Int, 2 ^ 53 ≤ number.natAbs →
    printer.number number ∉ jsonRpcCodeToError.map Prod.fst ∧ printer.number number ∉ objectPrototype

section Keys

variable {printer : Printer} (prints : PrintsNumbers printer) (code : Int)
include prints

theorem number_not_inherited : printer.number code ∉ objectPrototype := by
  rcases Nat.lt_or_ge code.natAbs (2 ^ 53) with small | large
  · have unreadable : ∀ key ∈ objectPrototype, Decimal.parseInt key = none := by decide +kernel
    intro inherited
    have read := unreadable _ inherited
    rw [prints.digits code small, Decimal.parseInt_toString_int] at read
    cases read
  · exact (prints.strange code large).2

/-- A code is read under the text of no other code. -/
theorem code_of_lookup {errorClass : ErrorClass}
    (found : OrderedMap.lookup jsonRpcCodeToError (printer.number code) = some errorClass) :
    errorClass.jsonRpcCode = code := by
  have listed := OrderedMap.mem_of_lookup found
  rcases Nat.lt_or_ge code.natAbs (2 ^ 53) with small | large
  · rw [prints.digits code small] at listed
    obtain ⟨same, -, text⟩ := List.mem_map.mp listed
    rw [Prod.mk.injEq] at text
    rw [← text.2]
    exact Decimal.toString_injective text.1
  · exact absurd (List.mem_map_of_mem listed) (prints.strange code large).1

end Keys

section Bodies

variable (printer : Printer) (message : String)

/-- An error with the given message and envelope, of any class. -/
theorem construct_text (errorClass : ErrorClass) (transport : TransportContext) :
    ∃ error, errorClass.construct printer (some (.string message)) none transport = .ok error ∧
      error.name = errorClass.name ∧ error.message = message ∧ error.transport = transport :=
  ⟨_, rfl, rfl, rfl, rfl⟩

theorem constructGeneric_text (name : String) (transport : TransportContext) :
    ∃ error, constructGeneric name printer (some (.string message)) transport = .ok error ∧
      error.message = message ∧ error.transport = transport :=
  ⟨_, rfl, rfl, rfl⟩

theorem toCompatErrorBody_envelope {error : A2AError} {code : JsonValue} {data : Option JsonValue}
    (envelope : error.transport = .jsonrpc (some code) data) :
    toCompatErrorBody (.a2a error) = ⟨code, error.message, data⟩ := by
  simp only [toCompatErrorBody, envelope, Option.getD_some]

theorem toCompatErrorBody_semantic {error : A2AError} {errorClass : ErrorClass} (name : error.name = errorClass.name)
    (plain : error.transport = .none) :
    toCompatErrorBody (.a2a error) = ⟨.number errorClass.jsonRpcCode, error.message, none⟩ := by
  simp only [toCompatErrorBody, plain, name, lookup_name]

variable {printer}

/-- The body of a facade error is what it was made of. -/
theorem makeA2AError_body (prints : PrintsNumbers printer) (code : Int) (data : Option JsonValue) :
    ∃ error, makeA2AError printer code message data = .ok error ∧
      toCompatErrorBody (.a2a error) = ⟨.number code, message, data⟩ := by
  have own := number_not_inherited prints code
  unfold makeA2AError
  cases found : OrderedMap.lookup jsonRpcCodeToError (printer.number code) with
  | some errorClass =>
      simp only [readProperty, found]
      have wire := code_of_lookup prints code found
      cases data with
      | none =>
          obtain ⟨error, made, name, text, plain⟩ := construct_text printer message errorClass .none
          refine ⟨error, made, ?_⟩
          rw [toCompatErrorBody_semantic name plain, wire, text]
      | some data =>
          obtain ⟨error, made, -, text, envelope⟩ :=
            construct_text printer message errorClass (.jsonrpc (some (.number code)) (some data))
          refine ⟨error, made, ?_⟩
          rw [toCompatErrorBody_envelope envelope, text]
  | none =>
      simp only [readProperty, found, if_neg own]
      have classed (errorClass : ErrorClass) :
          ∃ error, errorClass.construct printer (some (.string message)) none (.jsonrpc (some (.number code)) data) =
              .ok error ∧ toCompatErrorBody (.a2a error) = ⟨.number code, message, data⟩ := by
        obtain ⟨error, made, -, text, envelope⟩ :=
          construct_text printer message errorClass (.jsonrpc (some (.number code)) data)
        exact ⟨error, made, by rw [toCompatErrorBody_envelope envelope, text]⟩
      split
      · exact classed .unsupportedOperation
      · split
        · exact classed .requestMalformed
        · obtain ⟨error, made, text, envelope⟩ :=
            constructGeneric_text printer message "JsonRpcTransportError" (.jsonrpc (some (.number code)) data)
          exact ⟨error, made, by rw [toCompatErrorBody_envelope envelope, text]⟩

/-- A body that is received gives an error with its message, its code and its data. -/
theorem fromJsonRpcErrorResponse_body (prints : PrintsNumbers printer) (code : Int) (data : Option JsonValue) :
    ∃ received,
      fromJsonRpcErrorResponse printer (JsonRpcError.toJson ⟨.number code, message, data⟩) = .ok received ∧
        received.message = message ∧ received.transport = .jsonrpc (some (.number code)) data := by
  have fields : field (JsonRpcError.toJson ⟨.number code, message, data⟩) "code" = some (.number code) ∧
      field (JsonRpcError.toJson ⟨.number code, message, data⟩) "message" = some (.string message) ∧
      field (JsonRpcError.toJson ⟨.number code, message, data⟩) "data" = data := by
    cases data <;> exact ⟨rfl, rfl, rfl⟩
  obtain ⟨codeField, messageField, dataField⟩ := fields
  have key : propertyKey printer (some (.number code)) = .ok (printer.number code) := rfl
  rw [fromJsonRpcErrorResponse_eq printer (by simp [JsonRpcError.toJson]), codeField, messageField, dataField, key]
  simp only [bind, Except.bind]
  cases named : semanticName (printer.number code) with
  | own errorClass =>
      obtain ⟨error, made, -, text, envelope⟩ :=
        construct_text printer message errorClass (.jsonrpc (some (.number code)) data)
      exact ⟨error, made, text, envelope⟩
  | inherited => exact absurd ((semanticName_inherited_iff _).mp named) (number_not_inherited prints code)
  | absent => exact constructGeneric_text printer message _ _

/-- Code, message and data go through the legacy body and back, whatever the code stands for. -/
theorem legacyErrors_keep {printer : Printer} (prints : PrintsNumbers printer) (code : Int) (message : String)
    (data : Option (List (String × JsonValue))) :
    ∃ error, makeA2AError printer code message (data.map .object) = .ok error ∧
      toCompatErrorBody (.a2a error) = ⟨.number code, message, data.map .object⟩ ∧
      ∃ received, fromJsonRpcErrorResponse printer (toCompatErrorBody (.a2a error)).toJson = .ok received ∧
        received.message = message ∧
        received.transport = .jsonrpc (some (.number code)) (data.map .object) := by
  obtain ⟨error, made, body⟩ := makeA2AError_body message prints code (data.map .object)
  refine ⟨error, made, body, ?_⟩
  rw [body]
  exact fromJsonRpcErrorResponse_body message prints code (data.map .object)

/-- Prints a safe number in full, and the leading part of any other with an exponent. -/
def exponentPrinter : Printer where
  number value :=
    if value.num.natAbs < 2 ^ 53 then toString value.num else toString (value.num / 10 ^ 15) ++ "e+15"

theorem exponentPrinter_prints : PrintsNumbers exponentPrinter := by
  refine ⟨fun number small => if_pos small, fun number large => ?_⟩
  have text : exponentPrinter.number number = toString (number / 10 ^ 15) ++ "e+15" :=
    if_neg (Nat.not_lt.mpr large)
  have signed : '+' ∈ (exponentPrinter.number number).toList := by
    rw [text, String.toList_append]
    exact List.mem_append_right _ (by decide)
  have unsigned : ∀ key ∈ jsonRpcCodeToError.map Prod.fst ++ objectPrototype, '+' ∉ key.toList := by
    decide +kernel
  exact ⟨fun listed => unsigned _ (List.mem_append_left _ listed) signed,
    fun inherited => unsigned _ (List.mem_append_right _ inherited) signed⟩

theorem legacyErrors_keep_missingTask :
    PrintsNumbers exponentPrinter ∧
      ∃ error, makeA2AError exponentPrinter (-32001) "gone" (some (.object [("taskId", .string "t1")])) = .ok error ∧
        toCompatErrorBody (.a2a error) =
          ⟨.number (-32001 : Int), "gone", some (.object [("taskId", .string "t1")])⟩ ∧
        ∃ received, fromJsonRpcErrorResponse exponentPrinter (toCompatErrorBody (.a2a error)).toJson = .ok received ∧
          received.message = "gone" ∧ received.transport =
            .jsonrpc (some (.number (-32001 : Int))) (some (.object [("taskId", .string "t1")])) :=
  ⟨exponentPrinter_prints, legacyErrors_keep exponentPrinter_prints (-32001) "gone" (some [("taskId", .string "t1")])⟩

end Bodies

end A2A.Compat
