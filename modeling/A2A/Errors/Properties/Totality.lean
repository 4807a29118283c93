import A2A.Errors.Wire

namespace A2A.Errors

open Library

/-! Which errors from the other side the decoders turn into an `A2AError`. -/

/-- A value, if there is one, that converts to a string. -/
def Printable (printer : Printer) (value : Option JsonValue) : Prop :=
  ∀ json ∈ value, (printer.print json).isSome = true

theorem errorMessage_isOk (printer : Printer) (value : Option JsonValue) :
    (errorMessage printer value).isOk = true ↔ Printable printer value := by
  rcases value with _ | value
  · simp [errorMessage, Printable, Except.isOk, Except.toBool]
  · cases value with
    | null => simp [errorMessage, Printable, Printer.print, Except.isOk, Except.toBool]
    | _ =>
        simp only [errorMessage, Printable, Option.mem_some_iff, forall_eq']
        split <;> rename_i printed <;> simp [printed, Except.isOk, Except.toBool]

/-- Constructing an error fails only where its message does not convert to a string. -/
theorem construct_isOk (errorClass : ErrorClass) (printer : Printer) (message metadata : Option JsonValue)
    (transport : TransportContext) :
    (errorClass.construct printer message metadata transport).isOk = true ↔ Printable printer message := by
  rw [← errorMessage_isOk, ErrorClass.construct]
  cases errorMessage printer message <;> rfl

theorem constructGeneric_isOk (name : String) (printer : Printer) (message : Option JsonValue)
    (transport : TransportContext) :
    (constructGeneric name printer message transport).isOk = true ↔ Printable printer message := by
  rw [← errorMessage_isOk, constructGeneric]
  cases errorMessage printer message <;> rfl

/-- What a property read finds in a table whose rows have no name that objects inherit. -/
theorem readProperty_cases {α : Type} {table : List (String × α)}
    (rows : ∀ name ∈ objectPrototype, OrderedMap.lookup table name = none) (key : String) :
    (∃ value, readProperty table key = .own value ∧ OrderedMap.lookup table key = some value ∧
        key ∉ objectPrototype) ∨
      (readProperty table key = .inherited ∧ key ∈ objectPrototype) ∨
      (readProperty table key = .absent ∧ OrderedMap.lookup table key = none ∧ key ∉ objectPrototype) := by
  cases found : OrderedMap.lookup table key with
  | some value =>
      have own : key ∉ objectPrototype := fun member => by
        rw [rows key member] at found
        cases found
      exact .inl ⟨value, by rw [readProperty, found], rfl, own⟩
  | none =>
      by_cases member : key ∈ objectPrototype
      · exact .inr (.inl ⟨by rw [readProperty, found]; exact if_pos member, member⟩)
      · exact .inr (.inr ⟨by rw [readProperty, found]; exact if_neg member, rfl, member⟩)

theorem reasons_own : ∀ name ∈ objectPrototype, OrderedMap.lookup errorSpecsByReason name = none := by
  decide +kernel

theorem codes_own : ∀ name ∈ objectPrototype, OrderedMap.lookup jsonRpcCodeToError name = none := by
  decide +kernel

theorem reservedCodes_own : ∀ name ∈ objectPrototype, OrderedMap.lookup reservedCodeToSemantic name = none := by
  decide +kernel

theorem semanticName_inherited_iff (key : String) : semanticName key = .inherited ↔ key ∈ objectPrototype := by
  rcases readProperty_cases codes_own key with ⟨value, read, _, foreign⟩ | ⟨read, member⟩ | ⟨read, _, foreign⟩
  · simp [semanticName, read, foreign]
  · simp [semanticName, read, member]
  · rcases readProperty_cases reservedCodes_own key with
      ⟨value, again, _, _⟩ | ⟨again, member⟩ | ⟨again, _, _⟩
    · simp [semanticName, read, again, foreign]
    · exact absurd member foreign
    · simp [semanticName, read, again, foreign]

/-- The JSON-RPC errors that the decoder accepts. -/
structure JsonRpcSafe (printer : Printer) (error : JsonValue) : Prop where
  present : error ≠ .null
  code : Printable printer (field error "code")
  name : ∀ code ∈ field error "code", ∀ key ∈ printer.print code, key ∉ objectPrototype
  message : Printable printer (field error "message")

theorem fromJsonRpcErrorResponse_eq (printer : Printer) {error : JsonValue} (present : error ≠ .null) :
    fromJsonRpcErrorResponse printer error = (do
      let transport := TransportContext.jsonrpc (field error "code") (field error "data")
      let key ← propertyKey printer (field error "code")
      match semanticName key with
      | .own errorClass => errorClass.construct printer (field error "message") none transport
      | .inherited => .error .thrown
      | .absent => constructGeneric "JsonRpcTransportError" printer (field error "message") transport) := by
  cases error with
  | null => exact absurd rfl present
  | _ => rfl

/-- Behind a property key, the decoder fails on an inherited name or on the message. -/
theorem semantic_isOk (printer : Printer) (key : String) (message : Option JsonValue)
    (transport : TransportContext) :
    (match semanticName key with
      | .own errorClass => errorClass.construct printer message none transport
      | .inherited => .error .thrown
      | .absent => constructGeneric "JsonRpcTransportError" printer message transport).isOk = true ↔
      key ∉ objectPrototype ∧ Printable printer message := by
  have inherited := semanticName_inherited_iff key
  have foreign (differs : semanticName key ≠ .inherited) :
      Printable printer message ↔ key ∉ objectPrototype ∧ Printable printer message :=
    (and_iff_right fun member => differs (inherited.mpr member)).symm
  cases found : semanticName key with
  | own errorClass => exact (construct_isOk ..).trans (foreign (by simp [found]))
  | inherited => simp [inherited.mp found, Except.isOk, Except.toBool]
  | absent => exact (constructGeneric_isOk ..).trans (foreign (by simp [found]))

theorem fromJsonRpcErrorResponse_isOk (printer : Printer) (error : JsonValue) :
    (fromJsonRpcErrorResponse printer error).isOk = true ↔ JsonRpcSafe printer error := by
  by_cases present : error = .null
  · subst present
    exact ⟨fun accepted => absurd accepted Bool.false_ne_true, fun safe => absurd rfl safe.present⟩
  · rw [fromJsonRpcErrorResponse_eq printer present]
    cases code : field error "code" with
    | none =>
        refine (semantic_isOk printer "undefined" (field error "message") _).trans ?_
        constructor
        · intro accepted
          exact ⟨present, by simp [code, Printable], by simp [code], accepted.2⟩
        · intro safe
          exact ⟨by decide, safe.message⟩
    | some value =>
        cases printed : printer.print value with
        | none =>
            constructor
            · intro accepted
              simp [propertyKey, printed, bind, Except.bind, Except.isOk, Except.toBool] at accepted
            · intro safe
              have convertible := safe.code value code
              simp [printed] at convertible
        | some key =>
            simp only [propertyKey, printed]
            refine (semantic_isOk printer key (field error "message") _).trans ?_
            constructor
            · intro accepted
              refine ⟨present, ?_, ?_, accepted.2⟩
              · intro json read
                rw [code] at read
                cases read
                simp [printed]
              · intro json read other same
                rw [code] at read
                cases read
                rw [printed] at same
                cases same
                exact accepted.1
            · intro safe
              exact ⟨safe.name value code key printed, safe.message⟩

/-- The REST details that name a class of `specs`. -/
def isKnown (detail : JsonValue) : Bool :=
  (reasonOf detail).any (fun reason => (OrderedMap.lookup errorSpecsByReason reason).isSome)

/-- The REST details that stop the decoder: `null`, and a reason that names what objects inherit. -/
def Faulty (detail : JsonValue) : Prop :=
  detail = .null ∨ ∃ reason ∈ reasonOf detail, reason ∈ objectPrototype

theorem findDetail_cons {detail : JsonValue} (present : detail ≠ .null) (rest : List JsonValue) :
    findDetail (detail :: rest) =
      match reasonOf detail with
      | none => findDetail rest
      | some reason =>
          match readProperty errorSpecsByReason reason with
          | .own errorClass => .ok (some (errorClass, metadataOf detail))
          | .inherited => .error .thrown
          | .absent => findDetail rest := by
  cases detail with
  | null => exact absurd rfl present
  | _ => rfl

/-- No faulty detail stands in front of the first known one. -/
theorem findDetail_isOk (details : List JsonValue) :
    (findDetail details).isOk = true ↔ ∀ detail ∈ details.takeWhile (!isKnown ·), ¬ Faulty detail := by
  induction details with
  | nil => simp [findDetail, Except.isOk, Except.toBool]
  | cons detail rest ih =>
      by_cases absent : detail = .null
      · subst absent
        have unknown : isKnown .null = false := rfl
        simp [findDetail, unknown, Faulty, Except.isOk, Except.toBool]
      · rw [findDetail_cons absent]
        cases reason : reasonOf detail with
        | none =>
            have unknown : isKnown detail = false := by simp [isKnown, reason]
            simp only [ih, List.takeWhile_cons, unknown, Bool.not_false, if_true, List.forall_mem_cons]
            simp [Faulty, reason, absent]
        | some name =>
            rcases readProperty_cases reasons_own name with
              ⟨value, read, found, _⟩ | ⟨read, member⟩ | ⟨read, missing, foreign⟩
            · have known : isKnown detail = true := by simp [isKnown, reason, found]
              simp [read, known, Except.isOk, Except.toBool]
            · have unknown : isKnown detail = false := by simp [isKnown, reason, reasons_own name member]
              simp only [read, List.takeWhile_cons, unknown, Bool.not_false, if_true,
                List.forall_mem_cons]
              simp [Faulty, reason, member, Except.isOk, Except.toBool]
            · have unknown : isKnown detail = false := by simp [isKnown, reason, missing]
              simp only [read, ih, List.takeWhile_cons, unknown, Bool.not_false, if_true,
                List.forall_mem_cons]
              simp [Faulty, reason, absent, foreign]

/-- The REST bodies that the decoder accepts. -/
structure RestSafe (printer : Printer) (body : JsonValue) : Prop where
  present : body ≠ .null
  details : ∀ detail ∈ (detailsOf body).takeWhile (!isKnown ·), ¬ Faulty detail
  message : Printable printer (field body "message")

theorem fromRestErrorBody_eq (printer : Printer) (statusCode : Int) (headers : Option JsonValue)
    {body : JsonValue} (present : body ≠ .null) :
    fromRestErrorBody printer statusCode headers body = (do
      let transport := TransportContext.rest statusCode headers
      let message :=
        if isFalsy (field body "message") then some (.string "Unknown error") else field body "message"
      let found ← findDetail (detailsOf body)
      match found with
      | some (errorClass, metadata) => errorClass.construct printer message metadata transport
      | none => constructGeneric "A2AError" printer message transport) := by
  cases body with
  | null => exact absurd rfl present
  | _ => rfl

/-- A falsy message converts to a string, and so does the text that replaces it. -/
theorem printable_or_unknown (printer : Printer) (message : Option JsonValue) :
    Printable printer (if isFalsy message then some (.string "Unknown error") else message) ↔
      Printable printer message := by
  split
  · rename_i falsy
    have replaced : Printable printer (some (.string "Unknown error")) := by simp [Printable, Printer.print]
    refine ⟨fun _ => ?_, fun _ => replaced⟩
    rcases message with _ | value
    · simp [Printable]
    · cases value <;> simp_all [isFalsy, Printable, Printer.print]
  · rfl

theorem fromRestErrorBody_isOk (printer : Printer) (statusCode : Int) (headers : Option JsonValue)
    (body : JsonValue) :
    (fromRestErrorBody printer statusCode headers body).isOk = true ↔ RestSafe printer body := by
  by_cases present : body = .null
  · subst present
    exact ⟨fun accepted => absurd accepted Bool.false_ne_true, fun safe => absurd rfl safe.present⟩
  · rw [fromRestErrorBody_eq printer statusCode headers present]
    have details := findDetail_isOk (detailsOf body)
    cases found : findDetail (detailsOf body) with
    | error failure =>
        rw [found] at details
        exact ⟨fun accepted => absurd accepted Bool.false_ne_true,
          fun safe => absurd (details.mpr safe.details) Bool.false_ne_true⟩
    | ok result =>
        rw [found] at details
        have sound := details.mp rfl
        have constructed : ∀ accepted : Prop,
            (accepted ↔ Printable printer (field body "message")) → (accepted ↔ RestSafe printer body) :=
          fun accepted same => same.trans
            ⟨fun printable => ⟨present, sound, printable⟩, fun safe => safe.message⟩
        rcases result with _ | ⟨errorClass, metadata⟩
        · exact constructed _
            ((constructGeneric_isOk _ _ _ _).trans (printable_or_unknown printer (field body "message")))
        · exact constructed _
            ((construct_isOk _ _ _ _ _).trans (printable_or_unknown printer (field body "message")))

/-- The reason of a detail of a gRPC status that is an `ErrorInfo`. -/
def grpcReasonOf (codec : StatusCodec) (detail : AnyMessage) : Option String :=
  if detail.typeUrl = errorInfoType then some (codec.decodeErrorInfo detail.value).reason else none

/-- The details of a decoded status that name a class of `specs`. -/
def isKnownInfo (codec : StatusCodec) (detail : AnyMessage) : Bool :=
  (grpcReasonOf codec detail).any (fun reason => (OrderedMap.lookup errorSpecsByReason reason).isSome)

/-- No detail whose reason names what objects inherit stands in front of the first known one. -/
theorem findErrorInfo_isOk (codec : StatusCodec) (details : List AnyMessage) :
    (findErrorInfo codec details).isOk = true ↔
      ∀ detail ∈ details.takeWhile (!isKnownInfo codec ·),
        ∀ reason ∈ grpcReasonOf codec detail, reason ∉ objectPrototype := by
  induction details with
  | nil => simp [findErrorInfo, Except.isOk, Except.toBool]
  | cons detail rest ih =>
      by_cases info : detail.typeUrl = errorInfoType
      · have reason : grpcReasonOf codec detail = some (codec.decodeErrorInfo detail.value).reason :=
          if_pos info
        rcases readProperty_cases reasons_own (codec.decodeErrorInfo detail.value).reason with
          ⟨value, read, found, _⟩ | ⟨read, member⟩ | ⟨read, missing, foreign⟩
        · have known : isKnownInfo codec detail = true := by simp [isKnownInfo, reason, found]
          simp [findErrorInfo, info, read, known, Except.isOk, Except.toBool]
        · have unknown : isKnownInfo codec detail = false := by
            simp [isKnownInfo, reason, reasons_own _ member]
          simp [findErrorInfo, info, read, unknown, reason, member, Except.isOk, Except.toBool]
        · have unknown : isKnownInfo codec detail = false := by simp [isKnownInfo, reason, missing]
          simp only [findErrorInfo, info, if_true, read, ih, List.takeWhile_cons, unknown, Bool.not_false,
            List.forall_mem_cons]
          simp [reason, foreign]
      · have reason : grpcReasonOf codec detail = none := if_neg info
        have unknown : isKnownInfo codec detail = false := by simp [isKnownInfo, reason]
        simp only [findErrorInfo, info, if_false, ih, List.takeWhile_cons, unknown, Bool.not_false, if_true,
          List.forall_mem_cons]
        simp [reason]

/-- The details of the status that a call reports. -/
def ServiceError.statusDetails (codec : StatusCodec) (error : ServiceError) : List AnyMessage :=
  ((error.statusDetailsBin.map codec.decodeStatus).map Status.details).getD []

theorem fromGrpcError_isOk (codec : StatusCodec) (printer : Printer) (error : ServiceError)
    (method : Option String) :
    (fromGrpcError codec printer error method).isOk = true ↔
      ∀ detail ∈ (error.statusDetails codec).takeWhile (!isKnownInfo codec ·),
        ∀ reason ∈ grpcReasonOf codec detail, reason ∉ objectPrototype := by
  rw [← findErrorInfo_isOk, ServiceError.statusDetails]
  have printable : ∀ text : String, Printable printer (some (.string text)) := by
    simp [Printable, Printer.print]
  cases found : findErrorInfo codec
      (((error.statusDetailsBin.map codec.decodeStatus).map Status.details).getD []) with
  | error failure =>
      simp only [fromGrpcError, found]
      rfl
  | ok result =>
      simp only [fromGrpcError, found]
      rcases result with _ | ⟨errorClass, metadata⟩
      · exact ⟨fun _ => rfl, fun _ => (constructGeneric_isOk _ _ _ _).mpr (printable _)⟩
      · exact ⟨fun _ => rfl, fun _ => (construct_isOk _ _ _ _ _).mpr (printable _)⟩

/-- The decoders give an `A2AError` exactly for what is safe: a value that is there, whose code and
message convert to strings, and no name that objects inherit in front of a known reason. -/
theorem decoders_total_iff (printer : Printer) :
    (∀ error : JsonValue,
      (fromJsonRpcErrorResponse printer error).isOk = true ↔ JsonRpcSafe printer error) ∧
    (∀ (statusCode : Int) (headers : Option JsonValue) (body : JsonValue),
      (fromRestErrorBody printer statusCode headers body).isOk = true ↔ RestSafe printer body) ∧
    (∀ (codec : StatusCodec) (error : ServiceError) (method : Option String),
      (fromGrpcError codec printer error method).isOk = true ↔
        ∀ detail ∈ (error.statusDetails codec).takeWhile (!isKnownInfo codec ·),
          ∀ reason ∈ grpcReasonOf codec detail, reason ∉ objectPrototype) :=
  ⟨fromJsonRpcErrorResponse_isOk printer, fromRestErrorBody_isOk printer,
    fun codec error method => fromGrpcError_isOk codec printer error method⟩

/-- The detail of a peer whose reason is a name that every object inherits. -/
def inheritedReason : JsonValue :=
  .object [("@type", .string errorInfoType), ("reason", .string "constructor")]

theorem fromRestErrorBody_throws :
    ¬ ∀ (printer : Printer) (statusCode : Int) (body : JsonValue), body ≠ .null →
      (fromRestErrorBody printer statusCode none body).isOk = true := by
  intro total
  have accepted := total ⟨fun number => toString number.num⟩ 500
    (.object [("message", .string "no"), ("details", .array [inheritedReason])]) (by simp)
  have safe := (fromRestErrorBody_isOk _ 500 none _).mp accepted
  have unknown : isKnown inheritedReason = false := by decide +kernel
  refine safe.details inheritedReason ?_ (.inr ⟨"constructor", by decide +kernel, by decide⟩)
  simp [detailsOf, field, OrderedMap.lookup, unknown]

end A2A.Errors
