import A2A.Client.Properties.Routes
import A2A.Client.RestExchanges
import A2A.Server.Transports.RestMethods

namespace A2A.Client

open Library Errors Server

/-! The query behind the path of a call, and what the routes read of it. -/

/-- What stands behind the question mark of a path. -/
def behindQuestionMark (path : List Char) : List Char := (path.dropWhile (· ≠ '?')).tail

section Params

theorem setIfTruthy_eq (name value : String) :
    setIfTruthy name value = setIfPresent name (if value = "" then none else some value) := by
  rw [setIfTruthy]
  split <;> rfl

/-- The parameters that the query of a call holds. -/
def RestCall.queryParams : RestCall → List (String × String)
  | .getTask _ _ historyLength => setIfPresent "historyLength" (historyLength.map toString)
  | .listTasks params =>
      setIfTruthy "contextId" params.contextId ++
        setIfPresent "status" (if params.status = .unspecified then none else some (taskStateToJSON params.status)) ++
        setIfPresent "pageSize" (params.pageSize.map toString) ++
        setIfTruthy "pageToken" params.pageToken ++
        setIfPresent "historyLength" (params.historyLength.map toString) ++
        setIfTruthy "statusTimestampAfter" (params.statusTimestampAfter.getD "") ++
        setIfPresent "includeArtifacts" (params.includeArtifacts.map toString)
  | _ => []

theorem query_queryParams (call : RestCall) : call.query = Client.query call.queryParams := by
  cases call <;> rfl

/-- The names of the parameters, in their order. -/
def queryNames : List String :=
  ["contextId", "status", "pageSize", "pageToken", "historyLength", "statusTimestampAfter", "includeArtifacts"]

theorem names_setIfPresent (name : String) (value : Option String) :
    ((setIfPresent name value).map Prod.fst).Sublist [name] := by
  cases value with
  | none => exact List.nil_sublist _
  | some value => exact List.Sublist.refl _

theorem names_queryParams (call : RestCall) : (call.queryParams.map Prod.fst).Sublist queryNames := by
  cases call with
  | getTask tenant id historyLength =>
      exact (names_setIfPresent _ _).trans (by decide)
  | listTasks params =>
      simp only [RestCall.queryParams, setIfTruthy_eq, List.map_append]
      exact ((((((names_setIfPresent _ _).append (names_setIfPresent _ _)).append (names_setIfPresent _ _)).append
        (names_setIfPresent _ _)).append (names_setIfPresent _ _)).append (names_setIfPresent _ _)).append
          (names_setIfPresent _ _)
  | _ => exact List.nil_sublist _

end Params

section Forms

open Percent

/-- `decodeURIComponent`, where a plus is a space. -/
def formDecode (text : List Char) : List Char :=
  (decode (text.map fun char => if char = '+' then ' ' else char)).getD text

def readPair (pair : List Char) : String × JsonValue :=
  (.ofList (formDecode (pair.takeWhile (· ≠ '='))), .string (.ofList (formDecode (pair.dropWhile (· ≠ '=')).tail)))

/-- The pairs of a query, in the way of `querystring.parse`. -/
def readForm (text : List Char) : List (String × JsonValue) :=
  if text = [] then [] else (text.splitOn '&').map readPair

theorem mem_formEncode {char : Char} {text : List Char} (member : char ∈ formEncode text) :
    char = '+' ∨ formKept char = true ∨ char = '%' ∨ char ∈ digits := by
  obtain ⟨source, -, written⟩ := List.mem_flatMap.mp member
  split at written
  · exact .inl (List.mem_singleton.mp written)
  · have escaped : char ∈ escape formKept [source] := List.mem_flatMap.mpr ⟨source, List.mem_singleton_self _, written⟩
    exact .inr (mem_escape escaped)

theorem formDecode_formEncode (text : List Char) : formDecode (formEncode text) = text := by
  have spaced : (formEncode text).map (fun char => if char = '+' then ' ' else char) =
      escape (fun char => formKept char || char = ' ') text := by
    rw [formEncode, escape, List.map_flatMap]
    refine List.flatMap_congr fun char _ => ?_
    by_cases space : char = ' '
    · rw [if_pos space, space]
      decide
    · have plain : '+' ∉ escapeChar formKept char := by
        intro member
        have escaped : '+' ∈ escape formKept [char] := List.mem_flatMap.mpr ⟨char, List.mem_singleton_self _, member⟩
        exact absurd (mem_escape escaped) (by decide)
      have same : escapeChar (fun char => formKept char || char = ' ') char = escapeChar formKept char := by
        rw [escapeChar, escapeChar, decide_eq_false space, Bool.or_false]
      rw [if_neg space, same]
      refine (List.map_congr_left fun other member => ?_).trans (List.map_id _)
      exact if_neg fun (plus : other = '+') => plain (plus ▸ member)
  have read := @decode_escape_append (fun char => formKept char || decide (char = ' ')) (by decide) text []
    List.not_mem_nil
  rw [List.append_nil, List.append_nil] at read
  rw [formDecode, spaced, read, Option.getD_some]

/-- What `URLSearchParams` writes of a pair. -/
def writePair (entry : String × String) : List Char :=
  formEncode entry.1.toList ++ '=' :: formEncode entry.2.toList

theorem readPair_writePair (entry : String × String) :
    readPair (writePair entry) = (entry.1, .string entry.2) := by
  have before : ∀ char ∈ formEncode entry.1.toList, decide (char ≠ '=') = true := by
    intro char member
    refine decide_eq_true fun same => ?_
    rw [same] at member
    exact absurd (mem_formEncode member) (by decide)
  rw [readPair, writePair, List.takeWhile_append_of_pos before, List.dropWhile_append_of_pos before]
  have key : formDecode (formEncode entry.1.toList) = entry.1.toList := formDecode_formEncode _
  have value : formDecode (formEncode entry.2.toList) = entry.2.toList := formDecode_formEncode _
  simp [key, value]

/-- A query that was written is read back. -/
theorem readForm_formString (params : List (String × String)) :
    readForm (formString params) = params.map fun entry => (entry.1, .string entry.2) := by
  have written : formString params = ['&'].intercalate (params.map writePair) := rfl
  cases params with
  | nil => rfl
  | cons first rest =>
      have separate : ∀ pair ∈ (first :: rest).map writePair, '&' ∉ pair := by
        intro pair listed member
        obtain ⟨entry, -, rfl⟩ := List.mem_map.mp listed
        rcases List.mem_append.mp member with key | value
        · exact absurd (mem_formEncode key) (by decide)
        · rcases List.mem_cons.mp value with equals | value
          · exact absurd equals (by decide)
          · exact absurd (mem_formEncode value) (by decide)
      have filled : formString (first :: rest) ≠ [] := by
        intro empty
        have split := List.splitOn_intercalate '&' separate (List.cons_ne_nil _ _)
        rw [← written, empty, List.map_cons, List.splitOn_nil] at split
        exact List.cons_ne_nil _ _ (List.append_eq_nil_iff.mp (List.cons.inj split).1.symm).2
      rw [readForm, if_neg filled, written, List.splitOn_intercalate '&' separate (List.cons_ne_nil _ _), List.map_map]
      exact List.map_congr_left fun entry _ => readPair_writePair entry

theorem parseInt_state (state : TaskState) : Decimal.parseInt (taskStateToJSON state) = none := by
  cases state <;> decide +kernel

/-- A language whose numbers are integers. -/
def formLanguage : QueryLanguage where
  parse := readForm
  parse_formString params _ _ _ := readForm_formString params
  number := Decimal.parseInt
  number_integer := Decimal.parseInt_toString_int
  number_state := parseInt_state

end Forms

section Parsing

variable (language : QueryLanguage)

/-- The query, as it has been parsed. -/
def RestCall.parsedQuery (call : RestCall) : List (String × JsonValue) :=
  call.queryParams.map fun entry => (entry.1, .string entry.2)

theorem behindQuestionMark_query {path : List Char} (plain : '?' ∉ path) (params : List (String × String)) :
    behindQuestionMark (path ++ Client.query params) = formString params := by
  have through : ∀ char ∈ path, decide (char ≠ '?') = true := by
    intro char member
    exact decide_eq_true fun same => plain (same ▸ member)
  rw [behindQuestionMark, List.dropWhile_append_of_pos through, Client.query]
  split
  · rename_i empty
    rw [empty]
    rfl
  · rfl

theorem parse_queryParams (call : RestCall) : language.parse (formString call.queryParams) = call.parsedQuery := by
  have names := names_queryParams call
  refine language.parse_formString call.queryParams (names.nodup (by decide)) ?_ ?_
  · have short := names.length_le
    rw [List.length_map] at short
    exact short.trans (by decide)
  · intro entry member
    have named : entry.1 ∈ queryNames := names.subset (List.mem_map_of_mem member)
    exact (by decide +kernel : ∀ name ∈ queryNames, name.toList.all Char.isAlpha = true) entry.1 named

/-- The query of a call is parsed to its parameters. -/
theorem parse_request_query {call : RestCall} (named : call.Named) :
    language.parse (behindQuestionMark call.request.path) = call.parsedQuery := by
  have plain : '?' ∉ RestCall.joined call.pieces := by
    intro member
    obtain ⟨part, listed, inPart⟩ := List.mem_flatMap.mp member
    obtain ⟨piece, isPiece, rfl⟩ := List.mem_map.mp listed
    rcases List.mem_cons.mp inPart with slash | inRaw
    · exact absurd slash (by decide)
    · exact Router.not_mem_raw (by decide) (by decide) (by decide) (RestCall.pieces_proper named piece isPiece) inRaw
  rw [RestCall.path_pieces, query_queryParams, behindQuestionMark_query plain, parse_queryParams]

end Parsing

section Reading

variable (language : QueryLanguage)

theorem lookup_setIfPresent (name key : String) (value : Option String) :
    OrderedMap.lookup ((setIfPresent name value).map fun entry => (entry.1, JsonValue.string entry.2)) key =
      if name = key then value.map .string else none := by
  cases value with
  | none => exact (ite_self none).symm
  | some value => rfl

theorem tenant_not_mem_parsedQuery (call : RestCall) : "tenant" ∉ call.parsedQuery.map Prod.fst := by
  intro member
  rw [RestCall.parsedQuery, List.map_map] at member
  exact absurd ((names_queryParams call).subset member) (by decide)

theorem queryText_given (value : String) :
    queryText ((if value = "" then none else some value).map JsonValue.string) = value := by
  by_cases empty : value = ""
  · rw [if_pos empty, empty]
    rfl
  · rw [if_neg empty]
    rfl

theorem toString_int_ne_empty (value : Int) : toString value ≠ "" := by
  intro empty
  have read := Decimal.parseInt_toString_int value
  rw [empty] at read
  exact absurd read (ne_of_eq_of_ne (by decide : Decimal.parseInt "" = none) (Option.some_ne_none value).symm)

theorem queryNumber_given (value : Option Int) :
    RestTransportHandler.queryNumber language ((value.map toString).map JsonValue.string) = value := by
  cases value with
  | none => rfl
  | some value =>
      have text : queryText (((some value).map toString).map JsonValue.string) = toString value := rfl
      rw [RestTransportHandler.queryNumber, text, if_neg (toString_int_ne_empty value), language.number_integer]

theorem taskStateFromJSON_toJSON (state : TaskState) :
    taskStateFromJSON (.string (taskStateToJSON state)) = state := by
  cases state <;> decide +kernel

theorem queryState_given (state : TaskState) :
    RestTransportHandler.queryState language
      ((if state = .unspecified then none else some (taskStateToJSON state)).map JsonValue.string) = state := by
  by_cases unspecified : state = .unspecified
  · rw [if_pos unspecified, unspecified]
    rfl
  · have text : queryText ((some (taskStateToJSON state)).map JsonValue.string) = taskStateToJSON state := rfl
    have filled : taskStateToJSON state ≠ "" := by
      cases state <;> decide
    rw [if_neg unspecified, RestTransportHandler.queryState, text, if_neg filled, language.number_state]
    exact taskStateFromJSON_toJSON state

theorem parseIncludeArtifacts_given (flag : Option Bool) :
    RestTransportHandler.parseIncludeArtifacts ((flag.map toString).map JsonValue.string) = flag.getD false := by
  cases flag with
  | none => rfl
  | some flag => cases flag <;> decide

/-- The filters that a route reads of the query: a timestamp that is empty counts for none, and artifacts that are not
asked for are declined. -/
theorem listTasksParams_given (params : ListTasksRequest) (tenant : String) {query : List (String × JsonValue)}
    (reads : ∀ key, key ≠ "tenant" →
      OrderedMap.lookup query key = OrderedMap.lookup (RestCall.listTasks params).parsedQuery key) :
    RestTransportHandler.listTasksParams language tenant query =
      { params with
        tenant
        statusTimestampAfter := orUndefined params.statusTimestampAfter
        includeArtifacts := some (params.includeArtifacts.getD false) } := by
  have values (key : String) (given : key ≠ "tenant") : OrderedMap.lookup query key = _ := reads key given
  simp only [RestCall.parsedQuery, RestCall.queryParams, setIfTruthy_eq, List.map_append, OrderedMap.lookup_append,
    lookup_setIfPresent] at values
  have timestamp : orUndefined (some (params.statusTimestampAfter.getD "")) =
      orUndefined params.statusTimestampAfter := by
    cases params.statusTimestampAfter <;> rfl
  rw [RestTransportHandler.listTasksParams, values "contextId" (by decide), values "status" (by decide),
    values "pageSize" (by decide), values "pageToken" (by decide), values "historyLength" (by decide),
    values "statusTimestampAfter" (by decide), values "includeArtifacts" (by decide)]
  simp [-Option.map_map, queryText_given, queryNumber_given, queryState_given, parseIncludeArtifacts_given, timestamp]

end Reading

end A2A.Client
