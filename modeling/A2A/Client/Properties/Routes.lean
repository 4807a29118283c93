import A2A.Client.RestTransport

namespace A2A.Client

open Library Library.Router Library.DotSegments Percent Server

/-! The path of a client's call, sent through the table of the server's routes. -/

section Table

open RestHandler

/-- A piece spelled like a word and its verb. -/
def Reads (piece : Piece) (text verb : String) : Prop :=
  folded piece.text = folded text.toList ∧ folded piece.verb = folded verb.toList

instance (piece : Piece) (text verb : String) : Decidable (Reads piece text verb) :=
  inferInstanceAs (Decidable (_ ∧ _))

def Ends (piece : Piece) (verb : String) : Prop := folded piece.verb = folded verb.toList

instance (piece : Piece) (verb : String) : Decidable (Ends piece verb) :=
  inferInstanceAs (Decidable (_ = _))

/-- All of a piece, as a parameter without a verb takes it. -/
def whole (piece : Piece) : List Char := piece.text ++ piece.verb

@[simp] theorem fits_word (text verb : String) (piece : Piece) :
    (word text verb).Fits piece ↔ Reads piece text verb := Iff.rfl

@[simp] theorem binds_word (text verb : String) (piece : Piece) :
    (word text verb).binds piece = [] := rfl

@[simp] theorem fits_parameter (name : PathParam) (verb : String) (piece : Piece) :
    (parameter name verb).Fits piece ↔ verb = "" ∨ Ends piece verb := by
  simp [parameter, Segment.Fits, Ends]

@[simp] theorem binds_parameter (name : PathParam) (verb : String) (piece : Piece) :
    (parameter name verb).binds piece = [(name, if verb = "" then whole piece else piece.text)] := by
  simp [parameter, Segment.binds, whole]

-- the table is unfolded route by route
attribute [local simp] routes registerRoute route Fits binds taskPath configsPath configPath

variable (first second third fourth fifth : Piece)

theorem route_get_one : route .get [first] routes =
    if Reads first "extendedAgentCard" "" then .handled .getAuthenticatedExtendedAgentCard []
    else if Reads first "tasks" "" then .handled .listTasks []
    else .notFound := by
  simp

theorem route_get_two : route .get [first, second] routes =
    if Reads second "extendedAgentCard" "" then
      .handled .getAuthenticatedExtendedAgentCard [(.tenant, whole first)]
    else if Reads first "tasks" "" ∧ Ends second ":subscribe" then
      .handled .resubscribe [(.taskId, second.text)]
    else if Reads first "tasks" "" then .handled .getTask [(.taskId, whole second)]
    else if Reads second "tasks" "" then .handled .listTasks [(.tenant, whole first)]
    else .notFound := by
  simp

theorem route_get_three : route .get [first, second, third] routes =
    if Reads second "tasks" "" ∧ Ends third ":subscribe" then
      .handled .resubscribe [(.tenant, whole first), (.taskId, third.text)]
    else if Reads second "tasks" "" then
      .handled .getTask [(.tenant, whole first), (.taskId, whole third)]
    else if Reads first "tasks" "" ∧ Reads third "pushNotificationConfigs" "" then
      .handled .listTaskPushNotificationConfigs [(.taskId, whole second)]
    else .notFound := by
  simp

theorem route_get_four : route .get [first, second, third, fourth] routes =
    if Reads second "tasks" "" ∧ Reads fourth "pushNotificationConfigs" "" then
      .handled .listTaskPushNotificationConfigs [(.tenant, whole first), (.taskId, whole third)]
    else if Reads first "tasks" "" ∧ Reads third "pushNotificationConfigs" "" then
      .handled .getTaskPushNotificationConfig [(.taskId, whole second), (.configId, whole fourth)]
    else .notFound := by
  simp

theorem route_get_five : route .get [first, second, third, fourth, fifth] routes =
    if Reads second "tasks" "" ∧ Reads fourth "pushNotificationConfigs" "" then
      .handled .getTaskPushNotificationConfig
        [(.tenant, whole first), (.taskId, whole third), (.configId, whole fifth)]
    else .notFound := by
  simp

theorem route_post_one : route .post [first] routes =
    if Reads first "message" ":send" then .handled .sendMessage []
    else if Reads first "message" ":stream" then .handled .sendMessageStream []
    else .notFound := by
  simp

theorem route_post_two : route .post [first, second] routes =
    if Reads second "message" ":send" then .handled .sendMessage [(.tenant, whole first)]
    else if Reads second "message" ":stream" then .handled .sendMessageStream [(.tenant, whole first)]
    else if Reads first "tasks" "" ∧ Ends second ":subscribe" then
      .handled .resubscribe [(.taskId, second.text)]
    else if Reads first "tasks" "" ∧ Ends second ":cancel" then
      .handled .cancelTask [(.taskId, second.text)]
    else .notFound := by
  simp

theorem route_post_three : route .post [first, second, third] routes =
    if Reads second "tasks" "" ∧ Ends third ":subscribe" then
      .handled .resubscribe [(.tenant, whole first), (.taskId, third.text)]
    else if Reads second "tasks" "" ∧ Ends third ":cancel" then
      .handled .cancelTask [(.tenant, whole first), (.taskId, third.text)]
    else if Reads first "tasks" "" ∧ Reads third "pushNotificationConfigs" "" then
      .handled .createTaskPushNotificationConfig [(.taskId, whole second)]
    else .notFound := by
  simp

theorem route_post_four : route .post [first, second, third, fourth] routes =
    if Reads second "tasks" "" ∧ Reads fourth "pushNotificationConfigs" "" then
      .handled .createTaskPushNotificationConfig [(.tenant, whole first), (.taskId, whole third)]
    else .notFound := by
  simp

theorem route_delete_four : route .delete [first, second, third, fourth] routes =
    if Reads first "tasks" "" ∧ Reads third "pushNotificationConfigs" "" then
      .handled .deleteTaskPushNotificationConfig [(.taskId, whole second), (.configId, whole fourth)]
    else .notFound := by
  simp

theorem route_delete_five : route .delete [first, second, third, fourth, fifth] routes =
    if Reads second "tasks" "" ∧ Reads fourth "pushNotificationConfigs" "" then
      .handled .deleteTaskPushNotificationConfig
        [(.tenant, whole first), (.taskId, whole third), (.configId, whole fifth)]
    else .notFound := by
  simp

end Table

namespace RestCall

def wordPiece (text verb : String) : Piece := ⟨text.toList, verb.toList⟩

def tasksPiece : Piece := wordPiece "tasks" ""

def configsPiece : Piece := wordPiece "pushNotificationConfigs" ""

def idPiece (id verb : String) : Piece := ⟨id.toList, verb.toList⟩

/-- The path of a call as its segments are meant, behind the tenant. -/
def operationPieces : RestCall → List Piece
  | .getExtendedAgentCard _ => [wordPiece "extendedAgentCard" ""]
  | .sendMessage _ => [wordPiece "message" ":send"]
  | .sendMessageStream _ => [wordPiece "message" ":stream"]
  | .createTaskPushNotificationConfig _ taskId | .listTaskPushNotificationConfig _ taskId =>
      [tasksPiece, idPiece taskId "", configsPiece]
  | .getTaskPushNotificationConfig _ taskId id | .deleteTaskPushNotificationConfig _ taskId id =>
      [tasksPiece, idPiece taskId "", configsPiece, idPiece id ""]
  | .getTask _ id _ => [tasksPiece, idPiece id ""]
  | .cancelTask _ id => [tasksPiece, idPiece id ":cancel"]
  | .listTasks _ => [tasksPiece]
  | .resubscribeTask _ id => [tasksPiece, idPiece id ":subscribe"]

def pieces (call : RestCall) : List Piece :=
  (if call.tenant = "" then [] else [idPiece call.tenant ""]) ++ call.operationPieces

/-- Every id that the call names is given. -/
def Named (call : RestCall) : Prop := ∀ entry ∈ call.ids, entry.2 ≠ ""

instance (call : RestCall) : Decidable call.Named := List.decidableBAll _ _

def values (names : List (PathParam × String)) : List (PathParam × List Char) :=
  names.map (fun entry => (entry.1, entry.2.toList))

/-- Whether a text is spelled like a word, whatever the case of its letters. -/
def Spelled (text word : String) : Prop := folded text.toList = folded word.toList

instance (text word : String) : Decidable (Spelled text word) := by
  unfold Spelled
  infer_instance

/-- The calls whose path reads as that of another operation that is registered earlier. -/
def Captured : RestCall → Prop
  | .listTasks params => Spelled params.tenant "tasks"
  | .getTask tenant id _ => tenant = "" ∧ Spelled id "extendedAgentCard"
  | .listTaskPushNotificationConfig tenant taskId => tenant = "" ∧ Spelled taskId "tasks"
  | .getTaskPushNotificationConfig tenant taskId id =>
      tenant = "" ∧ Spelled taskId "tasks" ∧ Spelled id "pushNotificationConfigs"
  | _ => False

/-- Whether the path has this name of a call in front of a verb. -/
def verbed (call : RestCall) (name : PathParam) : Bool :=
  match call with
  | .cancelTask _ _ | .resubscribeTask _ _ => name = .taskId
  | _ => false

/-- The calls with a tenant or an id that is a dot segment of their path. -/
def Dotted (call : RestCall) : Prop :=
  ∃ entry ∈ call.names, call.verbed entry.1 = false ∧ (entry.2 = "." ∨ entry.2 = "..")

instance (call : RestCall) : Decidable call.Dotted := List.decidableBEx _ _

@[simp] theorem reads_idPiece (id verb text verb' : String) :
    Reads (idPiece id verb) text verb' ↔ Spelled id text ∧ folded verb.toList = folded verb'.toList := Iff.rfl

@[simp] theorem text_idPiece (id verb : String) : (idPiece id verb).text = id.toList := rfl

@[simp] theorem whole_idPiece (id : String) : whole (idPiece id "") = id.toList := by
  simp [whole, idPiece]

@[simp] theorem ends_idPiece (id verb verb' : String) :
    Ends (idPiece id verb) verb' ↔ folded verb.toList = folded verb'.toList := Iff.rfl

theorem route_unnamed {call : RestCall} (unnamed : call.tenant = "") :
    route call.request.method call.operationPieces RestHandler.routes =
      .handled call.operation (values call.ids) ↔ ¬ call.Captured := by
  cases call with
  | getExtendedAgentCard tenant =>
      rw [operationPieces, request, RestTransport.getExtendedAgentCard, route_get_one]
      simp +decide [operation, ids, values, Captured]
  | sendMessage tenant =>
      rw [operationPieces, request, RestTransport.sendMessage, route_post_one]
      simp +decide [operation, ids, values, Captured]
  | sendMessageStream tenant =>
      rw [operationPieces, request, RestTransport.sendMessageStream, route_post_one]
      simp +decide [operation, ids, values, Captured]
  | createTaskPushNotificationConfig tenant taskId =>
      rw [operationPieces, request, RestTransport.createTaskPushNotificationConfig, route_post_three]
      simp +decide [operation, ids, values, Captured]
  | getTaskPushNotificationConfig tenant taskId id =>
      have unnamed : tenant = "" := unnamed
      rw [operationPieces, request, RestTransport.getTaskPushNotificationConfig, route_get_four]
      simp +decide [operation, ids, values, Captured, tasksPiece, configsPiece, unnamed]
  | listTaskPushNotificationConfig tenant taskId =>
      have unnamed : tenant = "" := unnamed
      rw [operationPieces, request, RestTransport.listTaskPushNotificationConfig, route_get_three]
      simp +decide [operation, ids, values, Captured, tasksPiece, configsPiece, unnamed]
  | deleteTaskPushNotificationConfig tenant taskId id =>
      rw [operationPieces, request, RestTransport.deleteTaskPushNotificationConfig, route_delete_four]
      simp +decide [operation, ids, values, Captured]
  | getTask tenant id historyLength =>
      have unnamed : tenant = "" := unnamed
      rw [operationPieces, request, RestTransport.getTask, route_get_two]
      simp +decide [operation, ids, values, Captured, tasksPiece, unnamed]
  | cancelTask tenant id =>
      rw [operationPieces, request, RestTransport.cancelTask, route_post_two]
      simp +decide [operation, ids, values, Captured]
  | listTasks params =>
      have unnamed : params.tenant = "" := unnamed
      rw [operationPieces, request, RestTransport.listTasks, route_get_one]
      simp +decide [operation, ids, values, Captured, unnamed]
  | resubscribeTask tenant id =>
      rw [operationPieces, request, RestTransport.resubscribeTask, route_post_two]
      simp +decide [operation, ids, values, Captured]

theorem route_named {call : RestCall} (named : call.tenant ≠ "") :
    route call.request.method (idPiece call.tenant "" :: call.operationPieces) RestHandler.routes =
      .handled call.operation (values ((.tenant, call.tenant) :: call.ids)) ↔ ¬ call.Captured := by
  cases call with
  | getExtendedAgentCard tenant =>
      rw [operationPieces, request, RestTransport.getExtendedAgentCard, route_get_two]
      simp +decide [operation, ids, values, Captured]
  | sendMessage tenant =>
      rw [operationPieces, request, RestTransport.sendMessage, route_post_two]
      simp +decide [operation, ids, values, Captured]
  | sendMessageStream tenant =>
      rw [operationPieces, request, RestTransport.sendMessageStream, route_post_two]
      simp +decide [operation, ids, values, Captured]
  | createTaskPushNotificationConfig tenant taskId =>
      rw [operationPieces, request, RestTransport.createTaskPushNotificationConfig, route_post_four]
      simp +decide [operation, ids, values, Captured]
  | getTaskPushNotificationConfig tenant taskId id =>
      have named : tenant ≠ "" := named
      rw [operationPieces, request, RestTransport.getTaskPushNotificationConfig, route_get_five]
      simp +decide [operation, ids, values, Captured, named]
  | listTaskPushNotificationConfig tenant taskId =>
      have named : tenant ≠ "" := named
      rw [operationPieces, request, RestTransport.listTaskPushNotificationConfig, route_get_four]
      simp +decide [operation, ids, values, Captured, named]
  | deleteTaskPushNotificationConfig tenant taskId id =>
      rw [operationPieces, request, RestTransport.deleteTaskPushNotificationConfig, route_delete_five]
      simp +decide [operation, ids, values, Captured]
  | getTask tenant id historyLength =>
      have named : tenant ≠ "" := named
      rw [operationPieces, request, RestTransport.getTask, route_get_three]
      simp +decide [operation, ids, values, Captured, named]
  | cancelTask tenant id =>
      rw [operationPieces, request, RestTransport.cancelTask, route_post_three]
      simp +decide [operation, ids, values, Captured]
  | listTasks params =>
      rw [operationPieces, request, RestTransport.listTasks, route_get_two]
      simp +decide [operation, ids, values, Captured, tasksPiece, RestCall.tenant]
  | resubscribeTask tenant id =>
      rw [operationPieces, request, RestTransport.resubscribeTask, route_post_three]
      simp +decide [operation, ids, values, Captured]

/-- Unless its path is captured, the pieces of a call lead to its operation. -/
theorem route_pieces (call : RestCall) :
    route call.request.method call.pieces RestHandler.routes =
      .handled call.operation (values call.names) ↔ ¬ call.Captured := by
  by_cases unnamed : call.tenant = ""
  · rw [pieces, names, if_pos unnamed, if_pos unnamed]
    exact route_unnamed unnamed
  · rw [pieces, names, if_neg unnamed, if_neg unnamed]
    exact route_named unnamed

section Paths

theorem raw_wordPiece {text : String} (plain : text.toList.all unreserved = true) (verb : String) :
    (wordPiece text verb).raw = text.toList ++ verb.toList := by
  rw [Piece.raw, wordPiece, encodeURIComponent, escape_kept (List.all_eq_true.mp plain)]

@[simp] theorem raw_idPiece (id verb : String) :
    (idPiece id verb).raw = encodeURIComponent id.toList ++ verb.toList := rfl

/-- The query that a call puts behind its path. -/
def query : RestCall → List Char
  | .getTask _ _ historyLength => RestTransport.getTaskQuery historyLength
  | .listTasks params => RestTransport.listTasksQuery params
  | _ => []

theorem query_marked (call : RestCall) : ∀ char, call.query.head? = some char → char = '?' := by
  have marked : ∀ params char, (Client.query params).head? = some char → char = '?' := by
    intro params char found
    unfold Client.query at found
    split at found
    · exact nomatch found
    · exact (Option.some.inj found).symm
  intro char found
  cases call with
  | getTask tenant id historyLength => exact marked _ char found
  | listTasks params => exact marked _ char found
  | _ => exact nomatch found

def joined (pieces : List Piece) : List Char := (pieces.map Piece.raw).flatMap ('/' :: ·)

@[simp] theorem joined_nil : joined [] = [] := rfl

@[simp] theorem joined_cons (piece : Piece) (pieces : List Piece) :
    joined (piece :: pieces) = '/' :: (piece.raw ++ joined pieces) := rfl

@[simp] theorem raw_tasksPiece : tasksPiece.raw = "tasks".toList := raw_wordPiece (by decide) ""

@[simp] theorem raw_configsPiece : configsPiece.raw = "pushNotificationConfigs".toList :=
  raw_wordPiece (by decide) ""

theorem joined_task (id verb : String) (rest : List Piece) :
    joined (tasksPiece :: idPiece id verb :: rest) =
      RestTransport.taskPath id ++ (verb.toList ++ joined rest) := by
  obtain ⟨tasks, raw, path⟩ : ∃ tasks, tasksPiece.raw = tasks ∧
      RestTransport.taskPath id = '/' :: (tasks ++ '/' :: encodeURIComponent id.toList) :=
    ⟨"tasks".toList, raw_tasksPiece, rfl⟩
  rw [joined_cons, joined_cons, raw, raw_idPiece, path]
  simp only [List.cons_append, List.append_assoc]

theorem joined_configs (id : String) (rest : List Piece) :
    joined (tasksPiece :: idPiece id "" :: configsPiece :: rest) =
      RestTransport.configsPath id ++ joined rest := by
  obtain ⟨configs, raw, path⟩ : ∃ configs, configsPiece.raw = configs ∧
      RestTransport.configsPath id = RestTransport.taskPath id ++ '/' :: configs :=
    ⟨"pushNotificationConfigs".toList, raw_configsPiece, rfl⟩
  rw [joined_task, joined_cons, raw, path]
  simp only [String.toList_empty, List.cons_append, List.append_assoc, List.nil_append]

theorem joined_config (taskId id : String) :
    joined [tasksPiece, idPiece taskId "", configsPiece, idPiece id ""] =
      RestTransport.configPath taskId id := by
  rw [joined_configs, joined_cons, raw_idPiece, joined_nil, RestTransport.configPath]
  simp only [String.toList_empty, List.append_nil]

theorem path_operation (call : RestCall) :
    call.request.path = RestTransport.buildPath (joined call.operationPieces ++ call.query) call.tenant := by
  cases call with
  | getExtendedAgentCard tenant => rfl
  | sendMessage tenant => rfl
  | sendMessageStream tenant => rfl
  | createTaskPushNotificationConfig tenant taskId =>
      change _ = RestTransport.buildPath (joined [_, _, _] ++ []) tenant
      rw [joined_configs, joined_nil, List.append_nil, List.append_nil]
      rfl
  | listTaskPushNotificationConfig tenant taskId =>
      change _ = RestTransport.buildPath (joined [_, _, _] ++ []) tenant
      rw [joined_configs, joined_nil, List.append_nil, List.append_nil]
      rfl
  | getTaskPushNotificationConfig tenant taskId id =>
      change _ = RestTransport.buildPath (joined [_, _, _, _] ++ []) tenant
      rw [joined_config, List.append_nil]
      rfl
  | deleteTaskPushNotificationConfig tenant taskId id =>
      change _ = RestTransport.buildPath (joined [_, _, _, _] ++ []) tenant
      rw [joined_config, List.append_nil]
      rfl
  | getTask tenant id historyLength =>
      rw [operationPieces, joined_task, joined_nil, String.toList_empty, List.nil_append, List.append_nil]
      rfl
  | cancelTask tenant id =>
      change _ = RestTransport.buildPath (joined [_, _] ++ []) tenant
      rw [joined_task, joined_nil, List.append_nil, List.append_nil]
      rfl
  | listTasks params =>
      rw [operationPieces, joined_cons, joined_nil, raw_tasksPiece, List.append_nil]
      rfl
  | resubscribeTask tenant id =>
      change _ = RestTransport.buildPath (joined [_, _] ++ []) tenant
      rw [joined_task, joined_nil, List.append_nil, List.append_nil]
      rfl

theorem path_pieces (call : RestCall) : call.request.path = joined call.pieces ++ call.query := by
  rw [path_operation, RestTransport.buildPath, pieces, joined, joined, List.map_append,
    List.flatMap_append, List.append_assoc]
  split <;> simp

theorem idPiece_proper {id verb : String} (given : id ≠ "") (isVerb : isVerb verb.toList = true) :
    (idPiece id verb).Proper := by
  refine ⟨?_, isVerb⟩
  intro empty
  exact given (String.toList_eq_nil_iff.mp empty)

/-- The pieces that are the same in every path. -/
def words : List Piece :=
  [tasksPiece, configsPiece, wordPiece "extendedAgentCard" "", wordPiece "message" ":send",
    wordPiece "message" ":stream"]

theorem words_proper : ∀ piece ∈ words, (piece.text ≠ [] ∧ isVerb piece.verb = true) ∧
    piece.text ∉ [['.'], ['.', '.']] := by
  decide

/-- A piece of an operation is a word, or one of the ids, in front of a verb in some operations. -/
theorem mem_operationPieces {call : RestCall} {piece : Piece} (member : piece ∈ call.operationPieces) :
    piece ∈ words ∨ ∃ entry ∈ call.ids, ∃ verb : String, piece = idPiece entry.2 verb ∧
      isVerb verb.toList = true ∧ (verb = "" → call.verbed entry.1 = false) := by
  have cancel : isVerb ":cancel".toList = true := by decide
  have subscribe : isVerb ":subscribe".toList = true := by decide
  have whole : isVerb "".toList = true := rfl
  cases call with
  | getExtendedAgentCard | sendMessage | sendMessageStream | listTasks =>
      cases List.mem_singleton.mp member
      exact .inl (by simp [words])
  | getTask tenant id historyLength =>
      simp only [operationPieces, List.mem_cons, List.not_mem_nil, or_false] at member
      rcases member with rfl | rfl
      · exact .inl (by simp [words])
      · exact .inr ⟨_, List.mem_cons_self, "", rfl, whole, fun _ => rfl⟩
  | cancelTask tenant id =>
      simp only [operationPieces, List.mem_cons, List.not_mem_nil, or_false] at member
      rcases member with rfl | rfl
      · exact .inl (by simp [words])
      · exact .inr ⟨_, List.mem_cons_self, ":cancel", rfl, cancel, fun none => absurd none (by decide)⟩
  | resubscribeTask tenant id =>
      simp only [operationPieces, List.mem_cons, List.not_mem_nil, or_false] at member
      rcases member with rfl | rfl
      · exact .inl (by simp [words])
      · exact .inr ⟨_, List.mem_cons_self, ":subscribe", rfl, subscribe, fun none => absurd none (by decide)⟩
  | createTaskPushNotificationConfig tenant taskId | listTaskPushNotificationConfig tenant taskId =>
      simp only [operationPieces, List.mem_cons, List.not_mem_nil, or_false] at member
      rcases member with rfl | rfl | rfl
      · exact .inl (by simp [words])
      · exact .inr ⟨_, List.mem_cons_self, "", rfl, whole, fun _ => rfl⟩
      · exact .inl (by simp [words])
  | getTaskPushNotificationConfig tenant taskId id | deleteTaskPushNotificationConfig tenant taskId id =>
      simp only [operationPieces, List.mem_cons, List.not_mem_nil, or_false] at member
      rcases member with rfl | rfl | rfl | rfl
      · exact .inl (by simp [words])
      · exact .inr ⟨_, List.mem_cons_self, "", rfl, whole, fun _ => rfl⟩
      · exact .inl (by simp [words])
      · exact .inr ⟨_, List.mem_cons_of_mem _ List.mem_cons_self, "", rfl, whole, fun _ => rfl⟩

/-- The pieces of a path whose ids are given can be read. -/
theorem operation_proper {call : RestCall} (named : call.Named) :
    ∀ piece ∈ call.operationPieces, piece.Proper := by
  intro piece member
  rcases mem_operationPieces member with word | ⟨entry, listed, verb, rfl, isVerb, _⟩
  · exact (words_proper piece word).1
  · exact idPiece_proper (named entry listed) isVerb

/-- A call whose ids are given has a path of segments that can be read. -/
theorem pieces_proper {call : RestCall} (named : call.Named) : ∀ piece ∈ call.pieces, piece.Proper := by
  intro piece member
  rw [pieces, List.mem_append] at member
  rcases member with first | rest
  · split at first
    · exact nomatch first
    · rename_i tenanted
      rw [List.mem_singleton] at first
      exact first ▸ idPiece_proper tenanted rfl
  · exact operation_proper named piece rest

end Paths

/-- Where the server's router sends what the client sends. -/
theorem route_request {call : RestCall} (named : call.Named) :
    routeRequest RestHandler.routes call.request.method call.request.path =
      route call.request.method call.pieces RestHandler.routes := by
  have proper := pieces_proper named
  have read : segments call.request.path = some (call.pieces.map Piece.raw) := by
    rw [path_pieces, joined]
    refine segments_join ?_ ?_ call.query_marked
    · intro part member
      obtain ⟨piece, listed, rfl⟩ := List.mem_map.mp member
      exact raw_ne_nil (proper piece listed)
    · intro part member
      obtain ⟨piece, listed, rfl⟩ := List.mem_map.mp member
      exact ⟨not_mem_raw (by decide) (by decide) (by decide) (proper piece listed),
        not_mem_raw (by decide) (by decide) (by decide) (proper piece listed)⟩
  have plain : ∀ route ∈ RestHandler.routes, ∀ segment ∈ route.path, segment.proper = true := by
    decide
  rw [routeRequest, read]
  exact dispatch_raw plain proper

section Dots

variable {call : RestCall} {mount : Mount}

theorem dots_toList {text : String} : text.toList ∈ [['.'], ['.', '.']] ↔ text = "." ∨ text = ".." := by
  simp only [List.mem_cons, List.not_mem_nil, or_false, ← String.toList_inj]
  rfl

/-- A piece with a verb is no dot segment, and one without is where it is spelled like one. -/
theorem isDot_raw {piece : Piece} (proper : piece.Proper) :
    isDot piece.raw = true ↔ piece.verb = [] ∧ piece.text ∈ [['.'], ['.', '.']] := by
  obtain ⟨text, verb⟩ := piece
  obtain ⟨given, isVerb⟩ := proper
  rw [Piece.raw, isDot_encoded (percent_not_mem_verb isVerb)]
  cases verb with
  | nil => simp
  | cons char word =>
      simp only [Router.isVerb, Bool.and_eq_true, decide_eq_true_eq] at isVerb
      have colon : ':' ∈ text ++ char :: word := by simp [isVerb.1]
      have colonless : ∀ dots ∈ [['.'], ['.', '.']], ':' ∉ dots := by decide
      simp only [List.forall_mem_cons] at colonless
      have single : text ++ char :: word ≠ ['.'] := fun same => colonless.1 (same ▸ colon)
      have double : text ++ char :: word ≠ ['.', '.'] := fun same => colonless.2.1 (same ▸ colon)
      simp [single, double]

theorem isDot_idPiece {id verb : String} (given : id ≠ "") (isVerb : isVerb verb.toList = true) :
    isDot (idPiece id verb).raw = true ↔ verb = "" ∧ (id = "." ∨ id = "..") := by
  rw [isDot_raw (idPiece_proper given isVerb), ← dots_toList, ← String.toList_eq_nil_iff]
  rfl

/-- The dot segments of a path are a tenant or ids. -/
theorem dotted_of_isDot (named : call.Named) {piece : Piece} (member : piece ∈ call.pieces)
    (dot : isDot piece.raw = true) : call.Dotted := by
  rw [pieces, List.mem_append] at member
  rcases member with first | rest
  · split at first
    · exact absurd first List.not_mem_nil
    · rename_i tenanted
      rw [List.mem_singleton] at first
      subst first
      have spelled := ((isDot_idPiece tenanted rfl).mp dot).2
      have verbless : call.verbed .tenant = false := by cases call <;> rfl
      refine ⟨(.tenant, call.tenant), ?_, verbless, spelled⟩
      rw [names, if_neg tenanted]
      exact List.mem_cons_self
  · rcases mem_operationPieces rest with word | ⟨entry, listed, verb, rfl, isVerb, verbless⟩
    · exact absurd ((isDot_raw (words_proper piece word).1).mp dot).2 (words_proper piece word).2
    · obtain ⟨none, spelled⟩ := (isDot_idPiece (named entry listed) isVerb).mp dot
      exact ⟨entry, List.mem_append_right _ listed, verbless none, spelled⟩

theorem pieces_clear (named : call.Named) :
    ∀ part ∈ call.pieces.map Piece.raw, '/' ∉ part ∧ '?' ∉ part := by
  intro part member
  obtain ⟨piece, listed, rfl⟩ := List.mem_map.mp member
  have proper := pieces_proper named piece listed
  exact ⟨not_mem_raw (by decide) (by decide) (by decide) proper,
    not_mem_raw (by decide) (by decide) (by decide) proper⟩

/-- The path of a call without dot segments arrives as it was built. -/
theorem arriving_request (mount : Mount) (named : call.Named) (dotless : ¬ call.Dotted) :
    mount.arriving call.request.path = some call.request.path := by
  rw [path_pieces, joined]
  refine arriving_plain mount ?_ call.query_marked
  intro part member
  refine ⟨?_, pieces_clear named part member⟩
  obtain ⟨piece, listed, rfl⟩ := List.mem_map.mp member
  exact Bool.eq_false_iff.mpr fun dot => dotless (dotted_of_isDot named listed dot)

/-- Only a parameter of these routes stands in front of a verb. -/
theorem routes_verbed {route : RestRoute} (listed : route ∈ RestHandler.routes) {name : PathParam}
    {verb : List Char} (within : .param name verb ∈ route.path) :
    verb = [] ∨ name = .taskId ∧ (route.handler = .cancelTask ∨ route.handler = .resubscribe) := by
  have table : ∀ route ∈ RestHandler.routes, ∀ segment ∈ route.path,
      Segment.casesOn segment (fun _ _ => True) fun name verb =>
        verb = [] ∨ name = .taskId ∧ (route.handler = .cancelTask ∨ route.handler = .resubscribe) := by
    simp [RestHandler.routes, RestHandler.registerRoute, RestHandler.taskPath, RestHandler.configsPath,
      RestHandler.configPath, word, parameter]
  exact table route listed _ within

/-- A dot segment is never read as a parameter. -/
theorem dotted_astray (named : call.Named) (dotted : call.Dotted) :
    call.request.fetched mount ≠ .handled call.operation (values call.names) := by
  obtain ⟨entry, listed, verbless, spelled⟩ := dotted
  intro handled
  rw [RestRequest.fetched] at handled
  split at handled
  · rename_i path arrives
    rw [path_pieces, joined] at arrives
    obtain ⟨raws, read, dotless⟩ := segments_arriving (pieces_clear named) call.query_marked arrives
    rw [routeRequest, read] at handled
    obtain ⟨route, among, same, taken, captured, decoded⟩ := dispatch_captured handled
    have value : (entry.1, entry.2.toList) ∈ values call.names := List.mem_map_of_mem listed
    obtain ⟨text, took, decodes⟩ := decodeParams_from decoded _ value
    obtain ⟨verb, within, raw, member, stripped⟩ := captures_from captured _ took
    rcases routes_verbed among within with rfl | ⟨task, handler⟩
    · rw [stripVerb_nil, Option.some.injEq] at stripped
      subst stripped
      have dot := isDot_of_decode (dots_toList.mpr spelled) decodes
      rw [dotless raw member] at dot
      cases dot
    · rw [same] at handler
      have verbed : call.verbed .taskId = true := by
        cases call with
        | cancelTask tenant id => rfl
        | resubscribeTask tenant id => rfl
        | _ => rcases handler with none | none <;> cases none
      dsimp only at task
      rw [task, verbed] at verbless
      cases verbless
  · cases handled

end Dots

/-- A call reaches the handler of its operation, with its tenant and its ids, unless its path
reads as that of another operation or has a dot segment in their place. -/
theorem request_reaches (mount : Mount) {call : RestCall} (named : call.Named) :
    call.request.fetched mount = .handled call.operation (values call.names) ↔
      ¬ call.Captured ∧ ¬ call.Dotted := by
  by_cases dotted : call.Dotted
  · exact ⟨fun handled => absurd handled (dotted_astray named dotted), fun reaches => absurd dotted reaches.2⟩
  · rw [RestRequest.fetched, arriving_request mount named dotted]
    dsimp only
    rw [route_request named, route_pieces, and_iff_left dotted]

/-- A server that is mounted below another path. -/
def restMount : Mount where
  segments := ["a2a".toList, "rest".toList]
  plain := by
    have plain : ∀ segment ∈ ["a2a".toList, "rest".toList], segment.all unreserved = true ∧
        segment ∉ [['.'], ['.', '.']] := by
      decide
    intro segment member
    obtain ⟨kept, dotless⟩ := plain segment member
    have keeps := List.all_eq_true.mp kept
    have same := @isDot_encoded segment [] List.not_mem_nil
    rw [encodeURIComponent, escape_kept keeps, List.append_nil] at same
    refine ⟨?_, fun slash => absurd (keeps _ slash) (by decide), fun mark => absurd (keeps _ mark) (by decide)⟩
    simpa [same] using dotless

/-- Reserved characters in an id do not get in the way. -/
theorem request_reaches_sample :
    RestCall.Named (.getTask "v1" "a/b:cancel" (some 5)) ∧
      (RestCall.getTask "v1" "a/b:cancel" (some 5)).request.fetched restMount =
        .handled .getTask [(.tenant, "v1".toList), (.taskId, "a/b:cancel".toList)] := by
  have named : RestCall.Named (.getTask "v1" "a/b:cancel" (some 5)) := by decide
  refine ⟨named, (request_reaches restMount named).mpr ⟨?_, by decide⟩⟩
  intro captured
  exact absurd captured.1 (by decide)

/-- The list of the tasks of a tenant named `tasks`. -/
def tasksOfTasks : RestCall :=
  .listTasks {
    tenant := "tasks"
    contextId := ""
    status := .unspecified
    pageSize := none
    pageToken := ""
    historyLength := none
    statusTimestampAfter := none
    includeArtifacts := none }

theorem request_captured :
    tasksOfTasks.Named ∧
      tasksOfTasks.request.fetched restMount = .handled .getTask [(.taskId, "tasks".toList)] ∧
      tasksOfTasks.request.fetched restMount ≠ .handled tasksOfTasks.operation (values tasksOfTasks.names) := by
  have named : tasksOfTasks.Named := by decide
  have routed : tasksOfTasks.request.fetched restMount = .handled .getTask [(.taskId, "tasks".toList)] := by
    rw [RestRequest.fetched, arriving_request restMount named (by decide)]
    dsimp only
    rw [route_request named]
    change route .get [idPiece "tasks" "", tasksPiece] RestHandler.routes = _
    rw [route_get_two, if_neg (by decide), if_neg (by decide), if_pos (by decide)]
    rfl
  refine ⟨named, routed, ?_⟩
  rw [routed]
  intro same
  exact nomatch (Router.Dispatch.handled.inj same).1

/-- The call for a task named by a dot lists the tasks instead. -/
theorem dot_lists (mount : Mount) :
    (RestCall.getTask "" "." none).request.fetched mount = .handled .listTasks [] := by
  have path : (RestCall.getTask "" "." none).request.path = ["tasks".toList, ['.']].flatMap ('/' :: ·) ++ [] := by
    decide
  have unasked : ∀ char, ([] : List Char).head? = some char → char = '?' := fun char none => by cases none
  have tasks : isDot "tasks".toList = false := by
    have same := isDot_raw (words_proper tasksPiece (by simp [words])).1
    rw [raw_tasksPiece] at same
    exact Bool.eq_false_iff.mpr fun dot => absurd (same.mp dot).2 (by decide)
  have dot : isDoubleDot ['.'] = false ∧ isSingleDot ['.'] = true := by decide
  have arrives : mount.arriving (RestCall.getTask "" "." none).request.path =
      some (["tasks".toList, []].flatMap ('/' :: ·) ++ []) := by
    have clear : ∀ segment ∈ mount.segments ++ ["tasks".toList], isDot segment = false :=
      List.forall_mem_append.mpr
        ⟨fun segment listed => (mount.plain segment listed).1, List.forall_mem_singleton.mpr tasks⟩
    have split : mount.segments ++ ["tasks".toList, ['.']] = (mount.segments ++ ["tasks".toList]) ++ [['.']] := by
      rw [List.append_assoc]
      rfl
    rw [path, Mount.arriving, pathSegments_joined (by decide) unasked, split, resolve_append clear, resolve,
      if_neg (by rw [dot.1]; decide), if_pos dot.2, resolve]
    have left : ([[]] ++ ((mount.segments ++ ["tasks".toList]).reverse ++ [])).reverse =
        mount.segments ++ ["tasks".toList, []] := by
      simp
    rw [if_pos rfl, left, strip_append]
    rfl
  have listed : routeRequest RestHandler.routes .get (["tasks".toList, []].flatMap ('/' :: ·) ++ []) =
      .handled .listTasks [] := by
    have plain : ∀ route ∈ RestHandler.routes, ∀ segment ∈ route.path, segment.proper = true := by
      decide
    have proper := words_proper tasksPiece (by simp [words])
    have led := @dispatch_raw _ _ _ _ HttpMethod.get RestHandler.routes [tasksPiece] plain
      (List.forall_mem_singleton.mpr proper.1)
    rw [List.map_singleton, raw_tasksPiece, route_get_one, if_neg (by decide), if_pos (by decide)] at led
    rw [routeRequest, segments_joined (by decide) unasked]
    exact led
  rw [RestRequest.fetched, arrives]
  exact listed

end RestCall

end A2A.Client
