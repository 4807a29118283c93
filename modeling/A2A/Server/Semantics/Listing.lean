import A2A.Library.Delimited
import A2A.Library.Precedence
import A2A.Server.Stores

namespace A2A.Server

open Library

/-- What `list` relies on in the runtime's encodings: a token decodes to the text it was made from. -/
structure Runtime.EncodesText (runtime : Runtime) : Prop where
  decodes : ∀ text, runtime.fromBase64 (runtime.toBase64 text) = text
  empty : runtime.toBase64 "" = ""

/-- What `list` relies on in the collation, for the timestamps its tasks have: it orders all
strings, takes no two timestamps for equal, and the separator is in none of them. -/
structure Runtime.Collates (runtime : Runtime) (stamped : String → Prop) : Prop where
  ordered : Std.TransCmp runtime.localeCompare
  separates : ∀ {first second}, stamped first → stamped second →
    runtime.localeCompare first second = .eq → first = second
  plain : ∀ {timestamp}, stamped timestamp → '|' ∉ timestamp.toList

theorem Runtime.EncodesText.ne_empty {runtime : Runtime} (encodes : runtime.EncodesText)
    {text : String} (written : text ≠ "") : runtime.toBase64 text ≠ "" := by
  intro lost
  have decoded := encodes.decodes text
  rw [lost, ← encodes.empty, encodes.decodes] at decoded
  exact written decoded.symm

namespace InMemoryTaskStore

variable {runtime : Runtime} {params : ListTasksRequest} {tasks bucket : List Task}

/-- The tasks of a caller, in the order of the store's map. -/
def tasksOf (store : InMemoryTaskStore) (scope : Scope) : List Task :=
  (store.scopedStore.bucket scope).values

def comesFirst (runtime : Runtime) (first second : Task) : Bool :=
  compareTasks runtime first second != .gt

/-- The matching tasks, as `list` sorts them. -/
def sortedTasks (runtime : Runtime) (params : ListTasksRequest) (bucket : List Task) : List Task :=
  (bucket.filter (listed runtime params)).mergeSort (comesFirst runtime)

/-- The copy of a task that `list` returns. -/
def presented (params : ListTasksRequest) (task : Task) : Task :=
  if params.includeArtifacts.getD false then task else { task with artifacts := [] }

/-- The text behind the token that names a task. -/
def cursorText (task : Task) : String := timestampOf task ++ "|" ++ task.id

/-- What a client asks with next. -/
def followingToken (response : ListTasksResponse) : Option String :=
  if response.nextPageToken = "" then none else some response.nextPageToken

@[simp] theorem presented_id (params : ListTasksRequest) (task : Task) :
    (presented params task).id = task.id := by
  unfold presented
  split <;> rfl

@[simp] theorem timestampOf_presented (params : ListTasksRequest) (task : Task) :
    timestampOf (presented params task) = timestampOf task := by
  unfold presented
  split <;> rfl

theorem cursorText_ne_empty (task : Task) : cursorText task ≠ "" := by
  intro empty
  have chars := congrArg String.toList empty
  simp [cursorText] at chars

theorem mem_sortedTasks {task : Task} :
    task ∈ sortedTasks runtime params bucket ↔ task ∈ bucket ∧ listed runtime params task = true := by
  rw [sortedTasks, List.mem_mergeSort, List.mem_filter]

theorem sortedTasks_perm (runtime : Runtime) (params : ListTasksRequest) (bucket : List Task) :
    (sortedTasks runtime params bucket).Perm (bucket.filter (listed runtime params)) :=
  List.mergeSort_perm _ _

theorem sortedTasks_of_sorted (all : ∀ task ∈ bucket, listed runtime params task = true)
    (sorted : bucket.Pairwise (fun first second => comesFirst runtime first second)) :
    sortedTasks runtime params bucket = bucket := by
  rw [sortedTasks, List.filter_eq_self.mpr all, List.mergeSort_of_pairwise sorted]

/-- Rows with different ids are different rows still after filtering and sorting. -/
theorem sortedTasks_distinct (runtime : Runtime) (params : ListTasksRequest)
    (distinct : (bucket.map Task.id).Nodup) :
    ((sortedTasks runtime params bucket).map Task.id).Nodup :=
  ((sortedTasks_perm runtime params bucket).map Task.id).nodup_iff.mpr
    ((List.filter_sublist.map Task.id).nodup distinct)

theorem tasksOf_keys (store : InMemoryTaskStore) (scope : Scope) :
    (store.tasksOf scope).map Task.id = (store.scopedStore.bucket scope).entries.map Prod.fst :=
  (store.scopedStore.bucket scope).values_keys store.keyed

theorem tasksOf_distinct (store : InMemoryTaskStore) (scope : Scope) :
    ((store.tasksOf scope).map Task.id).Nodup := by
  rw [tasksOf_keys]
  exact (store.scopedStore.bucket scope).distinct

theorem mem_tasksOf {store : InMemoryTaskStore} {scope : Scope} {task : Task} :
    task ∈ store.tasksOf scope ↔ store.load scope task.id = some task := by
  constructor
  · intro member
    obtain ⟨taskId, found⟩ := (store.scopedStore.bucket scope).exists_key member
    rwa [load, ScopedStore.get?, store.keyed found]
  · exact (store.scopedStore.bucket scope).mem_values

section Cursor

variable {last : Task}

/-- Whether a row is the one a token was made from. -/
def names (last row : Task) : Bool := timestampOf row = timestampOf last && row.id = last.id

theorem names_iff {row : Task} :
    names last row = true ↔ timestampOf row = timestampOf last ∧ row.id = last.id := by
  simp [names]

@[simp] theorem names_presented (params : ListTasksRequest) (last : Task) :
    names (presented params last) = names last := by
  funext row
  simp [names]

/-- A token is taken apart into the timestamp and the id it was made from, even if the id
contains the separator. -/
theorem afterToken_eq (encodes : runtime.EncodesText) (plain : '|' ∉ (timestampOf last).toList) :
    afterToken runtime tasks (runtime.toBase64 (cursorText last)) =
      .ok (match tasks.findIdx? (names last) with
        | some cursorIndex => tasks.drop (cursorIndex + 1)
        | none => []) := by
  obtain ⟨part, parts, split, joined⟩ := splitOn_first plain last.id
  have separated : (cursorText last).splitOn "|" = timestampOf last :: part :: parts := split
  rw [afterToken, if_neg (encodes.ne_empty (cursorText_ne_empty last)), encodes.decodes, separated]
  have joined' : "|".intercalate (part :: parts) = last.id := joined
  simp only [joined']
  change (match tasks.findIdx? (names last) with
    | some cursorIndex => Except.ok (tasks.drop (cursorIndex + 1))
    | none => Except.ok []) = _
  cases tasks.findIdx? (names last) <;> rfl

/-- The page behind a token starts behind the row that the token names. -/
theorem afterToken_row (encodes : runtime.EncodesText) (plain : '|' ∉ (timestampOf last).toList)
    {passed rest : List Task} {row : Task} (distinct : ((passed ++ row :: rest).map Task.id).Nodup)
    (named : names last row = true) :
    afterToken runtime (passed ++ row :: rest) (runtime.toBase64 (cursorText last)) = .ok rest := by
  have sameId := (names_iff.mp named).2
  have before : passed.findIdx? (names last) = none := by
    rw [List.findIdx?_eq_none_iff]
    intro task member
    rw [List.map_append, List.map_cons] at distinct
    have apart := (List.nodup_append.mp distinct).2.2 task.id (List.mem_map_of_mem member) row.id
      List.mem_cons_self
    simp [names, ← sameId, apart]
  rw [afterToken_eq encodes plain, List.findIdx?_append, before, List.findIdx?_cons, if_pos named]
  simp

/-- When no row is the one a token was made from, nothing is left to list. -/
theorem afterToken_gone (encodes : runtime.EncodesText) (plain : '|' ∉ (timestampOf last).toList)
    (gone : ∀ task ∈ tasks, names last task = false) :
    afterToken runtime tasks (runtime.toBase64 (cursorText last)) = .ok [] := by
  rw [afterToken_eq encodes plain, List.findIdx?_eq_none_iff.mpr gone]

end Cursor

section Order

variable {first second third : Task}

theorem comesFirst_of_eq (same : timestampOf first = timestampOf second) :
    comesFirst runtime first second = (runtime.localeCompare second.id first.id).isLE := by
  rw [comesFirst, compareTasks, if_neg (not_not_intro same.symm)]
  cases runtime.localeCompare second.id first.id <;> rfl

theorem comesFirst_of_ne (differ : timestampOf first ≠ timestampOf second) :
    comesFirst runtime first second =
      (runtime.localeCompare (timestampOf second) (timestampOf first)).isLE := by
  rw [comesFirst, compareTasks, if_pos differ.symm]
  cases runtime.localeCompare (timestampOf second) (timestampOf first) <;> rfl

/-- The order reads nothing but the timestamp and the id. -/
theorem comesFirst_names (runtime : Runtime) (named : names first second = true) (other : Task) :
    comesFirst runtime second other = comesFirst runtime first other ∧
      comesFirst runtime other second = comesFirst runtime other first := by
  obtain ⟨timestamp, id⟩ := names_iff.mp named
  simp only [comesFirst, compareTasks, timestamp, id, and_self]

end Order

/-- The latest timestamp first, then the greatest id, is a consistent order. -/
theorem orders_of_collates {stamped : String → Prop} (collates : runtime.Collates stamped) :
    OrderedOn (fun task => stamped (timestampOf task)) (comesFirst runtime) where
  total := by
    intro first second _ _
    have ordered := collates.ordered
    have total (left right : String) :
        (runtime.localeCompare left right).isLE || (runtime.localeCompare right left).isLE := by
      have swapped : runtime.localeCompare right left = (runtime.localeCompare left right).swap :=
        Std.OrientedCmp.eq_swap
      rw [swapped]
      cases runtime.localeCompare left right <;> rfl
    by_cases same : timestampOf first = timestampOf second
    · rw [comesFirst_of_eq same, comesFirst_of_eq same.symm]
      exact total _ _
    · rw [comesFirst_of_ne same, comesFirst_of_ne (Ne.symm same)]
      exact total _ _
  trans := by
    intro first second third one two _ before after
    have ordered := collates.ordered
    by_cases same : timestampOf first = timestampOf second
    · by_cases same' : timestampOf second = timestampOf third
      · rw [comesFirst_of_eq same] at before
        rw [comesFirst_of_eq same'] at after
        rw [comesFirst_of_eq (same.trans same')]
        exact Std.TransCmp.isLE_trans after before
      · rw [comesFirst_of_ne same'] at after
        rwa [comesFirst_of_ne (same ▸ same'), same]
    · rw [comesFirst_of_ne same] at before
      by_cases same' : timestampOf second = timestampOf third
      · rwa [comesFirst_of_ne (same' ▸ same), ← same']
      · rw [comesFirst_of_ne same'] at after
        -- Equal outer timestamps would tie with the one between them.
        have apart : timestampOf first ≠ timestampOf third := by
          intro equal
          rw [← equal] at after
          have tie := Std.OrientedCmp.isLE_antisymm before after
          exact same (collates.separates two one tie).symm
        rw [comesFirst_of_ne apart]
        exact Std.TransCmp.isLE_trans after before

theorem sliceFirst_natCast {α : Type} (items : List α) (size : Nat) :
    sliceFirst items (size : Int) = items.take size := by
  simp [sliceFirst]

theorem mergeSort_listed (params : ListTasksRequest) :
    (bucket.filter (listed runtime params)).mergeSort
        (fun first second => compareTasks runtime first second != .gt) =
      sortedTasks runtime params bucket := rfl

theorem list_eq (params : ListTasksRequest) {rest : List Task}
    (behind : afterToken runtime (sortedTasks runtime params bucket) params.pageToken = .ok rest) :
    list runtime bucket params =
      let pageSize := params.pageSize.getD defaultPageSize
      let paginated := sliceFirst rest pageSize
      .ok {
        tasks := paginated.map (presented params)
        nextPageToken :=
          match paginated.getLast? with
          | some last =>
              if paginated.length < rest.length then runtime.toBase64 (cursorText last) else ""
          | none => ""
        pageSize
        totalSize := (sortedTasks runtime params bucket).length } := by
  simp only [list, mergeSort_listed, behind]
  rfl

/-- One page: the first rows of what its token leaves, and a token while rows remain. -/
theorem list_page (encodes : runtime.EncodesText) (params : ListTasksRequest) {size : Nat}
    {rest : List Task}
    (asked : params.pageSize = some (size : Int)) (positive : 0 < size)
    (behind : afterToken runtime (sortedTasks runtime params bucket) params.pageToken = .ok rest) :
    ∃ page, list runtime bucket params = .ok page ∧
      page.tasks = (rest.take size).map (presented params) ∧
      page.totalSize = (sortedTasks runtime params bucket).length ∧
      (rest.length ≤ size → followingToken page = none) ∧
      (size < rest.length → ∃ last, (rest.take size).getLast? = some last ∧
        followingToken page = some (runtime.toBase64 (cursorText last))) := by
  have listed := list_eq params behind
  simp only [asked, Option.getD_some, sliceFirst_natCast] at listed
  refine ⟨_, listed, rfl, rfl, fun short => ?_, fun long => ?_⟩
  · rw [List.take_of_length_le short]
    unfold followingToken
    cases rest.getLast? <;> simp
  · have filled : rest.take size ≠ [] := by
      rw [Ne, ← List.length_eq_zero_iff, List.length_take]
      omega
    have fewer : (rest.take size).length < rest.length := by
      rw [List.length_take]
      omega
    have found := List.getLast?_eq_some_getLast filled
    have written := encodes.ne_empty (cursorText_ne_empty ((rest.take size).getLast filled))
    refine ⟨_, found, ?_⟩
    unfold followingToken
    simp only [found, if_pos fewer, if_neg written]

end InMemoryTaskStore

end A2A.Server
