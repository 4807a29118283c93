import A2A.Library.Pages
import A2A.Server.Semantics.Listing
import A2A.Server.Scenario

namespace A2A.Server

open Library InMemoryTaskStore

/-! Following `nextPageToken` through `listTasks`.

A token names the last row of its page, by timestamp and id.  While the store
stays as it is the page behind it starts behind that row, so the pages are the
sorted rows cut up.  While tasks are saved in between, the row has to be there
still: a row that was saved with another timestamp answers its token with an
empty last page.
-/

/-- The page that a token asks for. -/
def pageAt (runtime : Runtime) (scope : Scope) (params : ListTasksRequest) (store : InMemoryTaskStore)
    (token : String) : Except String ListTasksResponse :=
  list runtime (store.tasksOf scope) { params with pageToken := token }

/-- A client's walk through the pages, which starts without a token. -/
abbrev PageWalk (runtime : Runtime) (scope : Scope) (params : ListTasksRequest)
    (moves : InMemoryTaskStore → ListTasksResponse → InMemoryTaskStore → Prop)
    (store : InMemoryTaskStore) (token : String) (pages : List ListTasksResponse) : Prop :=
  Walk (pageAt runtime scope params) followingToken moves store token pages

variable {runtime : Runtime} {scope : Scope} {params : ListTasksRequest} {size : Nat}

/-- What a token leaves to be listed in a store. -/
def Leaves (runtime : Runtime) (params : ListTasksRequest) (tasks : List Task) (token : String)
    (rest : List Task) : Prop :=
  afterToken runtime (sortedTasks runtime params tasks) token = .ok rest ∧
    rest <:+ sortedTasks runtime params tasks

theorem leaves_all (runtime : Runtime) (params : ListTasksRequest) (tasks : List Task) :
    Leaves runtime params tasks "" (sortedTasks runtime params tasks) :=
  ⟨by simp [afterToken], List.suffix_rfl⟩

/-- In the same store the token of a page's last row leaves what did not fit on the page. -/
theorem Leaves.next (encodes : runtime.EncodesText) {tasks : List Task}
    (distinct : (tasks.map Task.id).Nodup) (plain : ∀ task ∈ tasks, '|' ∉ (timestampOf task).toList)
    {token : String} {rest : List Task} (leaves : Leaves runtime params tasks token rest) {last : Task}
    (ends : (rest.take size).getLast? = some last) :
    Leaves runtime params tasks (runtime.toBase64 (cursorText last)) (rest.drop size) := by
  obtain ⟨page, cut⟩ := List.getLast?_eq_some_iff.mp ends
  obtain ⟨passed, sorted⟩ := leaves.2
  have split : sortedTasks runtime params tasks = (passed ++ page) ++ last :: rest.drop size := by
    calc
      sortedTasks runtime params tasks = passed ++ (rest.take size ++ rest.drop size) := by
        rw [List.take_append_drop, sorted]
      _ = (passed ++ page) ++ last :: rest.drop size := by simp [cut]
  have member : last ∈ sortedTasks runtime params tasks := by
    rw [split]
    simp
  have apart := sortedTasks_distinct runtime params distinct
  refine ⟨?_, (List.drop_suffix size rest).trans leaves.2⟩
  rw [split] at apart ⊢
  exact afterToken_row encodes (plain last (mem_sortedTasks.mp member).1) apart (by simp [names])

/-- Wherever the row is that a token names, the token leaves the rows behind it. -/
theorem leaves_behind (encodes : runtime.EncodesText) {tasks : List Task} {last row : Task}
    (distinct : (tasks.map Task.id).Nodup) (plain : '|' ∉ (timestampOf last).toList)
    (here : row ∈ sortedTasks runtime params tasks) (named : names last row = true) :
    ∃ rest, Leaves runtime params tasks (runtime.toBase64 (cursorText last)) rest ∧
      ∀ {task}, [row, task].Sublist (sortedTasks runtime params tasks) → task ∈ rest := by
  obtain ⟨passed, rest, split⟩ := List.append_of_mem here
  have apart := sortedTasks_distinct runtime params distinct
  refine ⟨rest, ⟨?_, passed ++ [row], by rw [split]; simp⟩, fun pair => ?_⟩
  · rw [split] at apart ⊢
    exact afterToken_row encodes plain apart named
  · rw [split] at apart pair
    exact (pair_sublist_append apart.of_map).mp pair

/-- One request of a walk: the page has the first rows, and names the last of them while
others are left. -/
theorem Leaves.served (encodes : runtime.EncodesText) {store : InMemoryTaskStore}
    (asked : params.pageSize = some (size : Int)) (positive : 0 < size) {token : String}
    {rest : List Task} (leaves : Leaves runtime params (store.tasksOf scope) token rest) :
    ∃ page, pageAt runtime scope params store token = .ok page ∧
      page.tasks = (rest.take size).map (presented params) ∧
      page.totalSize = (sortedTasks runtime params (store.tasksOf scope)).length ∧
      (rest.length ≤ size → followingToken page = none) ∧
      (size < rest.length → ∃ last, (rest.take size).getLast? = some last ∧
        followingToken page = some (runtime.toBase64 (cursorText last))) :=
  list_page encodes { params with pageToken := token } asked positive leaves.1

/-- The list without pages: the page size is at least the number of tasks. -/
theorem list_unpaged (runtime : Runtime) (params : ListTasksRequest) {tasks : List Task} {whole : Nat}
    (enough : tasks.length ≤ whole) :
    ∃ unpaged, list runtime tasks { params with pageSize := some whole, pageToken := "" } =
      .ok unpaged ∧ unpaged.tasks = (sortedTasks runtime params tasks).map (presented params) := by
  have behind : afterToken runtime
      (sortedTasks runtime { params with pageSize := some whole, pageToken := "" } tasks) "" =
        .ok (sortedTasks runtime params tasks) :=
    (leaves_all runtime params tasks).1
  have fits : (sortedTasks runtime params tasks).length ≤ whole :=
    (sortedTasks_perm runtime params tasks).length_eq.le.trans ((List.length_filter_le _ _).trans enough)
  refine ⟨_, list_eq { params with pageSize := some whole, pageToken := "" } behind, ?_⟩
  simp only [Option.getD_some, sliceFirst_natCast, List.take_of_length_le fits]
  rfl

/-- Once no row is the one a token was made from, the token's page is empty and the last one. -/
theorem moved_row_ends_walk (encodes : runtime.EncodesText) {store : InMemoryTaskStore}
    (asked : params.pageSize = some (size : Int)) (positive : 0 < size) {last : Task}
    (plain : '|' ∉ (timestampOf last).toList)
    (gone : ∀ row ∈ store.tasksOf scope, names last row = false) :
    ∃ page, pageAt runtime scope params store (runtime.toBase64 (cursorText last)) = .ok page ∧
      page.tasks = [] ∧ followingToken page = none := by
  have nothing : Leaves runtime params (store.tasksOf scope) (runtime.toBase64 (cursorText last)) [] :=
    ⟨afterToken_gone encodes plain (fun row listed => gone row (mem_sortedTasks.mp listed).1),
      List.nil_suffix⟩
  obtain ⟨page, fetched, given, _, ends, _⟩ := nothing.served encodes asked positive
  exact ⟨page, fetched, by simpa using given, ends (Nat.zero_le size)⟩

/-- The walk through the pages of a store that stays as it is ends.  Its pages together are the
unpaged list, which has every matching task exactly once, and all of them report the same total. -/
theorem page_walk_lists_once (encodes : runtime.EncodesText) (store : InMemoryTaskStore)
    (scope : Scope) (params : ListTasksRequest) {pageSize : Int}
    (asked : params.pageSize = some pageSize) (positive : 1 ≤ pageSize)
    (plain : ∀ task ∈ store.tasksOf scope, '|' ∉ (timestampOf task).toList) :
    ∃ pages, PageWalk runtime scope params still store "" pages ∧
      (∀ {others}, PageWalk runtime scope params still store "" others → others = pages) ∧
      (∀ whole : Nat, (store.tasksOf scope).length ≤ whole → ∃ unpaged,
        list runtime (store.tasksOf scope) { params with pageSize := some whole, pageToken := "" } =
          .ok unpaged ∧ pages.flatMap ListTasksResponse.tasks = unpaged.tasks) ∧
      (pages.flatMap ListTasksResponse.tasks).Perm
        (((store.tasksOf scope).filter (listed runtime params)).map (presented params)) ∧
      ((pages.flatMap ListTasksResponse.tasks).map Task.id).Nodup ∧
      ∀ page ∈ pages, page.totalSize = ((store.tasksOf scope).filter (listed runtime params)).length := by
  obtain ⟨size, rfl⟩ := Int.eq_ofNat_of_zero_le (show 0 ≤ pageSize by omega)
  have matching := sortedTasks_perm runtime params (store.tasksOf scope)
  have walked : ∃ pages, PageWalk runtime scope params still store "" pages ∧
      pages.flatMap ListTasksResponse.tasks =
        (sortedTasks runtime params (store.tasksOf scope)).map (presented params) ∧
      ∀ page ∈ pages, page.totalSize = (sortedTasks runtime params (store.tasksOf scope)).length := by
    refine Walk.covers (fun token rest => ∃ rows,
      Leaves runtime params (store.tasksOf scope) token rows ∧ rest = rows.map (presented params))
      (show 0 < size by omega) ?_ ⟨_, leaves_all runtime params _, rfl⟩
    rintro token _ ⟨rows, leaves, rfl⟩
    obtain ⟨page, fetched, given, total, ends, goes⟩ :=
      leaves.served encodes asked (by omega)
    rw [List.length_map, ← List.map_take, ← List.map_drop]
    refine ⟨page, fetched, given, total, ends, fun longer => ?_⟩
    obtain ⟨last, found, named⟩ := goes longer
    exact ⟨_, named, _, leaves.next encodes (store.tasksOf_distinct scope) plain found, rfl⟩
  obtain ⟨pages, walk, cut, totals⟩ := walked
  refine ⟨pages, walk, fun other => other.unique walk, fun whole enough => ?_, ?_, ?_, ?_⟩
  · obtain ⟨unpaged, fetched, given⟩ := list_unpaged runtime params enough
    exact ⟨unpaged, fetched, cut.trans given.symm⟩
  · rw [cut]
    exact matching.map (presented params)
  · have distinct := sortedTasks_distinct runtime params (store.tasksOf_distinct scope)
    rw [cut, List.map_map]
    simpa [Function.comp_def] using distinct
  · intro page listed
    rw [totals page listed, matching.length_eq]

open Scenario

theorem utf8Runtime_encodes : utf8Runtime.EncodesText where
  decodes text := by
    have valid : text.toByteArray.IsValidUTF8 := text.isValidUTF8
    simp only [utf8Runtime, Base64.decode_encode, Array.toArray_toList]
    change (String.fromUTF8? text.toByteArray).getD _ = text
    rw [String.fromUTF8?, dif_pos valid]
    rfl
  empty := by decide

theorem page_walk_lists_once_three :
    ∃ pages, PageWalk utf8Runtime aliceScope inPairs still (storeOf threeTasks) "" pages ∧
      (pages.flatMap ListTasksResponse.tasks).length = 3 := by
  obtain ⟨pages, walk, _, _, once, _, _⟩ := page_walk_lists_once utf8Runtime_encodes
    (storeOf threeTasks) aliceScope inPairs (show inPairs.pageSize = some 2 from rfl)
    (by decide) (by decide +kernel)
  exact ⟨pages, walk, once.length_eq.trans (by decide +kernel)⟩

/-- The store after any number of saves that `allowed` admits, in any scope. -/
inductive SavedOnly (allowed : Scope → Task → Prop) (store : InMemoryTaskStore) :
    InMemoryTaskStore → Prop where
  | unchanged : SavedOnly allowed store store
  | save {later : InMemoryTaskStore} {scope : Scope} {task : Task} : SavedOnly allowed store later →
      allowed scope task → SavedOnly allowed store (later.save scope task)

/-- A save that does not touch the task of an id.  What it stores has a usual timestamp. -/
def Beside (scope : Scope) (taskId : String) (stamped : String → Prop) (other : Scope) (saved : Task) :
    Prop :=
  other = scope → saved.id ≠ taskId ∧ stamped (timestampOf saved)

/-- When the next page is asked for, the last row of a page is there still: a matching task with
its timestamp and its id. -/
def CursorStays (runtime : Runtime) (scope : Scope) (params : ListTasksRequest)
    (page : ListTasksResponse) (later : InMemoryTaskStore) : Prop :=
  ∀ last ∈ page.tasks.getLast?, ∃ row ∈ later.tasksOf scope, listed runtime params row = true ∧
    timestampOf row = timestampOf last ∧ row.id = last.id

namespace SavedOnly

variable {allowed : Scope → Task → Prop} {store later : InMemoryTaskStore} {taskId : String}
  {stamped : String → Prop}

theorem keys (saved : SavedOnly allowed store later) (scope : Scope) :
    ((store.tasksOf scope).map Task.id).Sublist ((later.tasksOf scope).map Task.id) := by
  induction saved with
  | unchanged => exact List.Sublist.refl _
  | @save later other task _ _ ih =>
      refine ih.trans ?_
      rw [tasksOf_keys, tasksOf_keys]
      by_cases same : scope = other
      · subst same
        simpa [InMemoryTaskStore.save, ScopedStore.set] using
          (later.scopedStore.bucket scope).keys_set task.id task
      · rw [InMemoryTaskStore.save, ScopedStore.bucket_set_of_ne _ _ _ same]

theorem load (saved : SavedOnly (Beside scope taskId stamped) store later) :
    later.load scope taskId = store.load scope taskId := by
  induction saved with
  | unchanged => rfl
  | save _ beside ih =>
      rw [load_save_of_ne, ih]
      exact fun same => (beside same.1).1 same.2

theorem stamped_tasks (saved : SavedOnly (Beside scope taskId stamped) store later)
    (initial : ∀ task ∈ store.tasksOf scope, stamped (timestampOf task)) :
    ∀ task ∈ later.tasksOf scope, stamped (timestampOf task) := by
  induction saved with
  | unchanged => exact initial
  | save _ beside ih =>
      intro task member
      rw [mem_tasksOf, load_save] at member
      split at member
      · rename_i same
        cases member
        exact (beside same.1).2
      · exact ih task (mem_tasksOf.mpr member)

end SavedOnly

/-- A row that stands behind the last row of a page stands behind it still, wherever the saved
rows have gone: the timestamps and the ids of the two are what they were, and a save moves no key. -/
theorem stays_behind {stamped : String → Prop} (collates : runtime.Collates stamped)
    {store later : InMemoryTaskStore} {task last row : Task}
    (saved : SavedOnly (Beside scope task.id stamped) store later)
    (usual : ∀ row ∈ store.tasksOf scope, stamped (timestampOf row))
    (behind : [last, task].Sublist (sortedTasks runtime params (store.tasksOf scope)))
    (stays : row ∈ sortedTasks runtime params (later.tasksOf scope)) (named : names last row = true) :
    [row, task].Sublist (sortedTasks runtime params (later.tasksOf scope)) := by
  have ordered := orders_of_collates collates
  have usual' := saved.stamped_tasks usual
  have distinct := store.tasksOf_distinct scope
  have distinct' := later.tasksOf_distinct scope
  obtain ⟨lastHere, lastMatches⟩ := mem_sortedTasks.mp (behind.subset List.mem_cons_self)
  obtain ⟨taskHere, taskMatches⟩ := mem_sortedTasks.mp (behind.subset (List.mem_cons_of_mem _
    List.mem_cons_self))
  obtain ⟨rowThere, rowMatches⟩ := mem_sortedTasks.mp stays
  have taskThere : task ∈ later.tasksOf scope := by
    rw [mem_tasksOf, saved.load, ← mem_tasksOf]
    exact taskHere
  have sortedDistinct := (sortedTasks_distinct runtime params distinct).of_map
  have differ : last ≠ task := by
    rintro rfl
    exact pair_sublist_asymm sortedDistinct behind behind
  have differ' : row ≠ task := by
    intro same
    have ids : last.id = task.id := (names_iff.mp named).2.symm.trans (congrArg Task.id same)
    exact differ (List.inj_on_of_nodup_map distinct lastHere taskHere ids)
  obtain ⟨compared, ties⟩ := (ordered.pair_sorted_iff
    (fun item listed => usual item (List.mem_of_mem_filter listed))
    (distinct.of_map.filter _) (List.mem_filter.mpr ⟨lastHere, lastMatches⟩)
    (List.mem_filter.mpr ⟨taskHere, taskMatches⟩) differ).mp behind
  obtain ⟨forward, backward⟩ := comesFirst_names runtime named task
  refine (ordered.pair_sorted_iff
    (fun item listed => usual' item (List.mem_of_mem_filter listed))
    (distinct'.of_map.filter _) (List.mem_filter.mpr ⟨rowThere, rowMatches⟩)
    (List.mem_filter.mpr ⟨taskThere, taskMatches⟩) differ').mpr ⟨forward.trans compared, ?_⟩
  intro tied
  have earlier := ((ties (backward.symm.trans tied)).trans List.filter_sublist).map Task.id
  have keys : [row.id, task.id].Sublist ((later.tasksOf scope).map Task.id) := by
    rw [(names_iff.mp named).2]
    exact earlier.trans (saved.keys scope)
  have rows := (pair_sublist_map distinct' rowThere taskThere).mp keys
  simpa [rowMatches, taskMatches] using rows.filter (listed runtime params)

/-- A task is there, untouched, and among what a token leaves. -/
structure Ahead (runtime : Runtime) (scope : Scope) (params : ListTasksRequest)
    (stamped : String → Prop) (task : Task) (store : InMemoryTaskStore) (token : String) : Prop where
  usual : ∀ row ∈ store.tasksOf scope, stamped (timestampOf row)
  left : ∃ rest, Leaves runtime params (store.tasksOf scope) token rest ∧ task ∈ rest

/-- A page lists the task, or the next request still has it ahead. -/
theorem Ahead.served (encodes : runtime.EncodesText) {stamped : String → Prop}
    (collates : runtime.Collates stamped) {task : Task} {store : InMemoryTaskStore} {token : String}
    (asked : params.pageSize = some (size : Int)) (positive : 0 < size)
    (ahead : Ahead runtime scope params stamped task store token) :
    ∃ page, pageAt runtime scope params store token = .ok page ∧
      (presented params task ∈ page.tasks ∨ ∃ following, followingToken page = some following ∧
        ∀ {later}, SavedOnly (Beside scope task.id stamped) store later ∧
          CursorStays runtime scope params page later →
          Ahead runtime scope params stamped task later following) := by
  obtain ⟨rest, leaves, member⟩ := ahead.left
  obtain ⟨page, fetched, given, _, _, goes⟩ := leaves.served encodes asked positive
  refine ⟨page, fetched, ?_⟩
  rw [← List.take_append_drop size rest, List.mem_append] at member
  rcases member with listed | further
  · exact .inl (given ▸ List.mem_map_of_mem listed)
  · have longer : size < rest.length := by
      have positive := List.length_pos_of_mem further
      rw [List.length_drop] at positive
      omega
    obtain ⟨last, found, named⟩ := goes longer
    refine .inr ⟨_, named, fun {later} moved => ?_⟩
    obtain ⟨saved, stays⟩ := moved
    have behind : [last, task].Sublist (sortedTasks runtime params (store.tasksOf scope)) := by
      obtain ⟨shownRows, cut⟩ := List.getLast?_eq_some_iff.mp found
      refine List.Sublist.trans ?_ leaves.2.sublist
      rw [← List.take_append_drop size rest, cut, List.append_assoc]
      exact ((List.singleton_sublist.mpr further).cons_cons last).trans
        (List.sublist_append_right shownRows _)
    have shown : presented params last ∈ page.tasks.getLast? := by
      rw [given, List.getLast?_map, found]
      rfl
    obtain ⟨row, rowThere, rowMatches, rowNamed⟩ := stays _ shown
    have rowNamed : names last row = true := by
      simpa using names_iff.mpr rowNamed
    have rowSorted := mem_sortedTasks.mpr ⟨rowThere, rowMatches⟩
    have lastUsual := ahead.usual last (mem_sortedTasks.mp (behind.subset List.mem_cons_self)).1
    obtain ⟨rest', leaves', holds⟩ := leaves_behind encodes (later.tasksOf_distinct scope)
      (collates.plain lastUsual) rowSorted rowNamed
    exact ⟨saved.stamped_tasks ahead.usual, rest', leaves',
      holds (stays_behind collates saved ahead.usual behind rowSorted rowNamed)⟩

/-- While others save tasks between its requests, a walk lists every task they do not touch, if at
each request the row that the token names is still the one it was made from. -/
theorem untouched_task_listed (encodes : runtime.EncodesText) {stamped : String → Prop}
    (collates : runtime.Collates stamped) (scope : Scope) (params : ListTasksRequest)
    {pageSize : Int} (asked : params.pageSize = some pageSize) (positive : 1 ≤ pageSize)
    {store : InMemoryTaskStore} {task : Task} {pages : List ListTasksResponse}
    (usual : ∀ row ∈ store.tasksOf scope, stamped (timestampOf row))
    (stored : store.load scope task.id = some task) (wanted : listed runtime params task = true)
    (walk : PageWalk runtime scope params (fun store page later =>
      SavedOnly (Beside scope task.id stamped) store later ∧ CursorStays runtime scope params page later)
      store "" pages) :
    ∃ page ∈ pages, presented params task ∈ page.tasks := by
  obtain ⟨size, rfl⟩ := Int.eq_ofNat_of_zero_le (show 0 ≤ pageSize by omega)
  refine walk.hands_out (fun ahead => ahead.served encodes collates asked (by omega))
    (?_ : Ahead runtime scope params stamped task store "")
  exact ⟨usual, _, leaves_all runtime params _, mem_sortedTasks.mpr ⟨mem_tasksOf.mpr stored, wanted⟩⟩

section Examples

open Scenario

theorem utf8Runtime_collates : utf8Runtime.Collates dated where
  ordered := inferInstanceAs (Std.TransCmp (compare : String → String → Ordering))
  separates _ _ tie := compare_eq_iff_eq.mp tie
  plain usual bar := absurd (usual '|' bar) (by decide)

/-- The first page has two tasks, and its token names the second. -/
theorem threeTasks_page : ∃ page,
    pageAt utf8Runtime aliceScope inPairs (storeOf threeTasks) "" = .ok page ∧
      page.tasks = threeTasks.take 2 ∧ followingToken page =
        some (utf8Runtime.toBase64 (cursorText (stampedTask "t2|x" "2026-01-02"))) := by
  have sorted : sortedTasks utf8Runtime inPairs ((storeOf threeTasks).tasksOf aliceScope) =
      threeTasks := sortedTasks_of_sorted (by decide +kernel) (by decide +kernel)
  have leaves := leaves_all utf8Runtime inPairs ((storeOf threeTasks).tasksOf aliceScope)
  rw [sorted] at leaves
  obtain ⟨page, fetched, given, _, _, goes⟩ :=
    leaves.served utf8Runtime_encodes (show inPairs.pageSize = some (2 : Nat) from rfl) (by decide)
  obtain ⟨last, found, named⟩ := goes (by decide)
  cases found
  exact ⟨page, fetched, given, named⟩

/-- Another task arrives between the pages, and the third task is listed all the same. -/
theorem untouched_task_listed_third : ∃ pages,
    PageWalk utf8Runtime aliceScope inPairs (fun store page later =>
      SavedOnly (Beside aliceScope "t3" dated) store later ∧
        CursorStays utf8Runtime aliceScope inPairs page later) (storeOf threeTasks) "" pages ∧
    ∃ page ∈ pages, presented inPairs (stampedTask "t3" "2026-01-01") ∈ page.tasks := by
  obtain ⟨page, fetched, given, named⟩ := threeTasks_page
  let late := stampedTask "t0" "2025-12-31"
  let later := (storeOf threeTasks).save aliceScope late
  have sorted : sortedTasks utf8Runtime inPairs (later.tasksOf aliceScope) = threeTasks ++ [late] :=
    sortedTasks_of_sorted (by decide +kernel) (by decide +kernel)
  have leaves := leaves_all utf8Runtime inPairs (later.tasksOf aliceScope)
  rw [sorted] at leaves
  have behind := leaves.next utf8Runtime_encodes (later.tasksOf_distinct aliceScope)
    (by decide +kernel) (show ((threeTasks ++ [late]).take 2).getLast? =
      some (stampedTask "t2|x" "2026-01-02") from rfl)
  obtain ⟨page', fetched', _, _, ends, _⟩ :=
    behind.served utf8Runtime_encodes (show inPairs.pageSize = some (2 : Nat) from rfl) (by decide)
  have moved : SavedOnly (Beside aliceScope "t3" dated) (storeOf threeTasks) later ∧
      CursorStays utf8Runtime aliceScope inPairs page later := by
    refine ⟨.save .unchanged fun _ => ⟨by decide, by decide⟩, ?_⟩
    rw [CursorStays, given]
    rintro _ ⟨⟩
    exact ⟨stampedTask "t2|x" "2026-01-02", mem_tasksOf.mpr rfl, by decide +kernel, rfl, rfl⟩
  have walk : PageWalk utf8Runtime aliceScope inPairs (fun store page later =>
      SavedOnly (Beside aliceScope "t3" dated) store later ∧
        CursorStays utf8Runtime aliceScope inPairs page later) (storeOf threeTasks) "" [page, page'] :=
    .more fetched named moved (.last fetched' (ends (by decide)))
  exact ⟨_, walk, untouched_task_listed utf8Runtime_encodes utf8Runtime_collates aliceScope inPairs
    (show inPairs.pageSize = some 2 from rfl) (by decide) (by decide +kernel)
    (show (storeOf threeTasks).load aliceScope "t3" = some (stampedTask "t3" "2026-01-01") from rfl)
    (by decide +kernel) walk⟩

/-- The last task of the first page is saved again before the second page is asked for.  That
page is empty and the walk is over, without the third task. -/
theorem resaved_row_hides_untouched_task : ∃ pages,
    PageWalk utf8Runtime aliceScope inPairs (fun store _ later =>
      SavedOnly (Beside aliceScope "t3" dated) store later) (storeOf threeTasks) "" pages ∧
    (storeOf threeTasks).load aliceScope "t3" = some (stampedTask "t3" "2026-01-01") ∧
    listed utf8Runtime inPairs (stampedTask "t3" "2026-01-01") = true ∧
    ∀ page ∈ pages, ∀ task ∈ page.tasks, task.id ≠ "t3" := by
  obtain ⟨page, fetched, given, named⟩ := threeTasks_page
  let moved := stampedTask "t2|x" "2026-01-04"
  obtain ⟨page', fetched', given', ends⟩ := moved_row_ends_walk utf8Runtime_encodes
    (show inPairs.pageSize = some (2 : Nat) from rfl) (by decide)
    (show '|' ∉ (timestampOf (stampedTask "t2|x" "2026-01-02")).toList by decide)
    (show ∀ row ∈ ((storeOf threeTasks).save aliceScope moved).tasksOf aliceScope,
      names (stampedTask "t2|x" "2026-01-02") row = false by decide +kernel)
  have saved : SavedOnly (Beside aliceScope "t3" dated) (storeOf threeTasks)
      ((storeOf threeTasks).save aliceScope moved) :=
    .save .unchanged fun _ => ⟨by decide, by decide⟩
  refine ⟨[page, page'], .more fetched named saved (.last fetched' ends), rfl, rfl, ?_⟩
  rw [List.forall_mem_cons, List.forall_mem_singleton, given, given']
  exact ⟨by decide, by simp⟩

end Examples

end A2A.Server
