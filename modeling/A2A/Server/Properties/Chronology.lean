import A2A.Server.Semantics.Listing
import A2A.Server.Scenario

namespace A2A.Server

open Library InMemoryTaskStore

/-! The order in which `list` returns tasks, beside the order of their timestamps in time.

The sort compares the timestamps as strings, the filter `statusTimestampAfter`
compares the instants that they denote.
-/

/-- The instant of a task's timestamp, as the filter reads it. -/
def instantOf (runtime : Runtime) (task : Task) : Option Int := runtime.dateParse (timestampOf task)

/-- The second task's instant is not behind the first's. -/
def NotLater (runtime : Runtime) (first second : Task) : Prop :=
  ∀ one two, instantOf runtime first = some one → instantOf runtime second = some two → two ≤ one

/-- Every task has a timestamp that denotes an instant, in a spelling that the collation knows. -/
structure Dated (runtime : Runtime) (stamped : String → Prop) (bucket : List Task) : Prop where
  usual : ∀ task ∈ bucket, stamped (timestampOf task)
  given : ∀ task ∈ bucket, timestampOf task ≠ ""
  read : ∀ task ∈ bucket, ∃ instant, instantOf runtime task = some instant

/-- Whatever is asked for comes in non-increasing order of the instants, and who asks for what
is later than an instant is given all of it. -/
structure Chronological (runtime : Runtime) (bucket : List Task) : Prop where
  ordered : ∀ {params : ListTasksRequest} {response : ListTasksResponse},
    list runtime bucket params = .ok response → response.tasks.Pairwise (NotLater runtime)
  polled : ∀ {params : ListTasksRequest} {after : String} {filterTime instant : Int} {size : Nat} {task : Task},
    params.statusTimestampAfter = some after → runtime.dateParse after = some filterTime →
    params.pageToken = "" → params.pageSize = some (size : Int) → bucket.length ≤ size →
    task ∈ bucket → listed runtime { params with statusTimestampAfter := none } task = true →
    instantOf runtime task = some instant → filterTime < instant →
    ∃ response, list runtime bucket params = .ok response ∧ presented params task ∈ response.tasks

/-- A timestamp that the collation puts above another denotes no earlier instant. -/
def CollatesInTime (runtime : Runtime) (bucket : List Task) : Prop :=
  ∀ first ∈ bucket, ∀ second ∈ bucket,
    runtime.localeCompare (timestampOf first) (timestampOf second) = .gt → NotLater runtime first second

section Rows

variable {runtime : Runtime} {bucket tasks rest : List Task} {params : ListTasksRequest}
  {response : ListTasksResponse}

theorem afterToken_sublist {pageToken : String} (behind : afterToken runtime tasks pageToken = .ok rest) :
    rest.Sublist tasks := by
  unfold afterToken at behind
  split at behind
  · cases behind
    exact List.Sublist.refl _
  · split at behind
    · simp only at behind
      split at behind
      · cases behind
        exact List.drop_sublist _ _
      · cases behind
        exact List.nil_sublist _
    · cases behind

theorem sliceFirst_sublist (items : List Task) (size : Int) : (sliceFirst items size).Sublist items := by
  unfold sliceFirst
  split
  · exact List.take_sublist _ _
  · exact List.take_sublist _ _

/-- A page holds sorted rows. -/
theorem list_sublist (answered : list runtime bucket params = .ok response) :
    ∃ rows : List Task, rows.Sublist (sortedTasks runtime params bucket) ∧
      response.tasks = rows.map (presented params) := by
  cases behind : afterToken runtime (sortedTasks runtime params bucket) params.pageToken with
  | error message =>
      simp only [list, mergeSort_listed, behind] at answered
      cases answered
  | ok rest =>
      rw [list_eq params behind] at answered
      cases answered
      exact ⟨_, (sliceFirst_sublist rest _).trans (afterToken_sublist behind), rfl⟩

/-- A first page that is large enough holds every matching row. -/
theorem list_whole (params : ListTasksRequest) {size : Nat} (untokened : params.pageToken = "")
    (asked : params.pageSize = some (size : Int)) (enough : bucket.length ≤ size) :
    ∃ response, list runtime bucket params = .ok response ∧
      response.tasks = (sortedTasks runtime params bucket).map (presented params) := by
  have behind : afterToken runtime (sortedTasks runtime params bucket) params.pageToken =
      .ok (sortedTasks runtime params bucket) := by
    rw [untokened]
    exact if_pos rfl
  have within : (sortedTasks runtime params bucket).length ≤ size := by
    have fewer := (sortedTasks_perm runtime params bucket).length_eq
    have kept := List.length_filter_le (listed runtime params) bucket
    omega
  refine ⟨_, list_eq params behind, ?_⟩
  simp only [asked, Option.getD_some, sliceFirst_natCast, List.take_of_length_le within]

end Rows

section Time

variable {runtime : Runtime} {stamped : String → Prop} {bucket : List Task}

@[simp] theorem instantOf_presented (params : ListTasksRequest) (task : Task) :
    instantOf runtime (presented params task) = instantOf runtime task := by
  rw [instantOf, timestampOf_presented, instantOf]

/-- The filter compares instants, so that it leaves out nothing that is later. -/
theorem listed_later {params : ListTasksRequest} {after : String} {filterTime instant : Int} {task : Task}
    (asked : params.statusTimestampAfter = some after) (bound : runtime.dateParse after = some filterTime)
    (given : timestampOf task ≠ "")
    (matching : listed runtime { params with statusTimestampAfter := none } task = true)
    (denotes : instantOf runtime task = some instant) (later : filterTime < instant) :
    listed runtime params task = true := by
  have held : task.status.bind TaskStatus.timestamp = some (timestampOf task) := by
    unfold timestampOf at given ⊢
    cases found : task.status.bind TaskStatus.timestamp with
    | none => exact absurd (by rw [found]; rfl) given
    | some timestamp => rfl
  have denoted : runtime.dateParse (timestampOf task) = some instant := denotes
  unfold listed at matching ⊢
  rw [Bool.and_eq_true] at matching
  rw [asked, held]
  simp [matching.1, bound, denoted, later, given]

/-- Sorted rows are in the order of time when the collation is. -/
theorem sorted_in_time (collates : runtime.Collates stamped) (dated : Dated runtime stamped bucket)
    (agrees : CollatesInTime runtime bucket) (params : ListTasksRequest) :
    (sortedTasks runtime params bucket).Pairwise (NotLater runtime) := by
  have ordered := collates.ordered
  have usual : ∀ task ∈ bucket.filter (listed runtime params), stamped (timestampOf task) :=
    fun task member => dated.usual task (List.mem_of_mem_filter member)
  have sorted := (orders_of_collates collates).pairwise_sorted usual
  refine sorted.imp_of_mem fun {first second} one two compared => ?_
  have one := (mem_sortedTasks.mp one).1
  have two := (mem_sortedTasks.mp two).1
  by_cases same : timestampOf first = timestampOf second
  · intro before after denotes denoted
    rw [instantOf, same] at denotes
    rw [instantOf, denotes] at denoted
    exact (Option.some.inj denoted).symm.le
  · rw [comesFirst_of_ne same] at compared
    refine agrees first one second two (Std.OrientedCmp.gt_iff_lt.mpr ?_)
    cases order : runtime.localeCompare (timestampOf second) (timestampOf first) with
    | lt => rfl
    | eq => exact absurd (collates.separates (dated.usual second two) (dated.usual first one) order).symm same
    | gt =>
        rw [order] at compared
        cases compared

/-- A request for all tasks on one page. -/
def everything (size : Nat) : ListTasksRequest where
  tenant := ""
  contextId := ""
  status := .unspecified
  pageSize := some (size : Int)
  pageToken := ""
  historyLength := none
  statusTimestampAfter := none
  includeArtifacts := none

/-- A listing in the order of time shows that the collation agrees with it. -/
theorem Chronological.collatesInTime (collates : runtime.Collates stamped)
    (dated : Dated runtime stamped bucket) (chronological : Chronological runtime bucket) :
    CollatesInTime runtime bucket := by
  intro first one second two above
  have ordered := collates.ordered
  obtain ⟨response, answered, returned⟩ :=
    @list_whole runtime bucket (everything bucket.length) _ rfl rfl (Nat.le_refl _)
  have inTime := chronological.ordered answered
  rw [returned, List.pairwise_map] at inTime
  have usual : ∀ task ∈ bucket.filter (listed runtime (everything bucket.length)), stamped (timestampOf task) :=
    fun task member => dated.usual task (List.mem_of_mem_filter member)
  have sorted := (orders_of_collates collates).pairwise_sorted usual
  have matching : ∀ task ∈ bucket, task ∈ sortedTasks runtime (everything bucket.length) bucket :=
    fun task member => mem_sortedTasks.mpr ⟨member, rfl⟩
  have apart : timestampOf first ≠ timestampOf second := by
    intro same
    have tie : runtime.localeCompare (timestampOf second) (timestampOf second) = .eq := Std.ReflCmp.compare_self
    rw [same, tie] at above
    cases above
  have differ : first ≠ second := fun same => apart (congrArg timestampOf same)
  rcases pair_sublist_total (matching first one) (matching second two) differ with before | after
  · intro instant other denotes denoted
    have pair := List.pairwise_iff_forall_sublist.mp inTime before instant other
    rw [instantOf_presented, instantOf_presented] at pair
    exact pair denotes denoted
  · have compared := List.pairwise_iff_forall_sublist.mp sorted after
    rw [comesFirst_of_ne (Ne.symm apart), above] at compared
    cases compared

/-- The listing is in the order of time exactly when the collation of its timestamps is. -/
theorem list_chronological_iff (collates : runtime.Collates stamped) (dated : Dated runtime stamped bucket) :
    Chronological runtime bucket ↔ CollatesInTime runtime bucket := by
  refine ⟨fun chronological => chronological.collatesInTime collates dated, fun agrees => ⟨?_, ?_⟩⟩
  · intro params response answered
    obtain ⟨rows, listed, returned⟩ := list_sublist answered
    have inTime := (sorted_in_time collates dated agrees params).sublist listed
    rw [returned, List.pairwise_map]
    refine inTime.imp fun {first second} notLater one two denotes denoted => ?_
    rw [instantOf_presented] at denotes denoted
    exact notLater one two denotes denoted
  · intro params after filterTime instant size task asked bound untokened sized enough member matching
      denotes later
    obtain ⟨response, answered, returned⟩ := @list_whole runtime bucket params _ untokened sized enough
    refine ⟨response, answered, ?_⟩
    rw [returned]
    exact List.mem_map_of_mem (mem_sortedTasks.mpr ⟨member,
      listed_later asked bound (dated.given task member) matching denotes later⟩)

end Time

section Examples

open Scenario

/-- The days between the first of January 1970 and a date. -/
def daysFromCivil (year month day : Int) : Int :=
  let shifted := if month ≤ 2 then year - 1 else year
  let yearOfEra := shifted % 400
  let dayOfYear := (153 * (if month ≤ 2 then month + 9 else month - 3) + 2) / 5 + day - 1
  shifted / 400 * 146097 + yearOfEra * 365 + yearOfEra / 4 - yearOfEra / 100 + dayOfYear - 719468

def decimal (digits : List Char) : Int := Nat.ofDigitChars 10 digits 0

/-- The minutes that a zone designator is ahead of UTC. -/
def zoneMinutes : List Char → Option Int
  | ['Z'] => some 0
  | ['+', h₁, h₂, ':', m₁, m₂] => some (decimal [h₁, h₂] * 60 + decimal [m₁, m₂])
  | ['-', h₁, h₂, ':', m₁, m₂] => some (-(decimal [h₁, h₂] * 60 + decimal [m₁, m₂]))
  | _ => none

/-- The milliseconds of a fraction, and what follows it. -/
def fraction : List Char → Int × List Char
  | '.' :: rest =>
      (decimal (((rest.takeWhile Char.isDigit) ++ ['0', '0', '0']).take 3), rest.dropWhile Char.isDigit)
  | rest => (0, rest)

/-- `Date.parse` on date-times with a zone designator, in milliseconds. -/
def isoInstant (timestamp : String) : Option Int :=
  match timestamp.toList with
  | y₁ :: y₂ :: y₃ :: y₄ :: '-' :: m₁ :: m₂ :: '-' :: d₁ :: d₂ :: 'T' :: h₁ :: h₂ :: ':' :: i₁ :: i₂ ::
      ':' :: s₁ :: s₂ :: rest =>
      let (milliseconds, zone) := fraction rest
      let days := daysFromCivil (decimal [y₁, y₂, y₃, y₄]) (decimal [m₁, m₂]) (decimal [d₁, d₂])
      let minutes := days * 1440 + decimal [h₁, h₂] * 60 + decimal [i₁, i₂]
      (zoneMinutes zone).map fun ahead => ((minutes - ahead) * 60 + decimal [s₁, s₂]) * 1000 + milliseconds
  | _ => none

/-- Strings compared by code point, which where digits differ first is their collation. -/
def isoRuntime : Runtime := { utf8Runtime with dateParse := isoInstant }

def isoSpelled (timestamp : String) : Prop :=
  ∀ char ∈ timestamp.toList, char.isDigit ∨ char ∈ ['-', ':', '.', '+', 'T', 'Z']

instance (timestamp : String) : Decidable (isoSpelled timestamp) :=
  List.decidableBAll (fun char : Char => char.isDigit = true ∨ char ∈ ['-', ':', '.', '+', 'T', 'Z'])
    timestamp.toList

theorem isoRuntime_collates : isoRuntime.Collates isoSpelled where
  ordered := inferInstanceAs (Std.TransCmp (compare : String → String → Ordering))
  separates _ _ tie := compare_eq_iff_eq.mp tie
  plain usual bar := absurd (usual '|' bar) (by decide)

/-- Fractions of one and of three digits, at UTC and an hour ahead of it. -/
def spelledTasks : List Task :=
  [stampedTask "t1" "2026-01-01T01:00:00.5Z", stampedTask "t2" "2026-01-01T01:00:00.250+01:00"]

theorem spelledTasks_dated : Dated isoRuntime isoSpelled spelledTasks where
  usual := by decide +kernel
  given := by decide +kernel
  read := by
    unfold spelledTasks
    rw [List.forall_mem_cons, List.forall_mem_singleton]
    exact ⟨⟨1767229200500, by decide +kernel⟩, ⟨1767225600250, by decide +kernel⟩⟩

theorem list_chronological_spelled :
    isoRuntime.Collates isoSpelled ∧ Dated isoRuntime isoSpelled spelledTasks ∧
      (Chronological isoRuntime spelledTasks ↔ CollatesInTime isoRuntime spelledTasks) :=
  ⟨isoRuntime_collates, spelledTasks_dated, list_chronological_iff isoRuntime_collates spelledTasks_dated⟩

/-- The first is an hour and a half before the second. -/
def offsetTasks : List Task :=
  [stampedTask "t1" "2026-01-01T01:00:00+02:00", stampedTask "t2" "2026-01-01T00:30:00Z"]

/-- The earlier task comes first, since its local time is the later one. -/
theorem list_not_chronological :
    Dated isoRuntime isoSpelled offsetTasks ∧ ¬ Chronological isoRuntime offsetTasks := by
  have dated : Dated isoRuntime isoSpelled offsetTasks :=
    { usual := by decide +kernel
      given := by decide +kernel
      read := by
        unfold offsetTasks
        rw [List.forall_mem_cons, List.forall_mem_singleton]
        exact ⟨⟨1767222000000, by decide +kernel⟩, ⟨1767227400000, by decide +kernel⟩⟩ }
  refine ⟨dated, fun chronological => ?_⟩
  have agrees := chronological.collatesInTime isoRuntime_collates dated
  have later := agrees _ List.mem_cons_self _ (List.mem_cons_of_mem _ List.mem_cons_self) (by decide +kernel)
    1767222000000 1767227400000 (by decide +kernel) (by decide +kernel)
  omega

end Examples

end A2A.Server
