import Mathlib.Data.List.TakeWhile
import A2A.Compat.Translate
import A2A.Library.Router

namespace A2A.Compat

open Library

/-! Push notification configurations of v0.3, and the resource names that stand for them. -/

namespace Legacy

structure TaskPushNotificationConfig where
  taskId : String
  pushNotificationConfig : PushNotificationConfig

end Legacy

namespace Proto

structure TaskPushNotificationConfig where
  name : String
  pushNotificationConfig : Option PushNotificationConfig

end Proto

namespace FromProto

/-- `name.match(/^tasks\/([^/]+)\/pushNotificationConfigs\/([^/]+)$/)` -/
def extractTaskAndPushNotificationConfigId (name : String) : Except CompatError (String × String) :=
  let missing := CompatError.invalidParams ("Invalid or missing config ID in: \"" ++ name ++ "\"")
  match name.toList.splitOn '/' with
  | [tasks, taskId, configs, configId] =>
      if tasks = "tasks".toList ∧ configs = "pushNotificationConfigs".toList ∧
          taskId ≠ [] ∧ configId ≠ [] then
        .ok (String.ofList taskId, String.ofList configId)
      else .error missing
  | _ => .error missing

def taskPushNotificationConfig (request : Proto.TaskPushNotificationConfig) :
    Except CompatError Legacy.TaskPushNotificationConfig :=
  match request.pushNotificationConfig with
  | none => .error (.invalidParams "TaskPushNotificationConfig missing pushNotificationConfig")
  | some config => do
      let taskId ← extractTaskId request.name
      return { taskId, pushNotificationConfig := pushNotificationConfig config }

end FromProto

namespace ToProto

def generatePushNotificationConfigName (taskId configId : String) : String :=
  "tasks/" ++ taskId ++ "/pushNotificationConfigs/" ++ configId

def taskPushNotificationConfig (config : Legacy.TaskPushNotificationConfig) :
    Proto.TaskPushNotificationConfig where
  name := generatePushNotificationConfigName config.taskId (config.pushNotificationConfig.id.getD "")
  pushNotificationConfig := some (pushNotificationConfig config.pushNotificationConfig)

end ToProto

def toCoreTaskPushNotificationConfig (compat : Legacy.TaskPushNotificationConfig) (tenant : String) :
    A2A.TaskPushNotificationConfig :=
  { toCorePushNotificationConfig compat.pushNotificationConfig with tenant, taskId := compat.taskId }

def toCompatAuthenticationInfo (core : A2A.AuthenticationInfo) :
    Legacy.PushNotificationAuthenticationInfo where
  schemes := if core.scheme = "" then [] else [core.scheme]
  credentials := nonEmpty core.credentials

def toCompatPushNotificationConfig (core : A2A.TaskPushNotificationConfig) :
    Legacy.PushNotificationConfig where
  id := nonEmpty core.id
  url := core.url
  token := nonEmpty core.token
  authentication := core.authentication.map toCompatAuthenticationInfo

def toCompatTaskPushNotificationConfig (core : A2A.TaskPushNotificationConfig) :
    Legacy.TaskPushNotificationConfig where
  taskId := core.taskId
  pushNotificationConfig := toCompatPushNotificationConfig core

section Names

variable {name taskId configId : String}

theorem extractTaskId_tasks (rest : List Char) (same : name.toList = "tasks/".toList ++ rest) :
    FromProto.extractTaskId name =
      if (rest.takeWhile (· ≠ '/')).isEmpty then
        .error (.invalidParams ("Invalid or missing task ID in: \"" ++ name ++ "\""))
      else .ok (String.ofList (rest.takeWhile (· ≠ '/'))) := by
  have spelled : name.toList = 't' :: 'a' :: 's' :: 'k' :: 's' :: '/' :: rest := same
  rw [FromProto.extractTaskId, spelled]
  rfl

/-- The task that a resource name belongs to: what stands between `tasks/` and the next slash. -/
theorem extractTaskId_iff :
    FromProto.extractTaskId name = .ok taskId ↔
      taskId ≠ "" ∧ '/' ∉ taskId.toList ∧
        ∃ rest, name.toList = "tasks/".toList ++ (taskId.toList ++ rest) ∧
          ∀ char, rest.head? = some char → char = '/' := by
  constructor
  · intro found
    unfold FromProto.extractTaskId at found
    dsimp only at found
    split at found
    · rename_i rest same
      split at found
      · exact nomatch found
      · rename_i given
        cases found
        refine ⟨?_, ?_, rest.dropWhile (· ≠ '/'), ?_, ?_⟩
        · intro empty
          exact given (by rw [← String.toList_ofList (l := rest.takeWhile _), empty]; rfl)
        · rw [String.toList_ofList]
          intro member
          have differs := List.mem_takeWhile_imp member
          simp at differs
        · have whole : rest.takeWhile (· ≠ '/') ++ rest.dropWhile (· ≠ '/') = rest :=
            List.takeWhile_append_dropWhile
          rw [@String.toList_ofList (rest.takeWhile (· ≠ '/')), whole]
          exact same
        · intro char first
          have stopped := List.head?_dropWhile_not (fun char => decide (char ≠ '/')) rest
          rw [first] at stopped
          simpa using stopped
    · exact nomatch found
  · rintro ⟨given, clear, rest, same, stops⟩
    have taken : (taskId.toList ++ rest).takeWhile (· ≠ '/') = taskId.toList := by
      have stopped : rest.takeWhile (· ≠ '/') = [] := by
        cases rest with
        | nil => rfl
        | cons char rest => rw [stops char rfl]; rfl
      rw [List.takeWhile_append_of_pos, stopped, List.append_nil]
      intro char member
      exact decide_eq_true (fun same => clear (same ▸ member))
    have filled : taskId.toList.isEmpty = false := by
      simpa using given
    rw [extractTaskId_tasks _ same, taken, filled, String.ofList_toList]
    rfl

/-- An id that can stand in a resource name: not empty, and without a slash. -/
def FitsName (id : String) : Prop := id ≠ "" ∧ '/' ∉ id.toList

theorem toList_generatePushNotificationConfigName (taskId configId : String) :
    (ToProto.generatePushNotificationConfigName taskId configId).toList =
      "tasks".toList ++ [taskId.toList, "pushNotificationConfigs".toList, configId.toList].flatMap
        ('/' :: ·) := by
  rw [ToProto.generatePushNotificationConfigName, String.toList_append, String.toList_append,
    String.toList_append]
  have tasks : "tasks/".toList = "tasks".toList ++ ['/'] := rfl
  have configs : "/pushNotificationConfigs/".toList = '/' :: ("pushNotificationConfigs".toList ++ ['/']) := rfl
  rw [tasks, configs]
  generalize "tasks".toList = tasks
  generalize "pushNotificationConfigs".toList = configs
  simp

theorem extract_generate (task : FitsName taskId) (config : FitsName configId) :
    FromProto.extractTaskAndPushNotificationConfigId
      (ToProto.generatePushNotificationConfigName taskId configId) = .ok (taskId, configId) := by
  have clear : ∀ part ∈ "tasks".toList ::
      [taskId.toList, "pushNotificationConfigs".toList, configId.toList], '/' ∉ part := by
    simp only [List.mem_cons, List.not_mem_nil, or_false]
    rintro part (rfl | rfl | rfl | rfl)
    · decide
    · exact task.2
    · decide
    · exact config.2
  have parts := Router.splitOn_parts clear
  rw [← toList_generatePushNotificationConfigName] at parts
  unfold FromProto.extractTaskAndPushNotificationConfigId
  dsimp only
  rw [parts]
  dsimp only
  rw [if_pos ⟨rfl, rfl, by simpa using task.1, by simpa using config.1⟩, String.ofList_toList,
    String.ofList_toList]

end Names

end A2A.Compat
