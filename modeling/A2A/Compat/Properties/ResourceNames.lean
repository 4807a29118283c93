import A2A.Compat.PushNotifications

namespace A2A.Compat

open Library

/-! What the slash-separated resource names of v0.3 decode to.

An id is pasted into a name as it is.  The name of a configuration is matched as a
whole, the name of a task only as far as the next slash.
-/

/-- The text is decoded to the given id, or refused. -/
def DecodesTo {α : Type} (extracted : Except CompatError α) (id : α) : Prop :=
  extracted = .ok id ∨ ∃ error, extracted = .error error

theorem DecodesTo.eq {α : Type} {extracted : Except CompatError α} {id other : α}
    (decodes : DecodesTo extracted id) (found : extracted = .ok other) : other = id := by
  rcases decodes with same | ⟨error, refused⟩
  · exact Except.ok.inj (found.symm.trans same)
  · exact nomatch found.symm.trans refused

section Names

variable (taskId configId : String)

/-- A task's name decodes to its id up to the first slash. -/
theorem extractTaskId_generateTaskName :
    FromProto.extractTaskId (ToProto.generateTaskName taskId) =
      if (taskId.toList.takeWhile (· ≠ '/')).isEmpty then
        .error (.invalidParams ("Invalid or missing task ID in: \"" ++ ToProto.generateTaskName taskId ++ "\""))
      else .ok (String.ofList (taskId.toList.takeWhile (· ≠ '/'))) :=
  extractTaskId_tasks taskId.toList String.toList_append

theorem taskName_decodes_iff :
    DecodesTo (FromProto.extractTaskId (ToProto.generateTaskName taskId)) taskId ↔
      ('/' ∈ taskId.toList → taskId.toList.head? = some '/') := by
  rw [extractTaskId_generateTaskName]
  cases text : taskId.toList with
  | nil => exact ⟨fun _ => nofun, fun _ => .inr ⟨_, if_pos rfl⟩⟩
  | cons first rest =>
      by_cases leading : first = '/'
      · subst leading
        exact ⟨fun _ _ => rfl, fun _ => .inr ⟨_, if_pos rfl⟩⟩
      · have taken : (first :: rest).takeWhile (· ≠ '/') = first :: rest.takeWhile (· ≠ '/') :=
          List.takeWhile_cons_of_pos (decide_eq_true leading)
        rw [taken, List.isEmpty_cons, if_neg Bool.false_ne_true]
        constructor
        · intro decodes slash
          have whole := congrArg String.toList (decodes.eq rfl)
          rw [String.toList_ofList, text, List.cons.injEq] at whole
          have clear := List.takeWhile_eq_self_iff.mp whole.2
          cases List.mem_cons.mp slash with
          | inl same => exact absurd same.symm leading
          | inr later => exact absurd rfl (of_decide_eq_true (clear '/' later))
        · intro slashes
          have clear : '/' ∉ first :: rest := fun slash =>
            leading (Option.some.inj (slashes slash))
          have whole : rest.takeWhile (· ≠ '/') = rest :=
            List.takeWhile_eq_self_iff.mpr fun char member =>
              decide_eq_true fun same => clear (List.mem_cons_of_mem _ (same ▸ member))
          rw [whole, ← text, String.ofList_toList]
          exact .inl rfl

theorem splitOn_generatePushNotificationConfigName :
    (ToProto.generatePushNotificationConfigName taskId configId).toList.splitOn '/' =
      "tasks".toList ::
        (taskId.toList.splitOn '/' ++ "pushNotificationConfigs".toList :: configId.toList.splitOn '/') := by
  have clear : '/' ∉ "tasks".toList ∧ '/' ∉ "pushNotificationConfigs".toList := by decide
  have spelled : (ToProto.generatePushNotificationConfigName taskId configId).toList =
      "tasks".toList ++
        '/' :: (taskId.toList ++ '/' :: ("pushNotificationConfigs".toList ++ '/' :: configId.toList)) := by
    rw [toList_generatePushNotificationConfigName]
    simp only [List.flatMap_cons, List.flatMap_nil, List.append_nil, List.cons_append]
  rw [spelled, List.splitOn_append_cons_self_of_not_mem clear.1, List.splitOn_append_cons_self,
    List.splitOn_append_cons_self_of_not_mem clear.2]

/-- A text that splits into one part is this part. -/
theorem eq_of_splitOn_singleton {text part : List Char} (single : text.splitOn '/' = [part]) : part = text := by
  have joined : ['/'].intercalate (text.splitOn '/') = text := List.intercalate_splitOn '/'
  rwa [single, List.intercalate_singleton] at joined

/-- The name of a configuration decodes to the ids that it was made of, or is refused. -/
theorem configName_decodes :
    DecodesTo (FromProto.extractTaskAndPushNotificationConfigId
      (ToProto.generatePushNotificationConfigName taskId configId)) (taskId, configId) := by
  unfold FromProto.extractTaskAndPushNotificationConfigId
  dsimp only
  rw [splitOn_generatePushNotificationConfigName]
  split
  · rename_i tasks task configs config parts
    rw [List.cons.injEq] at parts
    have lengths := congrArg List.length parts.2
    rw [List.length_append, List.length_cons] at lengths
    have taskParts := List.length_pos_of_ne_nil (List.splitOn_ne_nil '/' taskId.toList)
    have configParts := List.length_pos_of_ne_nil (List.splitOn_ne_nil '/' configId.toList)
    simp only [List.length_cons, List.length_nil] at lengths
    obtain ⟨own, single⟩ := List.length_eq_one_iff.mp
      (show (taskId.toList.splitOn '/').length = 1 by omega)
    obtain ⟨ownConfig, singleConfig⟩ := List.length_eq_one_iff.mp
      (show (configId.toList.splitOn '/').length = 1 by omega)
    rw [single, singleConfig] at parts
    simp only [List.singleton_append, List.cons.injEq, and_true] at parts
    obtain ⟨-, rfl, -, rfl⟩ := parts
    split
    · left
      rw [eq_of_splitOn_singleton single, eq_of_splitOn_singleton singleConfig, String.ofList_toList,
        String.ofList_toList]
    · exact .inr ⟨_, rfl⟩
  · exact .inr ⟨_, rfl⟩

/-- Names decode to no other id exactly where the task's id has no slash, or begins with one. -/
theorem resourceNames_decode_iff :
    DecodesTo (FromProto.extractTaskId (ToProto.generateTaskName taskId)) taskId ∧
        DecodesTo (FromProto.extractTaskAndPushNotificationConfigId
          (ToProto.generatePushNotificationConfigName taskId configId)) (taskId, configId) ↔
      ('/' ∈ taskId.toList → taskId.toList.head? = some '/') := by
  rw [taskName_decodes_iff]
  exact and_iff_left (configName_decodes taskId configId)

/-- The task `a/b` is taken for the task `a`. -/
theorem slashedTask_decodes_wrongly :
    FromProto.extractTaskId (ToProto.generateTaskName "a/b") = .ok "a" ∧
      ¬ DecodesTo (FromProto.extractTaskId (ToProto.generateTaskName "a/b")) "a/b" := by
  have taken : FromProto.extractTaskId (ToProto.generateTaskName "a/b") = .ok "a" := by decide +kernel
  exact ⟨taken, fun decodes => absurd (decodes.eq taken) (by decide)⟩

end Names

end A2A.Compat
