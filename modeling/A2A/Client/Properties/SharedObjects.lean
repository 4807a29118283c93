import A2A.Client.MultitransportClient

namespace A2A.Client

/-! When the calls of a client leave each other and the objects of their callers alone. -/

variable {Ref : Type} [DecidableEq Ref] {config : ClientConfig} {objects : Objects Ref}

/-- A client that fills its defaults into copies: only the callers write to their objects,
and a request depends on nothing but its own call. -/
def Action.aside (config : ClientConfig) (objects : Objects Ref) (action : Action Ref) :
    List SentRequest × Objects Ref :=
  match action with
  | call _ _ => ((action.perform config objects).1, objects)
  | assign _ _ => action.perform config objects

/-- After each action, the client sent what one working on copies sends, and it left the
objects of the callers as they wrote them. -/
def Isolated (config : ClientConfig) (objects : Objects Ref) (actions : List (Action Ref)) : Prop :=
  ∀ before, before <+: actions →
    performAll (Action.perform config) objects before = performAll (Action.aside config) objects before

/-- An object that the defaults of a client add nothing to. -/
structure ConfigurationObject.Complete (config : ClientConfig) (taskId : Option String)
    (object : ConfigurationObject) : Prop where
  modes : object.acceptedOutputModes.isSome
  returning : object.returnImmediately.isSome
  pushing : object.taskPushNotificationConfig = none → taskId.isSome → config.pushNotificationConfig = none

/-- The request of a call brings no object of its caller, or a complete one. -/
def Action.Settled (config : ClientConfig) (objects : Objects Ref) : Action Ref → Prop
  | call _ params => ∀ ref ∈ params.configuration, (objects ref).Complete config params.taskId
  | assign _ _ => True

/-- Every call is settled by the time it is made, with the objects as the callers wrote them. -/
def AllSettled (config : ClientConfig) (objects : Objects Ref) (actions : List (Action Ref)) : Prop :=
  ∀ before action after, actions = before ++ action :: after →
    action.Settled config (performAll (Action.aside config) objects before).2

theorem ConfigurationObject.fill_eq_self_iff {taskId : Option String} {returnImmediately : Bool}
    {object : ConfigurationObject} :
    object.fill config taskId returnImmediately = object ↔ object.Complete config taskId := by
  rcases object with ⟨modes, pushing, length, returning⟩
  constructor
  · intro same
    simp only [ConfigurationObject.fill, ConfigurationObject.mk.injEq] at same
    obtain ⟨modes', pushing', -, returning'⟩ := same
    refine ⟨modes' ▸ rfl, returning' ▸ rfl, fun absent task => ?_⟩
    subst absent
    cases shared : config.pushNotificationConfig with
    | none => rfl
    | some value => simp [shared, task] at pushing'
  · rintro ⟨modes', returning', pushing'⟩
    obtain ⟨modes, rfl⟩ := Option.isSome_iff_exists.mp modes'
    obtain ⟨returning, rfl⟩ := Option.isSome_iff_exists.mp returning'
    simp only [ConfigurationObject.fill, ConfigurationObject.mk.injEq, Option.getD_some, true_and, and_true]
    cases pushing with
    | some value => rfl
    | none =>
        cases shared : config.pushNotificationConfig with
        | none => rfl
        | some value =>
            have untasked : ¬ taskId.isSome := fun task => by simpa [shared] using pushing' rfl task
            simp [untasked]

/-- The objects after a call are those before it if and only if it is settled. -/
theorem applyClientConfig_objects_iff {params : RequestObject Ref} {returnImmediately : Bool} :
    (applyClientConfig config objects params returnImmediately).2 = objects ↔
      ∀ ref ∈ params.configuration, (objects ref).Complete config params.taskId := by
  cases given : params.configuration with
  | none => simp [applyClientConfig, given]
  | some ref =>
      simp only [applyClientConfig, given, Function.update_eq_self_iff,
        ConfigurationObject.fill_eq_self_iff, Option.mem_some_iff, forall_eq']

theorem Action.perform_eq_aside_iff {action : Action Ref} :
    action.perform config objects = action.aside config objects ↔ action.Settled config objects := by
  cases action with
  | assign ref object => simp [Action.aside, Action.Settled]
  | call method params =>
      simp only [Action.aside, Action.perform, Action.Settled, Prod.mk.injEq, true_and]
      exact applyClientConfig_objects_iff

theorem isolated_nil : Isolated config objects [] := by
  intro before within
  rw [List.prefix_nil.mp within]
  rfl

theorem isolated_cons_iff {action : Action Ref} {rest : List (Action Ref)} :
    Isolated config objects (action :: rest) ↔
      action.Settled config objects ∧ Isolated config (action.aside config objects).2 rest := by
  constructor
  · intro isolated
    have first := isolated [action] ⟨rest, rfl⟩
    have same : action.perform config objects = action.aside config objects := by
      simpa only [performAll, List.append_nil] using first
    refine ⟨Action.perform_eq_aside_iff.mp same, fun before within => ?_⟩
    have longer := isolated (action :: before) (List.cons_prefix_cons.mpr ⟨rfl, within⟩)
    simp only [performAll, same, Prod.mk.injEq, List.append_cancel_left_eq] at longer
    exact Prod.ext longer.1 longer.2
  · rintro ⟨settled, isolated⟩ before within
    have same := Action.perform_eq_aside_iff.mpr settled
    cases before with
    | nil => rfl
    | cons head others =>
        obtain ⟨rfl, shorter⟩ := List.cons_prefix_cons.mp within
        simp only [performAll, same, isolated others shorter]

theorem allSettled_cons_iff {action : Action Ref} {rest : List (Action Ref)} :
    AllSettled config objects (action :: rest) ↔
      action.Settled config objects ∧ AllSettled config (action.aside config objects).2 rest := by
  constructor
  · intro settled
    refine ⟨settled [] action rest rfl, fun before next after split => ?_⟩
    exact settled (action :: before) next after (by rw [split, List.cons_append])
  · rintro ⟨first, settled⟩ before next after split
    cases before with
    | nil =>
        obtain ⟨rfl, rfl⟩ := List.cons.inj split
        exact first
    | cons head others =>
        obtain ⟨rfl, rest'⟩ := List.cons.inj split
        exact settled others next after rest'

/-- A request with an empty configuration object. -/
def reusedRequest : RequestObject Unit :=
  { tenant := "", message := none, configuration := some (), metadata := none }

end A2A.Client
