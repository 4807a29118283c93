import A2A.Server.Semantics.Synced

namespace A2A.Server

open Library

/-! The request context that a call hands to its executor.

`Call.Prepares` singles out the steps on the way to the executor; every other
step leaves the execution's request context and the call's fresh values alone.
-/

namespace Pc

/-- The message of a call that has not built its request context yet. -/
def message : Pc → Option Message
  | .loadTask message | .saveHistory message _ | .loadReferences message _ _ _ _
  | .getAgentCard message _ _ _ => some message
  | _ => none

/-- The id of the task that the message is for. -/
def taskId : Pc → Option String
  | .loadTask message | .saveHistory message _ => some message.taskId
  | .loadReferences _ _ taskId _ _ | .getAgentCard _ _ taskId _ => some taskId
  | _ => none

end Pc

namespace Call

inductive Prepares (call : Call) : Call → Prop
  | apart {after} : after.execution = call.execution → after.fresh = call.fresh →
      after.pc.starts = false → Prepares call after
  | accepted {message task} : call.pc = .loadTask message →
      Prepares call { call with pc := .saveHistory message task }
  | appended {message task} : call.pc = .saveHistory message task →
      Prepares call (call.resolveReferences message (some (appendHistory task message)) message.taskId)
  | referred {message task taskId reference pending loaded found} :
      call.pc = .loadReferences message task taskId (reference :: pending) loaded →
      Prepares call { call with
        pc := if pending.isEmpty then .getAgentCard message task taskId (some found)
          else .loadReferences message task taskId pending found }
  | built {after message task taskId referenceTasks} :
      call.pc = .getAgentCard message task taskId referenceTasks →
      (after.pc.starting = some (call.builtContext message task taskId referenceTasks) ∧
          after.execution = call.execution ∨
        after.pc.starts = false ∧ ∃ bus, after.execution =
          some ⟨call.builtContext message task taskId referenceTasks, bus, .new, .running⟩) →
      after.fresh = call.fresh → Prepares call after
  | configured {after requestContext config bus} : call.pc = .savePushConfig requestContext config →
      after.execution = some ⟨requestContext, bus, .new, .running⟩ → after.fresh = call.fresh →
      after.pc.starts = false → Prepares call after

variable {handler : Handler} {view : View} {pid : Pid} {fate : Fate} {call after : Call}
  {effects : List Effect}

theorem Prepares.framed (frame : Frame call after) (calm : after.pc.starts = false) :
    call.Prepares after := .apart frame.execution frame.fresh calm

theorem Resumed.prepares (wellFormed : call.WellFormed)
    (resumed : Resumed handler view pid call fate after effects) : call.Prepares after := by
  cases resumed with
  | answered => exact .framed (finish_frame _) rfl
  | taskAccepted loading => exact .accepted loading
  | historySaved saving => exact .appended saving
  | referenceLoaded loading => exact .referred loading
  | @contextBuilt _ _ _ _ extensions after effects loading created =>
      cases wellFormed.contextBuilt loading created with
      | configures => exact .built loading (.inl ⟨rfl, rfl⟩) rfl
      | configuresStream => exact .built loading (.inl ⟨rfl, rfl⟩) rfl
      | runs => exact .built loading (.inr ⟨rfl, _, rfl⟩) rfl
  | configSaved saving => exact .configured saving rfl rfl rfl
  | configSavedFirst saving => exact .configured saving rfl rfl rfl
  | loopEnded =>
      exact .framed leaveLoop_frame (leaveLoop_pc ▸ leftPc_of (Pc.starts · = false) rfl rfl call)
  | @forwarded queue id rest event taskId =>
      have frame := forward_frame (call.shifted queue rest) taskId id event
      exact .apart frame.execution frame.fresh (forward_pc (Pc.starts · = false) rfl rfl rfl _ rfl _ _ _)
  | @violated queue id rest event text =>
      have frame : Frame (call.shifted queue rest) _ :=
        stopQueue_frame.trans (finish_frame (.error (.unsupportedOperation text)))
      exact .apart frame.execution frame.fresh rfl
  | @taken queue id rest event pattern after effects _ _ _ _ _ _ took =>
      have frame := takeEvent_frame { call.shifted queue rest with streamPattern := pattern } id event
      rw [took] at frame
      exact .apart frame.execution frame.fresh (takeEvent_starts took)
  | lockFailed _ _ _ _ failed | saveFailed _ _ failed =>
      exact .framed (processingFailed_frame failed)
        (processingFailed_pc (Pc.starts · = false) rfl (fun _ _ => rfl) failed)
  | merged => exact .apart rfl rfl rfl
  | @skipped ref key event manager =>
      have frame := processed_frame { call with resultManager := manager } ref event
      exact .apart frame.execution frame.fresh (by cases ref <;> rfl)
  | @saved ref => exact .framed (processed_frame _ _ _) (by cases ref <;> rfl)
  | @yielded fate id event response stored params =>
      have frame := notify_frame handler call (trimResponse (historyLengthOf params) response)
      exact .apart frame.execution frame.fresh rfl
  | @mapped fate id event response stored handed effects _ _ _ _ _ handedOut =>
      exact .framed (((notify_frame handler call response).trans (handOutResults_frame handedOut)).trans
        (afterYield_frame event)) (afterYield_pc (Pc.starts · = false) rfl rfl rfl _ _)
  | closed => exact .framed (finish_frame _) rfl
  | consumed =>
      exact .framed (afterYield_frame _) (afterYield_pc (Pc.starts · = false) rfl rfl rfl _ _)
  | resubscribeRefused => exact .framed (stopQueue_frame.trans (finish_frame _)) rfl
  | misdirected applying => exact .apart rfl rfl (by rw [applying]; rfl)
  | _ => exact .apart rfl rfl rfl

/-- The request context is about the message the call was made with, and names a task. -/
structure Addresses (call : Call) (requestContext : RequestContext) : Prop where
  message : call.resultManager.latestUserMessage.map Message.messageId =
    some requestContext.userMessage.messageId
  named : call.fresh.taskUuid ≠ "" → requestContext.taskId ≠ ""

structure Addressed (call : Call) : Prop where
  message : ∀ message, call.pc.message = some message →
    call.resultManager.latestUserMessage = some message
  named : ∀ taskId, call.pc.taskId = some taskId → call.fresh.taskUuid ≠ "" → taskId ≠ ""
  starting : ∀ requestContext, call.pc.starting = some requestContext → call.Addresses requestContext
  executing : ∀ execution, call.execution = some execution → call.Addresses execution.requestContext

theorem Addresses.kept {requestContext : RequestContext} (addresses : call.Addresses requestContext)
    (latest : after.resultManager.latestUserMessage = call.resultManager.latestUserMessage)
    (fresh : after.fresh = call.fresh) : after.Addresses requestContext where
  message := by rw [latest]; exact addresses.message
  named := by rw [fresh]; exact addresses.named

/-- Off the way to the executor only the execution matters. -/
theorem Addressed.apart (calm : after.pc.starts = false)
    (executing : ∀ execution, after.execution = some execution →
      after.Addresses execution.requestContext) : after.Addressed := by
  have off : ∀ {pc : Pc}, pc.starts = false →
      pc.message = none ∧ pc.taskId = none ∧ pc.starting = none := by
    intro pc calm
    cases pc <;> simp_all [Pc.starts, Pc.message, Pc.taskId, Pc.starting]
  obtain ⟨message, taskId, starting⟩ := off calm
  exact ⟨by simp [message], by simp [taskId], by simp [starting], executing⟩

theorem Resumed.addressed (wellFormed : call.WellFormed) (addressed : call.Addressed)
    (resumed : Resumed handler view pid call fate after effects) : after.Addressed := by
  have latest := (resumed.origin wellFormed).2.2
  have executing : ∀ {pc : Pc} (execution : Execution), call.execution = some execution →
      ({ call with pc }).Addresses execution.requestContext :=
    fun execution found => (addressed.executing execution found).kept rfl rfl
  cases resumed.prepares wellFormed with
  | apart execution fresh calm =>
      exact .apart calm fun other present =>
        (addressed.executing other (execution ▸ present)).kept latest fresh
  | accepted loading =>
      refine ⟨?_, ?_, by simp [Pc.starting], executing⟩
      · rintro _ ⟨⟩
        exact addressed.message _ (by rw [loading]; rfl)
      · rintro _ ⟨⟩
        exact addressed.named _ (by rw [loading]; rfl)
  | @appended message task saving =>
      have same := addressed.message message (by rw [saving]; rfl)
      have named := addressed.named message.taskId (by rw [saving]; rfl)
      simp only [resolveReferences]
      split <;>
        exact ⟨by rintro _ ⟨⟩; exact same, by rintro _ ⟨⟩; exact named, by simp [Pc.starting],
          executing⟩
  | @referred message task taskId reference pending loaded found loading =>
      have same := addressed.message message (by rw [loading]; rfl)
      have named := addressed.named taskId (by rw [loading]; rfl)
      split <;>
        exact ⟨by rintro _ ⟨⟩; exact same, by rintro _ ⟨⟩; exact named, by simp [Pc.starting],
          executing⟩
  | @built _ message task taskId referenceTasks loading arrives fresh =>
      have idle := wellFormed.idle (by rw [loading]; rfl)
      have addresses : after.Addresses (call.builtContext message task taskId referenceTasks) := by
        have before : call.Addresses (call.builtContext message task taskId referenceTasks) := by
          refine ⟨?_, ?_⟩
          · rw [addressed.message message (by rw [loading]; rfl)]
            rfl
          · exact addressed.named taskId (by rw [loading]; rfl)
        exact before.kept latest fresh
      rcases arrives with ⟨starting, same⟩ | ⟨calm, bus, started⟩
      · have off : after.pc.message = none ∧ after.pc.taskId = none := by
          cases counter : after.pc <;> simp_all [Pc.starting, Pc.message, Pc.taskId]
        refine ⟨by simp [off.1], by simp [off.2], ?_, by simp [same, idle]⟩
        intro requestContext found
        cases starting.symm.trans found
        exact addresses
      · refine .apart calm fun execution found => ?_
        cases started.symm.trans found
        exact addresses
  | configured saving started fresh calm =>
      refine .apart calm fun execution found => ?_
      cases started.symm.trans found
      exact (addressed.starting _ (by rw [saving]; rfl)).kept latest fresh

theorem Addressed.overheard (addressed : call.Addressed) (overheard : call.Overheard after) :
    after.Addressed where
  message message found := by
    rw [overheard.resultManager]
    exact addressed.message message (overheard.pc ▸ found)
  named taskId found := by
    rw [overheard.fresh]
    exact addressed.named taskId (overheard.pc ▸ found)
  starting requestContext found := (addressed.starting requestContext (overheard.pc ▸ found)).kept
    (congrArg _ overheard.resultManager) overheard.fresh
  executing execution found := by
    obtain ⟨earlier, present, same, _⟩ := overheard.executed found
    exact same ▸ (addressed.executing earlier present).kept (congrArg _ overheard.resultManager)
      overheard.fresh

theorem begin_addressed (request : Request) (context : ServerCallContext)
    (requestedExtensions : Option (List String)) (fresh : Fresh) :
    (handler.begin view request context requestedExtensions fresh).Addressed := by
  have begun := @begin_cases handler view request context requestedExtensions fresh
  generalize handler.begin view request context requestedExtensions fresh = call at begun ⊢
  cases begun with
  | starts =>
      simp only [resolveReferences]
      split <;>
        exact ⟨by rintro _ ⟨⟩; rfl, by rintro _ ⟨⟩ named; exact named, by simp [Pc.starting],
          by simp [blank]⟩
  | follows _ named =>
      exact ⟨by rintro _ ⟨⟩; rfl, by rintro _ ⟨⟩ _; exact named, by simp [Pc.starting],
        by simp [blank]⟩
  | loads counter =>
      rcases counter with rfl | rfl | rfl | rfl <;> exact .apart rfl (by simp [blank])
  | refused | subscribes | idles => exact .apart rfl (by simp [blank, attachQueue, reject, finish, settle])

end Call

namespace State

variable {handler : Handler} {state next : State} {label : Label}

def Addressed (state : State) : Prop :=
  ∀ pid call, state.calls pid = some call → call.Addressed

theorem addressed_initial (taskStore : InMemoryTaskStore)
    (pushNotificationStore : InMemoryPushNotificationStore) (taskIdToBus : String → Option BusId) :
    (State.initial taskStore pushNotificationStore taskIdToBus).Addressed := by
  intro pid call found
  simp [initial] at found

theorem addressed_step (wellFormed : state.WellFormed) (addressed : state.Addressed)
    (stepped : state.step handler label = some next) : next.Addressed := by
  obtain ⟨after, effects, steppedTo, rfl⟩ := step_cases stepped
  intro pid call found
  have executes : ∀ {pid : Pid} {call : Call} {before execution : Execution},
      state.calls pid = some call → call.execution = some before →
      execution.requestContext = before.requestContext →
      ({ call with execution := some execution }).Addressed := by
    intro pid call before execution present executing same
    have own := addressed pid call present
    refine ⟨own.message, own.named,
      fun requestContext starting => (own.starting requestContext starting).kept rfl rfl, ?_⟩
    rintro _ ⟨⟩
    exact same ▸ (own.executing before executing).kept rfl rfl
  rcases commit_overheard found with ⟨_, overheard⟩ | ⟨_, before, earlier, overheard⟩
  · refine Call.Addressed.overheard ?_ overheard
    cases steppedTo with
    | begun => exact Call.begin_addressed _ _ _ _
    | resumed present resumed =>
        exact (Call.resume_cases resumed).addressed (wellFormed _ _ present) (addressed _ _ present)
    | published present | finishedBus present => exact addressed _ _ present
    | executorReturned present executing | executorThrew present executing =>
        exact executes present executing rfl
    | reaped present executing _ _ _ reaped =>
        cases Execution.reap_cases reaped <;> exact executes present executing rfl
    | abandoned present abandoned =>
        obtain ⟨_, _, rfl⟩ := Call.abandon_cases abandoned
        exact .apart rfl fun execution executing =>
          ((addressed _ _ present).executing execution executing).kept rfl rfl
  · exact (addressed _ _ earlier).overheard overheard

end State

end A2A.Server
