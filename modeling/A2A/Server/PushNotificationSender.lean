import A2A.Library.Transition
import A2A.Server.Stores

namespace A2A.Server

open Library

/-! `DefaultPushNotificationSender`.

Each call of `send` first waits for its store lookup and then joins the promise
chain of its task.  When a lookup returns, what it returns, and when and how a
webhook answers, are choices of the environment.
-/

/-- The place of a call of `send` among all calls. -/
abbrev SendId := Nat

structure SenderOptions where
  tokenHeaderName : String
  /-- The wire versions with a registered serializer. -/
  serializers : List String

/-- What `_dispatchNotification` posts: the serializer's arguments stand for the body. -/
structure PushRequest where
  url : String
  headers : List (String × String)
  serializer : String
  streamResponse : StreamResponse
  task : Option Task

/-- Where a call of `send` is.  From `chained` on its promise is in the chain of its task. -/
inductive SendPhase where
  | loadStoredConfigs
  | chained (lastPromise : Option SendId)
  /-- The configs, by place, whose dispatch has not settled. -/
  | dispatching (outstanding : List Nat)
  | settled
  | returned
  | rejected (error : String)
deriving DecidableEq

structure Send where
  streamResponse : Option StreamResponse
  task : Option Task
  taskId : String
  storedConfigs : List StoredPushNotificationConfig
  phase : SendPhase

/-- An entry of the history of dispatches. -/
inductive Dispatch where
  | started (send : SendId) (config : Nat) (request : PushRequest)
  | settled (send : SendId) (config : Nat) (result : Except String Unit)

structure PushNotificationSender where
  /-- The calls of `send`, oldest first. -/
  sends : List Send
  notificationChain : String → Option SendId
  /-- History only. -/
  log : List Dispatch

namespace PushNotificationSender

def new : PushNotificationSender := ⟨[], fun _ => none, []⟩

/-- `_getTaskId` -/
def getTaskId : StreamResponse → String
  | .task value => value.id
  | .statusUpdate value => value.taskId
  | .artifactUpdate value => value.taskId
  | .message value => value.taskId

/-- `_resolveSerializer` -/
def resolveSerializer (options : SenderOptions) (wireVersion : String) : String :=
  if options.serializers.contains wireVersion then wireVersion else "1.0"

/-- `_buildAuthHeaders` -/
def buildAuthHeaders (options : SenderOptions) (config : TaskPushNotificationConfig) :
    List (String × String) :=
  let legacy := if config.token = "" then [] else [(options.tokenHeaderName, config.token)]
  match config.authentication with
  | some authentication =>
      if authentication.scheme ≠ "" ∧ authentication.credentials ≠ "" then
        [("Authorization", authentication.scheme ++ " " ++ authentication.credentials)]
      else legacy
  | none => legacy

/-- `_dispatchNotification` up to its `fetch`. -/
def dispatchNotification (options : SenderOptions) (streamResponse : StreamResponse)
    (storedConfig : StoredPushNotificationConfig) (task : Option Task) : PushRequest where
  url := storedConfig.config.url
  headers := buildAuthHeaders options storedConfig.config
  serializer := resolveSerializer options storedConfig.wireVersion
  streamResponse := streamResponse
  task := task

def setSend (sender : PushNotificationSender) (id : SendId) (send : Send) :
    PushNotificationSender :=
  { sender with sends := sender.sends.set id send }

/-- `send` up to its store lookup. -/
def newSend : Option StreamResponse → Option Task → Send
  | none, task => ⟨none, task, "", [], .rejected "StreamResponse payload is undefined"⟩
  | some streamResponse, task =>
      let taskId := getTaskId streamResponse
      ⟨some streamResponse, task, taskId, [],
        if taskId = "" then .returned else .loadStoredConfigs⟩

def send (sender : PushNotificationSender) (streamResponse : Option StreamResponse)
    (task : Option Task) : PushNotificationSender :=
  { sender with sends := sender.sends ++ [newSend streamResponse task] }

/-- The lookup has returned: `send` joins the chain of its task, or has nothing to do. -/
def storedConfigsLoaded (sender : PushNotificationSender) (id : SendId) (send : Send)
    (storedConfigs : List StoredPushNotificationConfig) : PushNotificationSender :=
  if storedConfigs.isEmpty then sender.setSend id { send with phase := .returned }
  else
    let lastPromise := sender.notificationChain send.taskId
    { sender.setSend id { send with storedConfigs, phase := .chained lastPromise } with
      notificationChain := Function.update sender.notificationChain send.taskId (some id) }

def isSettled (sender : PushNotificationSender) (id : SendId) : Bool :=
  match sender.sends[id]? with
  | some send => send.phase = .settled
  | none => false

/-- The entries of the dispatches that one link of the chain starts together. -/
def startedDispatches (options : SenderOptions) (id : SendId) (send : Send) : List Dispatch :=
  match send.streamResponse with
  | none => []
  | some response =>
      send.storedConfigs.mapIdx fun config storedConfig =>
        .started id config (dispatchNotification options response storedConfig send.task)

/-- The previous promise has settled: all dispatches of the call start. -/
def startDispatches (options : SenderOptions) (sender : PushNotificationSender) (id : SendId)
    (send : Send) : PushNotificationSender :=
  { sender.setSend id { send with
      phase := .dispatching (List.range send.storedConfigs.length) } with
    log := sender.log ++ startedDispatches options id send }

/-- A dispatch has settled.  A failure is caught and logged; either way the promise of
`Promise.all` settles with the last one. -/
def dispatchSettled (sender : PushNotificationSender) (id : SendId) (send : Send)
    (outstanding : List Nat) (config : Nat) (result : Except String Unit) :
    PushNotificationSender :=
  let remaining := outstanding.erase config
  { sender.setSend id { send with
      phase := if remaining.isEmpty then .settled else .dispatching remaining } with
    log := sender.log ++ [.settled id config result] }

/-- The `finally` of a settled call. -/
def evict (sender : PushNotificationSender) (id : SendId) (send : Send) : PushNotificationSender :=
  if sender.notificationChain send.taskId = some id then
    { sender with
      notificationChain := Function.update sender.notificationChain send.taskId none }
  else sender

inductive Action where
  | send (streamResponse : Option StreamResponse) (task : Option Task)
  | loaded (id : SendId) (storedConfigs : List StoredPushNotificationConfig)
  | lookupFailed (id : SendId) (error : String)
  | start (id : SendId)
  | settle (id : SendId) (config : Nat) (result : Except String Unit)
  | evict (id : SendId)

def step (options : SenderOptions) (sender : PushNotificationSender) :
    Action → Option PushNotificationSender
  | .send streamResponse task => some (sender.send streamResponse task)
  | .loaded id storedConfigs =>
      match sender.sends[id]? with
      | some send =>
          if send.phase = .loadStoredConfigs then
            some (sender.storedConfigsLoaded id send storedConfigs)
          else none
      | none => none
  | .lookupFailed id error =>
      match sender.sends[id]? with
      | some send =>
          if send.phase = .loadStoredConfigs then
            some (sender.setSend id { send with phase := .rejected error })
          else none
      | none => none
  | .start id =>
      match sender.sends[id]? with
      | some send =>
          match send.phase with
          | .chained lastPromise =>
              if lastPromise.all sender.isSettled then some (sender.startDispatches options id send)
              else none
          | _ => none
      | none => none
  | .settle id config result =>
      match sender.sends[id]? with
      | some send =>
          match send.phase with
          | .dispatching outstanding =>
              if config ∈ outstanding then
                some (sender.dispatchSettled id send outstanding config result)
              else none
          | _ => none
      | none => none
  | .evict id =>
      match sender.sends[id]? with
      | some send => if send.phase = .settled then some (sender.evict id send) else none
      | none => none

end PushNotificationSender

def senderSystem (options : SenderOptions) :
    System PushNotificationSender PushNotificationSender.Action where
  step := PushNotificationSender.step options

end A2A.Server
