import A2A.Types
import Mathlib.Logic.Function.Basic

namespace A2A.Client

/-! The calls that send a message, with the objects they share.

A request and a configuration are objects of the caller: the spread copies the first,
while the second goes into the copy as it is, so that writing to it writes to the caller's.
-/

/-- A configuration object as a caller builds it, who may leave fields out. -/
structure ConfigurationObject where
  acceptedOutputModes : Option (List String) := none
  taskPushNotificationConfig : Option TaskPushNotificationConfig := none
  historyLength : Option Int := none
  returnImmediately : Option Bool := none

/-- A message, whose task may be left undefined. -/
structure MessageObject where
  content : Message
  taskId : Option String

/-- A request. Its configuration is a reference where a caller holds it, and the object
itself where it is sent. -/
structure RequestObject (Configuration : Type) where
  tenant : String
  message : Option MessageObject
  configuration : Option Configuration
  metadata : Option Metadata

/-- `params.message?.taskId` -/
def RequestObject.taskId {Configuration : Type} (params : RequestObject Configuration) : Option String :=
  params.message.bind MessageObject.taskId

abbrev SentRequest := RequestObject ConfigurationObject

/-- The two methods that send a message. -/
inductive SendMethod where
  | sendMessage
  | sendMessageStream
deriving DecidableEq

/-- `ClientConfig`. The interceptors appear by what they make of the request of a call:
none when one of them returns early. -/
structure ClientConfig where
  polling : Option Bool := none
  acceptedOutputModes : Option (List String) := none
  pushNotificationConfig : Option TaskPushNotificationConfig := none
  intercept : SendMethod → SentRequest → Option SentRequest := fun _ => some

/-- The `returnImmediately` that each method passes on to `applyClientConfig`. -/
def SendMethod.returnImmediately (config : ClientConfig) : SendMethod → Bool
  | sendMessage => config.polling.getD false
  | sendMessageStream => false

/-- The configuration objects of the callers. -/
abbrev Objects (Ref : Type) := Ref → ConfigurationObject

/-- The writes of `applyClientConfig` to the configuration of the request. -/
def ConfigurationObject.fill (config : ClientConfig) (taskId : Option String) (returnImmediately : Bool)
    (object : ConfigurationObject) : ConfigurationObject :=
  { object with
    acceptedOutputModes := some (object.acceptedOutputModes.getD (config.acceptedOutputModes.getD []))
    taskPushNotificationConfig :=
      match object.taskPushNotificationConfig, config.pushNotificationConfig with
      | none, some shared => if taskId.isSome then some shared else none
      | given, _ => given
    returnImmediately := some (object.returnImmediately.getD returnImmediately) }

section

variable {Ref : Type} [DecidableEq Ref]

/-- `Client.applyClientConfig`: the request to send and the objects of the callers after it. -/
def applyClientConfig (config : ClientConfig) (objects : Objects Ref) (params : RequestObject Ref)
    (returnImmediately : Bool) : SentRequest × Objects Ref :=
  match params.configuration with
  | none =>
      ({ params with configuration := some (({} : ConfigurationObject).fill config params.taskId returnImmediately) },
        objects)
  | some ref =>
      let filled := (objects ref).fill config params.taskId returnImmediately
      ({ params with configuration := some filled }, Function.update objects ref filled)

/-- What happens to a client and to the configuration objects of its callers: calls, and
what the callers write themselves. -/
inductive Action (Ref : Type) where
  | call (method : SendMethod) (params : RequestObject Ref)
  | assign (ref : Ref) (object : ConfigurationObject)

/-- One action: the request that goes out, if any, and the objects after it. A stream that
falls back to `sendMessage` sends the same request. -/
def Action.perform (config : ClientConfig) (objects : Objects Ref) :
    Action Ref → List SentRequest × Objects Ref
  | call method params =>
      let applied := applyClientConfig config objects params (method.returnImmediately config)
      ((config.intercept method applied.1).toList, applied.2)
  | assign ref object => ([], Function.update objects ref object)

/-- The actions in their order, with all that went out. -/
def performAll (perform : Objects Ref → Action Ref → List SentRequest × Objects Ref)
    (objects : Objects Ref) : List (Action Ref) → List SentRequest × Objects Ref
  | [] => ([], objects)
  | action :: rest =>
      let performed := perform objects action
      let others := performAll perform performed.2 rest
      (performed.1 ++ others.1, others.2)

end

end A2A.Client
