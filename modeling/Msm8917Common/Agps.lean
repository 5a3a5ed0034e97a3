import Mathlib.Data.List.Basic

/-! `Agps.h` and `Agps.cpp`: the state machines that open and close data
connections for the modem. One record serves both classes, since
`DSStateMachine` only adds a counter and overrides three methods; what the
code calls through callbacks is returned as a list of outputs. -/
namespace Msm8917Common.Agps

/-- `int8_t` in `gps_extended_c.h`. -/
abbrev AGpsExtType := Int

namespace AGpsExtType
def invalid : AGpsExtType := -1
def supl : AGpsExtType := 1
def wwanAny : AGpsExtType := 3
def suplEs : AGpsExtType := 5
end AGpsExtType

/-- `int16_t` in `gps_extended_c.h`. -/
abbrev AGpsBearerType := Int

def AGpsBearerType.invalid : AGpsBearerType := 0

/-- `loc_api_adapter_err`, the values the data-service call is checked for. -/
def errSuccess : Int := 0
def errUnsupported : Int := 2
def errEngineBusy : Int := 6

/-- `mState` is never `AGPS_STATE_INVALID`. -/
inductive AgpsState where
  | released | pending | acquired | releasing
  deriving DecidableEq, Repr

inductive AgpsEvent where
  | subscribe | unsubscribe | granted | released | denied
  deriving DecidableEq, Repr

inductive AgpsNotificationType where
  | forAllSubscribers | forInactiveSubscribers | forActiveSubscribers
  deriving DecidableEq, Repr

structure AgpsSubscriber where
  mConnHandle : Int
  mWaitForCloseComplete : Bool
  mIsInactive : Bool
  deriving DecidableEq, Repr

/-- `AgpsSubscriber::equals`. -/
def AgpsSubscriber.equals (subscriber other : AgpsSubscriber) : Bool :=
  subscriber.mConnHandle == other.mConnHandle

/-- The test of `notifyAllSubscribers`. -/
def AgpsNotificationType.applies : AgpsNotificationType → AgpsSubscriber → Bool
  | .forAllSubscribers, _ => true
  | .forInactiveSubscribers, subscriber => subscriber.mIsInactive
  | .forActiveSubscribers, subscriber => !subscriber.mIsInactive

/-- `AgpsMsgRequestATL`, as the machines post it to the adapter's queue. -/
structure AgpsMsgRequestATL where
  mConnHandle : Int
  mAgpsType : AGpsExtType
  deriving DecidableEq, Repr

inductive DataConn where
  | requestAgpsDataConn | releaseAgpsDataConn
  deriving DecidableEq, Repr

/-- A call through one of the manager's callbacks, or of `loc_timer_start`. -/
inductive AgpsOutput where
  | frameworkStatusV4 (type : AGpsExtType) (status : DataConn)
  | atlOpenStatus (handle : Int) (isSuccess : Bool) (apn : Option (List Char))
      (bearerType : AGpsBearerType) (agpsType : AGpsExtType)
  | atlCloseStatus (handle : Int) (isSuccess : Bool)
  | dsClientOpenAndStartDataCall (ret : Int)
  | dsClientStopDataCall
  | dsClientCloseDataCall
  | sendMsgToAdapterQueue (msg : AgpsMsgRequestATL)
  | locTimerStart (started : Bool)
  deriving DecidableEq, Repr

/-- What the data service does during one event: which of the two callbacks
are registered, what opening a call returns, and whether `loc_timer_start`
returns a handle. -/
structure DsClient where
  mDSClientOpenAndStartDataCallFn : Option Int
  mDSClientStopDataCallFn : Bool
  locTimerStart : Bool
  deriving DecidableEq, Repr

/-- `AgpsStateMachine`, and `DSStateMachine` where `isDs` is set. The current
subscriber is set before each of the two events that read it. -/
structure AgpsStateMachine where
  isDs : Bool
  mAgpsType : AGpsExtType
  mSubscriberList : List AgpsSubscriber
  mCurrentSubscriber : AgpsSubscriber
  mState : AgpsState
  mAPN : Option (List Char)
  mBearer : AGpsBearerType
  mRetries : Nat
  deriving DecidableEq, Repr

namespace AgpsStateMachine

/-- The constructor of `AgpsStateMachine`. -/
def new (agpsType : AGpsExtType) : AgpsStateMachine where
  isDs := false
  mAgpsType := agpsType
  mSubscriberList := []
  mCurrentSubscriber := ⟨0, false, false⟩
  mState := .released
  mAPN := none
  mBearer := .invalid
  mRetries := 0

/-- The constructor of `DSStateMachine`. -/
def newDs : AgpsStateMachine := { new .suplEs with isDs := true }

def maxStartDataCallRetries : Nat := 4

def transitionState (machine : AgpsStateMachine) (newState : AgpsState) : AgpsStateMachine :=
  { machine with mState := newState }

def setCurrentSubscriber (machine : AgpsStateMachine) (subscriber : AgpsSubscriber) :
    AgpsStateMachine :=
  { machine with mCurrentSubscriber := subscriber }

def setBearer (machine : AgpsStateMachine) (bearer : AGpsBearerType) : AgpsStateMachine :=
  { machine with mBearer := bearer }

/-- `setAPN`: the bytes are copied; a null name clears the field. -/
def setAPN (machine : AgpsStateMachine) (apn : Option (List Char)) : AgpsStateMachine :=
  { machine with mAPN := apn }

def getSubscriber (machine : AgpsStateMachine) (connHandle : Int) : Option AgpsSubscriber :=
  machine.mSubscriberList.find? (·.mConnHandle == connHandle)

def getFirstSubscriber (machine : AgpsStateMachine) (isInactive : Bool) : Option AgpsSubscriber :=
  machine.mSubscriberList.find? (·.mIsInactive == isInactive)

def anyActiveSubscribers (machine : AgpsStateMachine) : Bool :=
  machine.mSubscriberList.any (!·.mIsInactive)

def addSubscriber (machine : AgpsStateMachine) (subscriberToAdd : AgpsSubscriber) :
    AgpsStateMachine :=
  if machine.mSubscriberList.any (·.equals subscriberToAdd) then machine
  else { machine with mSubscriberList := machine.mSubscriberList ++ [subscriberToAdd] }

/-- `deleteSubscriber`. The loop goes on comparing with the handle of the
subscriber it has just deleted, so every entry with that handle goes. -/
def deleteSubscriber (machine : AgpsStateMachine) (subscriberToDelete : AgpsSubscriber) :
    AgpsStateMachine :=
  { machine with
    mSubscriberList := machine.mSubscriberList.filter (!·.equals subscriberToDelete) }

/-- The list after `mIsInactive = true` through a pointer that `getSubscriber`
found: the first entry with the handle is marked. -/
def markInactive (connHandle : Int) : List AgpsSubscriber → List AgpsSubscriber
  | [] => []
  | subscriber :: rest =>
    if subscriber.mConnHandle = connHandle then { subscriber with mIsInactive := true } :: rest
    else subscriber :: markInactive connHandle rest

/-- `mCurrentSubscriber->mIsInactive = true`. -/
def setCurrentInactive (machine : AgpsStateMachine) : AgpsStateMachine :=
  { machine with
    mSubscriberList := markInactive machine.mCurrentSubscriber.mConnHandle
      machine.mSubscriberList }

/-- The notification itself, without the deletion that may follow. Of the
machine only `mRetries` of `DSStateMachine` changes. -/
def notifyOnly (machine : AgpsStateMachine) (event : AgpsEvent) (subscriber : AgpsSubscriber) :
    AgpsStateMachine × List AgpsOutput :=
  match machine.isDs, event with
  | false, .granted => (machine, [.atlOpenStatus subscriber.mConnHandle true machine.mAPN
      machine.mBearer machine.mAgpsType])
  | false, .denied => (machine, [.atlOpenStatus subscriber.mConnHandle false machine.mAPN
      machine.mBearer machine.mAgpsType])
  | false, .unsubscribe => (machine, [.atlCloseStatus subscriber.mConnHandle true])
  | false, .released => (machine, [.atlCloseStatus subscriber.mConnHandle true])
  | true, .granted => (machine, [.atlOpenStatus subscriber.mConnHandle true none .invalid .suplEs])
  | true, .denied =>
    -- Regular SUPL is tried next, through the message queue.
    ({ machine with mRetries := 0 }, [.sendMsgToAdapterQueue ⟨subscriber.mConnHandle, .supl⟩])
  | true, .unsubscribe => (machine, [.atlCloseStatus subscriber.mConnHandle true])
  | true, .released =>
    (machine, [.dsClientCloseDataCall, .atlCloseStatus subscriber.mConnHandle true])
  | _, .subscribe => (machine, [])

def notifyEventToSubscriber (machine : AgpsStateMachine) (event : AgpsEvent)
    (subscriberToNotify : AgpsSubscriber) (deleteSubscriberPostNotify : Bool) :
    AgpsStateMachine × List AgpsOutput :=
  let (machine, outputs) := machine.notifyOnly event subscriberToNotify
  (if deleteSubscriberPostNotify then machine.deleteSubscriber subscriberToNotify else machine,
    outputs)

/-- The loop of `notifyAllSubscribers` over the entries not yet visited: the
machine as the notifications leave it, the entries that stay, the outputs. -/
def notifyLoop (event : AgpsEvent) (deleteSubscriberPostNotify : Bool)
    (notificationType : AgpsNotificationType) (machine : AgpsStateMachine) :
    List AgpsSubscriber → AgpsStateMachine × List AgpsSubscriber × List AgpsOutput
  | [] => (machine, [], [])
  | subscriber :: rest =>
    if notificationType.applies subscriber then
      let (machine, outputs) := machine.notifyEventToSubscriber event subscriber false
      let (machine, kept, later) :=
        notifyLoop event deleteSubscriberPostNotify notificationType machine rest
      (machine, if deleteSubscriberPostNotify then kept else subscriber :: kept, outputs ++ later)
    else
      let (machine, kept, later) :=
        notifyLoop event deleteSubscriberPostNotify notificationType machine rest
      (machine, subscriber :: kept, later)

def notifyAllSubscribers (machine : AgpsStateMachine) (event : AgpsEvent)
    (deleteSubscriberPostNotify : Bool) (notificationType : AgpsNotificationType) :
    AgpsStateMachine × List AgpsOutput :=
  let (machine, kept, outputs) :=
    notifyLoop event deleteSubscriberPostNotify notificationType machine machine.mSubscriberList
  ({ machine with mSubscriberList := kept }, outputs)

/-- `AgpsStateMachine::requestOrReleaseDataConn`, which always returns 0. -/
def baseRequestOrReleaseDataConn (machine : AgpsStateMachine) (request : Bool) :
    AgpsStateMachine × List AgpsOutput × Int :=
  (machine, [.frameworkStatusV4 machine.mAgpsType
    (if request then .requestAgpsDataConn else .releaseAgpsDataConn)], 0)

/-- `DSStateMachine::requestOrReleaseDataConn`. Without a stop function a
release falls through to the call setup. -/
def dsRequestOrReleaseDataConn (machine : AgpsStateMachine) (client : DsClient) (request : Bool) :
    AgpsStateMachine × List AgpsOutput × Int :=
  if !request && client.mDSClientStopDataCallFn then (machine, [.dsClientStopDataCall], 0)
  else match machine.getFirstSubscriber false with
    | none => (machine, [], -1)
    | some subscriber =>
      match client.mDSClientOpenAndStartDataCallFn with
      | none =>
        let (machine, outputs) := machine.notifyEventToSubscriber .denied subscriber false
        (machine, outputs, -1)
      | some ret =>
        let call := AgpsOutput.dsClientOpenAndStartDataCall ret
        if ret = errEngineBusy then
          let machine := { machine with mRetries := machine.mRetries + 1 }
          if machine.mRetries > maxStartDataCallRetries then
            let (machine, outputs) := machine.notifyEventToSubscriber .denied subscriber false
            (machine, call :: outputs, ret)
          -- `loc_timer_start` returns the timer's handle, so -1 is what a
          -- timer that was started gives.
          else if client.locTimerStart then (machine, [call, .locTimerStart true], -1)
          else (machine, [call, .locTimerStart false], ret)
        else if ret = errUnsupported then
          let (machine, outputs) := machine.notifyEventToSubscriber .denied subscriber false
          (machine, call :: outputs, ret)
        else (machine, [call], ret)

def requestOrReleaseDataConn (machine : AgpsStateMachine) (client : DsClient) (request : Bool) :
    AgpsStateMachine × List AgpsOutput × Int :=
  if machine.isDs then machine.dsRequestOrReleaseDataConn client request
  else machine.baseRequestOrReleaseDataConn request

def processAgpsEventSubscribe (machine : AgpsStateMachine) (client : DsClient) :
    AgpsStateMachine × List AgpsOutput :=
  match machine.mState with
  | .released =>
    let machine := machine.addSubscriber machine.mCurrentSubscriber
    let (machine, outputs, ret) := machine.requestOrReleaseDataConn client true
    (if ret = 0 then machine.transitionState .pending else machine, outputs)
  | .pending => (machine.addSubscriber machine.mCurrentSubscriber, [])
  | .acquired =>
    let (machine, outputs) :=
      machine.notifyEventToSubscriber .granted machine.mCurrentSubscriber false
    (machine.addSubscriber machine.mCurrentSubscriber, outputs)
  | .releasing => (machine.addSubscriber machine.mCurrentSubscriber, [])

/-- The part `processAgpsEventUnsubscribe` has twice: a subscriber that waits
for the close is marked, any other is told and deleted. -/
def leaveSubscriberList (machine : AgpsStateMachine) : AgpsStateMachine × List AgpsOutput :=
  if machine.mCurrentSubscriber.mWaitForCloseComplete then (machine.setCurrentInactive, [])
  else machine.notifyEventToSubscriber .unsubscribe machine.mCurrentSubscriber true

/-- Its branch for `PENDING` and `ACQUIRED`. -/
def unsubscribeConnected (machine : AgpsStateMachine) (client : DsClient) :
    AgpsStateMachine × List AgpsOutput :=
  let (machine, outputs) := machine.leaveSubscriberList
  if machine.mSubscriberList.isEmpty then
    let (machine, released, _) :=
      (machine.transitionState .released).requestOrReleaseDataConn client false
    (machine, outputs ++ released)
  else if !machine.anyActiveSubscribers then
    let (machine, released, _) :=
      (machine.transitionState .releasing).requestOrReleaseDataConn client false
    (machine, outputs ++ released)
  else (machine, outputs)

def processAgpsEventUnsubscribe (machine : AgpsStateMachine) (client : DsClient) :
    AgpsStateMachine × List AgpsOutput :=
  match machine.mState with
  | .released => machine.notifyEventToSubscriber .unsubscribe machine.mCurrentSubscriber false
  | .pending => machine.unsubscribeConnected client
  | .acquired => machine.unsubscribeConnected client
  | .releasing =>
    let (machine, outputs) := machine.leaveSubscriberList
    (if machine.mSubscriberList.isEmpty then machine.transitionState .released else machine,
      outputs)

def processAgpsEventGranted (machine : AgpsStateMachine) : AgpsStateMachine × List AgpsOutput :=
  match machine.mState with
  | .released => (machine, [])
  | .acquired => (machine, [])
  | .releasing => (machine, [])
  | .pending =>
    (machine.transitionState .acquired).notifyAllSubscribers .granted false .forActiveSubscribers

/-- The `RELEASING` branch, the same for RELEASED and DENIED. -/
def releaseCompleted (machine : AgpsStateMachine) (client : DsClient) :
    AgpsStateMachine × List AgpsOutput :=
  let (machine, outputs) := machine.notifyAllSubscribers .released true .forInactiveSubscribers
  -- Active subscribers by now must be waiting for a connection.
  if machine.anyActiveSubscribers then
    let (machine, requested, _) :=
      (machine.transitionState .pending).requestOrReleaseDataConn client true
    (machine, outputs ++ requested)
  else (machine.transitionState .released, outputs)

def processAgpsEventReleased (machine : AgpsStateMachine) (client : DsClient) :
    AgpsStateMachine × List AgpsOutput :=
  match machine.mState with
  | .released => (machine, [])
  | .acquired =>
    (machine.transitionState .released).notifyAllSubscribers .released true .forAllSubscribers
  | .releasing => machine.releaseCompleted client
  | .pending => (machine, [])

def processAgpsEventDenied (machine : AgpsStateMachine) (client : DsClient) :
    AgpsStateMachine × List AgpsOutput :=
  match machine.mState with
  | .released => (machine, [])
  | .acquired => (machine, [])
  | .releasing => machine.releaseCompleted client
  | .pending =>
    (machine.transitionState .released).notifyAllSubscribers .denied true .forAllSubscribers

/-- `AgpsStateMachine::processAgpsEvent`. -/
def baseProcessAgpsEvent (machine : AgpsStateMachine) (client : DsClient) :
    AgpsEvent → AgpsStateMachine × List AgpsOutput
  | .subscribe => machine.processAgpsEventSubscribe client
  | .unsubscribe => machine.processAgpsEventUnsubscribe client
  | .granted => machine.processAgpsEventGranted
  | .released => machine.processAgpsEventReleased client
  | .denied => machine.processAgpsEventDenied client

/-- `processAgpsEvent`. The data service reports a failed call as RELEASED, so
`DSStateMachine` takes that for DENIED while it waits for the call. -/
def processAgpsEvent (machine : AgpsStateMachine) (client : DsClient) (event : AgpsEvent) :
    AgpsStateMachine × List AgpsOutput :=
  if machine.isDs && event == .released && machine.mState == .pending then
    machine.baseProcessAgpsEvent client .denied
  else machine.baseProcessAgpsEvent client event

/-- `DSStateMachine::retryCallback`. -/
def retryCallback (machine : AgpsStateMachine) : List AgpsOutput :=
  match machine.getFirstSubscriber false with
  | none => []
  | some subscriber => [.sendMsgToAdapterQueue ⟨subscriber.mConnHandle, .suplEs⟩]

end AgpsStateMachine
end Msm8917Common.Agps
