import Msm8917Common.LocUnorderedSetMap
import Msm8917Common.Runs

/-! The subscription side of `SystemStatusOsObserver.cpp`. Clients subscribe to
data items through messages that one task processes in order; two maps record
who wants what, and the framework is told about items that appear or vanish. -/
namespace Msm8917Common

/-- `DataItemId.h`. -/
inductive DataItemId where
  | invalid
  | airplaneMode | enh | gpsState | nlpStatus | wifiHardwareState
  | networkInfo | rilVersion | rilServiceInfo | rilCellInfo | serviceStatus
  | model | manufacturer | voiceCall | assistedGps | screenState
  | powerConnectedState | timezoneChange | timeChange | wifiSupplicantStatus | shutdownState
  | tac | mccmnc | btleScan | btScan | oemGtpUploadTriggerReady
  | max | batteryLevel | max11
  deriving DecidableEq, Repr

/-- `containerTransfer` from a set to a list: each element goes to the front. -/
def containerTransfer (set : UnorderedSet DataItemId) : List DataItemId := set.elems.reverse

/-- What the observer calls: the framework subscription object, or a client. -/
inductive ObserverCall (Client Core : Type*) where
  | subscribe (items : List DataItemId)
  | requestData (items : List DataItemId)
  | unsubscribe (items : List DataItemId)
  | notify (client : Client) (dataItems : List Core)

/-- `Core` is what the data-item library keeps of an item. Of the framework
object only its presence matters. -/
structure SystemStatusOsObserver (Client Core : Type*) where
  mClientToDataItems : LocUnorderedSetMap Client DataItemId
  mDataItemToClients : LocUnorderedSetMap DataItemId Client
  mDataItemCache : AList fun _ : DataItemId => Core
  mSubscriptionObj : Bool

/-- The messages that change subscriptions. -/
inductive SubscriptionMsg (Client : Type*) where
  | setSubsObj
  | handleSubscribeReq (mClient : Client) (mDataItemSet : UnorderedSet DataItemId)
      (mToRequestData : Bool)
  | handleUpdateSubscriptionReq (mClient : Client) (mDataItemSet : UnorderedSet DataItemId)
  | handleUnsubscribeReq (mClient : Client) (mDataItemSet : UnorderedSet DataItemId)
  | handleUnsubscribeAllReq (mClient : Client)

/-- Calls on the observer. A client pointer may be null, and so may the
framework object. -/
inductive SubscriptionCall (Client : Type*) where
  | setSubscriptionObj (subscriptionObj : Bool)
  | subscribe (l : List DataItemId) (client : Option Client)
  | requestData (l : List DataItemId) (client : Option Client)
  | updateSubscription (l : List DataItemId) (client : Option Client)
  | unsubscribe (l : List DataItemId) (client : Option Client)
  | unsubscribeAll (client : Option Client)

/-- The message a call sends. An empty list or a null client sends none. -/
def SubscriptionCall.msg : SubscriptionCall Client → Option (SubscriptionMsg Client)
  | .setSubscriptionObj true => some .setSubsObj
  | .subscribe (item :: l) (some client) =>
    some (.handleSubscribeReq client (.ofList (item :: l)) false)
  | .requestData (item :: l) (some client) =>
    some (.handleSubscribeReq client (.ofList (item :: l)) true)
  | .updateSubscription (item :: l) (some client) =>
    some (.handleUpdateSubscriptionReq client (.ofList (item :: l)))
  | .unsubscribe (item :: l) (some client) =>
    some (.handleUnsubscribeReq client (.ofList (item :: l)))
  | .unsubscribeAll (some client) => some (.handleUnsubscribeAllReq client)
  | _ => none

namespace SystemStatusOsObserver
variable [DecidableEq Client]

/-- The constructor. -/
def new : SystemStatusOsObserver Client Core := ⟨.new, .new, ∅, false⟩

def sendCachedDataItems (observer : SystemStatusOsObserver Client Core)
    (s : UnorderedSet DataItemId) (client : Client) : List (ObserverCall Client Core) :=
  let dataItems := (s.elems.filterMap observer.mDataItemCache.lookup).reverse
  if dataItems.isEmpty then [] else [.notify client dataItems]

/-- A framework call with the collected items, when the object is there and
something was collected. -/
def toFramework (observer : SystemStatusOsObserver Client Core)
    (call : List DataItemId → ObserverCall Client Core) (items : UnorderedSet DataItemId) :
    List (ObserverCall Client Core) :=
  if observer.mSubscriptionObj && !items.isEmpty then [call (containerTransfer items)] else []

/-- `SetSubsObj::proc`. -/
def setSubsObj (observer : SystemStatusOsObserver Client Core) :
    SystemStatusOsObserver Client Core × List (ObserverCall Client Core) :=
  let observer := { observer with mSubscriptionObj := true }
  if observer.mDataItemToClients.isEmpty then (observer, [])
  else
    let dis := containerTransfer observer.mDataItemToClients.getKeys
    (observer, [.subscribe dis, .requestData dis])

/-- `HandleSubscribeReq::proc`. -/
def handleSubscribeReq (observer : SystemStatusOsObserver Client Core) (mClient : Client)
    (mDataItemSet : UnorderedSet DataItemId) (mToRequestData : Bool) :
    SystemStatusOsObserver Client Core × List (ObserverCall Client Core) :=
  let (mDataItemToClients, dataItemsToSubscribe) :=
    observer.mDataItemToClients.addKeys mDataItemSet (.singleton mClient) .empty
  let (mClientToDataItems, _) := observer.mClientToDataItems.add mClient mDataItemSet
  let observer := { observer with mDataItemToClients, mClientToDataItems }
  (observer, observer.sendCachedDataItems mDataItemSet mClient ++
    observer.toFramework (if mToRequestData then .requestData else .subscribe) dataItemsToSubscribe)

/-- `HandleUpdateSubscriptionReq::proc`. The set returned by `update` is what
the client is trimmed from, and the set `update` leaves is what it is added to. -/
def handleUpdateSubscriptionReq (observer : SystemStatusOsObserver Client Core) (mClient : Client)
    (mDataItemSet : UnorderedSet DataItemId) :
    SystemStatusOsObserver Client Core × List (ObserverCall Client Core) :=
  let (mClientToDataItems, gone, mDataItemSet) :=
    observer.mClientToDataItems.update mClient mDataItemSet
  let (mDataItemToClients, dataItemsToUnsubscribe, _) :=
    observer.mDataItemToClients.trimOrRemove gone (.singleton mClient) .empty .empty
  let (mDataItemToClients, dataItemsToSubscribe) :=
    mDataItemToClients.addKeys mDataItemSet (.singleton mClient) .empty
  let observer := { observer with mDataItemToClients, mClientToDataItems }
  (observer, observer.sendCachedDataItems mDataItemSet mClient ++
    observer.toFramework .subscribe dataItemsToSubscribe ++
    observer.toFramework .unsubscribe dataItemsToUnsubscribe)

/-- `HandleUnsubscribeReq::proc`. -/
def handleUnsubscribeReq (observer : SystemStatusOsObserver Client Core) (mClient : Client)
    (mDataItemSet : UnorderedSet DataItemId) :
    SystemStatusOsObserver Client Core × List (ObserverCall Client Core) :=
  let (mClientToDataItems, _, dataItemsUnusedByClient) :=
    observer.mClientToDataItems.trimOrRemove (.singleton mClient) mDataItemSet .empty .empty
  let (mDataItemToClients, dataItemsToUnsubscribe, _) :=
    observer.mDataItemToClients.trimOrRemove dataItemsUnusedByClient (.singleton mClient)
      .empty .empty
  let observer := { observer with mDataItemToClients, mClientToDataItems }
  (observer, observer.toFramework .unsubscribe dataItemsToUnsubscribe)

/-- `HandleUnsubscribeAllReq::proc`. -/
def handleUnsubscribeAllReq (observer : SystemStatusOsObserver Client Core) (mClient : Client) :
    SystemStatusOsObserver Client Core × List (ObserverCall Client Core) :=
  let diByClient := observer.mClientToDataItems.getValSet mClient
  if diByClient.isEmpty then (observer, [])
  else
    let (mClientToDataItems, _) := observer.mClientToDataItems.remove mClient
    let (mDataItemToClients, dataItemsToUnsubscribe, _) :=
      observer.mDataItemToClients.trimOrRemove diByClient (.singleton mClient) .empty .empty
    let observer := { observer with mDataItemToClients, mClientToDataItems }
    (observer, observer.toFramework .unsubscribe dataItemsToUnsubscribe)

/-- `proc` of each message. -/
def proc (observer : SystemStatusOsObserver Client Core) :
    SubscriptionMsg Client → SystemStatusOsObserver Client Core × List (ObserverCall Client Core)
  | .setSubsObj => observer.setSubsObj
  | .handleSubscribeReq mClient mDataItemSet mToRequestData =>
    observer.handleSubscribeReq mClient mDataItemSet mToRequestData
  | .handleUpdateSubscriptionReq mClient mDataItemSet =>
    observer.handleUpdateSubscriptionReq mClient mDataItemSet
  | .handleUnsubscribeReq mClient mDataItemSet => observer.handleUnsubscribeReq mClient mDataItemSet
  | .handleUnsubscribeAllReq mClient => observer.handleUnsubscribeAllReq mClient

/-- A call, with the processing of the message it sends. Calls read nothing of
the observer, and the message task keeps their order. -/
def step (observer : SystemStatusOsObserver Client Core) (call : SubscriptionCall Client) :
    SystemStatusOsObserver Client Core :=
  match call.msg with
  | none => observer
  | some msg => (observer.proc msg).1

end SystemStatusOsObserver
end Msm8917Common
