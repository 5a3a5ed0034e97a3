import Mathlib.Data.List.AList
import Mathlib.Logic.Function.Basic
import Msm8917Common.LocationTypes

/-! `LocationAPI.cpp`: the clients of the process, and the adapters that are loaded for
them. Which adapters a client goes to is read from its callbacks, once when they are
given and once more when the client is destroyed. -/
namespace Msm8917Common.Location

/-- Which of its callbacks a client has. -/
structure LocationCallbacks where
  capabilitiesCb : Bool
  responseCb : Bool
  collectiveResponseCb : Bool
  trackingCb : Bool
  batchingCb : Bool
  geofenceBreachCb : Bool
  geofenceStatusCb : Bool
  gnssNiCb : Bool
  gnssMeasurementsCb : Bool
  deriving DecidableEq

namespace LocationCallbacks
variable (locationCallbacks : LocationCallbacks)

/-- The ones that both calls insist on. -/
def hasMandatory : Bool :=
  locationCallbacks.capabilitiesCb && locationCallbacks.responseCb &&
    locationCallbacks.collectiveResponseCb

def isGnssClient : Bool :=
  locationCallbacks.gnssNiCb || locationCallbacks.trackingCb ||
    locationCallbacks.gnssMeasurementsCb

def isFlpClient : Bool := locationCallbacks.trackingCb || locationCallbacks.batchingCb

def isGeofenceClient : Bool :=
  locationCallbacks.geofenceBreachCb || locationCallbacks.geofenceStatusCb

end LocationCallbacks

/-- The adapters behind `GnssInterface`, `FlpInterface` and `GeofenceInterface`. -/
inductive Adapter where
  | gnss | flp | geofence
  deriving DecidableEq

def LocationCallbacks.isClient (locationCallbacks : LocationCallbacks) : Adapter → Bool
  | .gnss => locationCallbacks.isGnssClient
  | .flp => locationCallbacks.isFlpClient
  | .geofence => locationCallbacks.isGeofenceClient

/-- The order in which the calls go through them. -/
def Adapter.all : List Adapter := [.gnss, .flp, .geofence]

/-- Calls on an interface that are about a client. -/
inductive ClientCommand where
  | addClient (client : Nat) (callbacks : LocationCallbacks)
  | requestCapabilities (client : Nat)
  | removeClient (client : Nat)
  deriving DecidableEq

/-- `gData`, with the flags of the loads that failed. A client is its address. -/
structure LocationAPIData where
  clientData : AList fun _ : Nat => LocationCallbacks
  interface : Adapter → Bool
  loadFailed : Adapter → Bool

/-- A call in progress: the data, what it has issued, and `requestedCapabilities`. -/
structure LocationAPICall where
  data : LocationAPIData
  issued : List (Adapter × ClientCommand)
  requestedCapabilities : Bool

namespace LocationAPIData
variable (data : LocationAPIData)

/-- An interface is looked for once, and found if the library is there. -/
def load (adapter : Adapter) (found : Bool) : LocationAPIData :=
  if data.interface adapter = false ∧ data.loadFailed adapter = false then
    if found then { data with interface := Function.update data.interface adapter true }
    else { data with loadFailed := Function.update data.loadFailed adapter true }
  else data

end LocationAPIData

/-- What `createInstance` and `updateCallbacks` do for one adapter. -/
def LocationAPICall.add (client : Nat) (locationCallbacks : LocationCallbacks)
    (found : Adapter → Bool) (call : LocationAPICall) (adapter : Adapter) : LocationAPICall :=
  if locationCallbacks.isClient adapter then
    let data := call.data.load adapter (found adapter)
    if data.interface adapter then
      { data := data
        issued := call.issued ++ (adapter, .addClient client locationCallbacks) ::
          if call.requestedCapabilities then [] else [(adapter, .requestCapabilities client)]
        requestedCapabilities := true }
    else { call with data := data }
  else call

namespace LocationAPIData
variable (data : LocationAPIData)

/-- `gData.clientData[client] = locationCallbacks`. -/
def save (client : Nat) (locationCallbacks : LocationCallbacks) : LocationAPIData :=
  { data with clientData := data.clientData.insert client locationCallbacks }

/-- `createInstance`, where `new` gives the object the address `client`. -/
def createInstance (client : Nat) (locationCallbacks : LocationCallbacks)
    (found : Adapter → Bool) : LocationAPIData × List (Adapter × ClientCommand) :=
  if locationCallbacks.hasMandatory then
    let call := Adapter.all.foldl (LocationAPICall.add client locationCallbacks found)
      ⟨data, [], false⟩
    (call.data.save client locationCallbacks, call.issued)
  else (data, [])

/-- `updateCallbacks` asks for no capabilities. -/
def updateCallbacks (client : Nat) (locationCallbacks : LocationCallbacks)
    (found : Adapter → Bool) : LocationAPIData × List (Adapter × ClientCommand) :=
  if locationCallbacks.hasMandatory then
    let call := Adapter.all.foldl (LocationAPICall.add client locationCallbacks found)
      ⟨data, [], true⟩
    (call.data.save client locationCallbacks, call.issued)
  else (data, [])

/-- `destroy`, by way of the destructor. -/
def destroy (client : Nat) : LocationAPIData × List (Adapter × ClientCommand) :=
  match data.clientData.lookup client with
  | some callbacks =>
    let removed := Adapter.all.filter fun adapter =>
      callbacks.isClient adapter && data.interface adapter
    ({ data with clientData := data.clientData.erase client },
      removed.map fun adapter => (adapter, .removeClient client))
  | none => (data, [])

end LocationAPIData

/-- What an adapter does for a command, on its own client data. -/
def ClientCommand.proc (held : AList fun _ : Nat => LocationCallbacks) :
    ClientCommand → AList fun _ : Nat => LocationCallbacks
  | .addClient client callbacks => held.insert client callbacks
  | .requestCapabilities _ => held
  | .removeClient client => held.erase client

end Msm8917Common.Location
