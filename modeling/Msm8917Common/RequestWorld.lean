import Msm8917Common.LocationAPI
import Msm8917Common.LocationAPIClientBase

/-! A client of the location API with the adapters that do its commands. Each adapter
takes its commands in order and answers them on a thread of its own; which adapter
moves next, and whether a call of the client comes between, is open. -/
namespace Msm8917Common.Location

namespace ApiCall

/-- The session that the response names. Geofences are answered collectively. -/
def responseSession : ApiCall → Option Nat
  | .startTracking session | .stopTracking session | .updateTrackingOptions session
  | .startBatching session | .stopBatching session | .updateBatchingOptions session
  | .getBatchedLocations session | .gnssNiResponse session => some session
  | .addGeofences _ | .removeGeofences _ | .modifyGeofences _ | .pauseGeofences _
  | .resumeGeofences _ => none

/-- Where `LocationAPI` sends a call. Tracking is started on one of two adapters; a
later call goes to both, because it is not known which one that was. -/
def adapters (onFlp : Bool) : ApiCall → List Adapter
  | .startTracking _ => if onFlp then [.flp] else [.gnss]
  | .stopTracking _ | .updateTrackingOptions _ => [.gnss, .flp]
  | .startBatching _ | .stopBatching _ | .updateBatchingOptions _ | .getBatchedLocations _ =>
    [.flp]
  | .addGeofences _ | .removeGeofences _ | .modifyGeofences _ | .pauseGeofences _
  | .resumeGeofences _ => [.geofence]
  | .gnssNiResponse _ => [.gnss]

end ApiCall

def RequestType.all : List RequestType := [.tracking, .session, .geofence, .niResponse]

/-- Whether the call that makes a request empties its queue first. -/
def RequestType.restarts : RequestType → RequestKind → Bool
  | .tracking, .startTracking => true
  | .niResponse, _ => true
  | _, _ => false

/-- A command of an adapter, and the request that waits for its response in a queue. -/
structure Command where
  call : ApiCall
  request : Option (RequestType × LocationAPIRequest)

namespace CallResult
variable (result : CallResult) (before : LocationAPIClientBase)

/-- The request that a call made: the newest of its queue. -/
def queued : Option (RequestType × LocationAPIRequest) :=
  RequestType.all.findSome? fun type =>
    ((result.client.mRequestQueues type).mQueue.getLast?.filter
      (·.address == before.allocated)).map (type, ·)

/-- The last command of a call has its request. Where a session changes between
tracking and batching the old one is stopped first, and nothing waits for that. -/
def commands : List Command :=
  result.calls.dropLast.map (⟨·, none⟩) ++
    result.calls.getLast?.toList.map (⟨·, result.queued before⟩)

end CallResult

/-- What a call of the client or a batching status does. Responses are none of these. -/
def LocationAPIClientBase.perform (client : LocationAPIClientBase) : ClientInput → CallResult
  | .startTracking session => client.locAPIStartTracking session
  | .stopTracking => client.locAPIStopTracking
  | .updateTrackingOptions => client.locAPIUpdateTrackingOptions
  | .startSession id sessionMode session => client.locAPIStartSession id sessionMode session
  | .stopSession id => client.locAPIStopSession id
  | .updateSessionOptions id sessionMode started =>
    client.locAPIUpdateSessionOptions id sessionMode started
  | .getBatchedLocations id => client.locAPIGetBatchedLocations id
  | .addGeofences geofences sessions => client.locAPIAddGeofences geofences sessions
  | .removeGeofences ids => client.locAPIRemoveGeofences ids
  | .modifyGeofences geofences => client.locAPIModifyGeofences geofences
  | .pauseGeofences ids => client.locAPIPauseGeofences ids
  | .resumeGeofences ids mask => client.locAPIResumeGeofences ids mask
  | .removeAllGeofences => client.locAPIRemoveAllGeofences
  | .gnssNiResponse id => client.locAPIGnssNiResponse id
  | .response _ _ | .collectiveResponse => ⟨client, [], .success⟩
  | .batchingStatus tripCompletedList =>
    ⟨client.beforeBatchingStatusCb tripCompletedList, [], .success⟩

/-- `made` has every request with its queue, in order, and `answered` the addresses of
those whose response has arrived. `delivering` is what an adapter's thread is about:
`onResponse` runs after the mutex of the client is released. -/
structure RequestWorld where
  client : LocationAPIClientBase
  pending : Adapter → List Command
  delivering : Adapter → Option (LocationAPIRequest × LocationError × Nat)
  made : List (RequestType × LocationAPIRequest)
  answered : List Nat

/-- A command is answered, or passed over: of a session that an adapter does not have
it says nothing. The geofence adapter answers every command. -/
inductive RequestInput where
  | call (input : ClientInput) (onFlp : Bool)
  | answer (adapter : Adapter) (error : LocationError)
  | finish (adapter : Adapter)
  | passOver (adapter : Adapter)

namespace RequestWorld
variable (world : RequestWorld)

def start (mLocationAPI : Bool) : RequestWorld :=
  ⟨.new mLocationAPI, fun _ => [], fun _ => none, [], []⟩

def call (input : ClientInput) (onFlp : Bool) : RequestWorld :=
  let result := world.client.perform input
  { world with
    client := result.client
    pending := fun adapter => world.pending adapter ++
      (result.commands world.client).filter (adapter ∈ ·.call.adapters onFlp)
    made := world.made ++ (result.queued world.client).toList }

/-- The command that an adapter does next. -/
def next (adapter : Adapter) : Option Command :=
  if (world.delivering adapter).isSome then none else (world.pending adapter).head?

def advance (adapter : Adapter) : RequestWorld :=
  { world with
    pending := Function.update world.pending adapter (world.pending adapter).tail }

/-- The client once it has looked up the request that a response is for, and the
request that it found. -/
def receive (command : Command) : LocationAPIClientBase × Option LocationAPIRequest :=
  match command.call.responseSession with
  | some session => world.client.getRequestBySession session
  | none => world.client.onCollectiveResponseCb

def answer (adapter : Adapter) (error : LocationError) : RequestWorld :=
  match world.next adapter with
  | none => world
  | some command =>
    let (client, request) := world.receive command
    { world.advance adapter with
      client := client
      delivering := Function.update world.delivering adapter
        (request.bind fun request => command.call.responseSession.map (request, error, ·))
      answered := command.request.toList.map (·.2.address) ++ world.answered }

def finish (adapter : Adapter) : RequestWorld :=
  match world.delivering adapter with
  | none => world
  | some (request, error, session) =>
    { world with
      client := world.client.onResponse request error session
      delivering := Function.update world.delivering adapter none }

def passOver (adapter : Adapter) : RequestWorld :=
  if adapter = .geofence ∨ world.next adapter = none then world else world.advance adapter

def step (world : RequestWorld) : RequestInput → RequestWorld
  | .call input onFlp => world.call input onFlp
  | .answer adapter error => world.answer adapter error
  | .finish adapter => world.finish adapter
  | .passOver adapter => world.passOver adapter

/-- The requests of a queue that were made since the calls last emptied it. -/
def since (made : List (RequestType × LocationAPIRequest)) (type : RequestType) :
    List LocationAPIRequest :=
  made.foldl (fun kept entry =>
    if entry.1 = type then
      if type.restarts entry.2.kind then [entry.2] else kept ++ [entry.2]
    else kept) []

/-- Those of them whose response has not arrived. -/
def outstanding (type : RequestType) : List LocationAPIRequest :=
  (since world.made type).filter (·.address ∉ world.answered)

end RequestWorld

end Msm8917Common.Location
