import Mathlib.Data.List.AList
import Mathlib.Data.List.Sort
import Mathlib.Logic.Function.Basic
import Msm8917Common.LocationTypes

/-! `LocationAPIClientBase.cpp`: the client side of the location API. Each call
makes commands for the adapters and queues the request that waits for the answer;
a response is matched to a request by its session number. Session numbers come
from the adapters, so they are arguments here. -/
namespace Msm8917Common.Location

/-- `BiDict<T>`: ids of the client, session numbers, and what is kept for each. -/
structure BiDict (α : Type*) where
  mForwardMap : AList fun _ : Nat => Nat
  mBackwardMap : AList fun _ : Nat => Nat
  mExtMap : AList fun _ : Nat => α

namespace BiDict
variable {α : Type*} (dict : BiDict α)

def new : BiDict α := ⟨∅, ∅, ∅⟩

def hasId (id : Nat) : Bool := (dict.mForwardMap.lookup id).isSome

def hasSession (session : Nat) : Bool := (dict.mBackwardMap.lookup session).isSome

/-- `set` overwrites, and removes nothing. -/
def set (id session : Nat) (ext : α) : BiDict α where
  mForwardMap := dict.mForwardMap.insert id session
  mBackwardMap := dict.mBackwardMap.insert session id
  mExtMap := dict.mExtMap.insert session ext

/-- `operator[]` reads zero for an absent key. -/
def rmById (id : Nat) : BiDict α :=
  let session := (dict.mForwardMap.lookup id).getD 0
  { mForwardMap := dict.mForwardMap.erase id
    mBackwardMap := dict.mBackwardMap.erase session
    mExtMap := dict.mExtMap.erase session }

def rmBySession (session : Nat) : BiDict α :=
  let id := (dict.mBackwardMap.lookup session).getD 0
  { mForwardMap := dict.mForwardMap.erase id
    mBackwardMap := dict.mBackwardMap.erase session
    mExtMap := dict.mExtMap.erase session }

def getSession (id : Nat) : Nat := (dict.mForwardMap.lookup id).getD 0

/-- The zeroed value stands for what is not there. -/
def getExtBySession (zero : α) (session : Nat) : α := (dict.mExtMap.lookup session).getD zero

def getExtById (zero : α) (id : Nat) : α :=
  if dict.getSession id > 0 then dict.getExtBySession zero (dict.getSession id) else zero

def getAllSessions : List Nat := dict.mBackwardMap.keys.insertionSort (· ≤ ·)

end BiDict

inductive SessionMode where
  | none | onFull | onFix | onTripCompleted
  deriving DecidableEq

structure SessionEntity where
  id : Nat
  trackingSession : Nat
  batchingSession : Nat
  sessionMode : SessionMode
  deriving DecidableEq

def SessionEntity.zero : SessionEntity := ⟨0, 0, 0, .none⟩

/-- The classes of requests. The one that removes geofences keeps what it removed. -/
inductive RequestKind where
  | startTracking | stopTracking | updateTrackingOptions
  | startBatching | stopBatching | updateBatchingOptions | getBatchedLocations
  | addGeofences | removeGeofences (mRemovedGeofenceBiDict : BiDict Nat)
  | modifyGeofences | pauseGeofences | resumeGeofences
  | gnssNiResponse

/-- `LocationAPIRequest`: one object for each call that waits for an answer. -/
structure LocationAPIRequest where
  address : Nat
  kind : RequestKind

inductive RequestType where
  | tracking | session | geofence | niResponse
  deriving DecidableEq

structure RequestQueue where
  mSession : Nat
  mQueue : List LocationAPIRequest

namespace RequestQueue
variable (queue : RequestQueue)

def setSession (session : Nat) : RequestQueue := { queue with mSession := session }

/-- `reset` deletes the requests that still wait. -/
def reset (_ : RequestQueue) (session : Nat) : RequestQueue := ⟨session, []⟩

def push (request : LocationAPIRequest) : RequestQueue :=
  { queue with mQueue := queue.mQueue ++ [request] }

end RequestQueue

/-- A call on `LocationAPI` with the session numbers that it carries or, for the
calls that start something, returns. -/
inductive ApiCall where
  | startTracking (session : Nat)
  | stopTracking (session : Nat)
  | updateTrackingOptions (session : Nat)
  | startBatching (session : Nat)
  | stopBatching (session : Nat)
  | updateBatchingOptions (session : Nat)
  | getBatchedLocations (session : Nat)
  | addGeofences (sessions : List Nat)
  | removeGeofences (sessions : List Nat)
  | modifyGeofences (sessions : List Nat)
  | pauseGeofences (sessions : List Nat)
  | resumeGeofences (sessions : List Nat)
  | gnssNiResponse (session : Nat)
  deriving DecidableEq

structure LocationAPIClientBase where
  mLocationAPI : Bool
  mRequestQueues : RequestType → RequestQueue
  mGeofenceBiDict : BiDict Nat
  mSessionBiDict : BiDict SessionEntity
  mTracking : Bool
  /-- How many requests were made, which tells them apart. -/
  allocated : Nat

/-- What a call leaves behind, makes the adapters do, and returns. -/
structure CallResult where
  client : LocationAPIClientBase
  calls : List ApiCall
  retVal : LocationError

namespace LocationAPIClientBase
variable (client : LocationAPIClientBase)

/-- The constructor, and `locAPISetCallbacks` if there is a `LocationAPI` to use. -/
def new (mLocationAPI : Bool) : LocationAPIClientBase where
  mLocationAPI := mLocationAPI
  mRequestQueues := fun _ => ⟨0, []⟩
  mGeofenceBiDict := .new
  mSessionBiDict := .new
  mTracking := false
  allocated := 0

def withQueue (type : RequestType) (change : RequestQueue → RequestQueue) :
    LocationAPIClientBase :=
  { client with
    mRequestQueues := Function.update client.mRequestQueues type
      (change (client.mRequestQueues type)) }

/-- `push` of a request that is made for it. -/
def push (type : RequestType) (kind : RequestKind) : LocationAPIClientBase :=
  { client.withQueue type (·.push ⟨client.allocated, kind⟩) with
    allocated := client.allocated + 1 }

def pop (type : RequestType) : LocationAPIClientBase × Option LocationAPIRequest :=
  match (client.mRequestQueues type).mQueue with
  | [] => (client, none)
  | request :: rest => (client.withQueue type ({ · with mQueue := rest }), some request)

def locAPIStartTracking (session : Nat) : CallResult :=
  if client.mLocationAPI then
    if client.mTracking then ⟨client, [], .success⟩
    else
      let client := (client.withQueue .tracking (·.reset session)).push .tracking .startTracking
      ⟨{ client with mTracking := true }, [.startTracking session], .success⟩
  else ⟨client, [], .generalFailure⟩

def locAPIStopTracking : CallResult :=
  let session := (client.mRequestQueues .tracking).mSession
  if client.mLocationAPI ∧ session > 0 then
    ⟨{ client.push .tracking .stopTracking with mTracking := false }, [.stopTracking session],
      .success⟩
  else ⟨client, [], .success⟩

def locAPIUpdateTrackingOptions : CallResult :=
  let session := (client.mRequestQueues .tracking).mSession
  if client.mLocationAPI ∧ session > 0 then
    ⟨client.push .tracking .updateTrackingOptions, [.updateTrackingOptions session], .success⟩
  else ⟨client, [], .success⟩

def locAPIStartSession (id : Nat) (sessionMode : SessionMode) (session : Nat) : CallResult :=
  if client.mLocationAPI then
    if client.mSessionBiDict.hasId id then ⟨client, [], .alreadyStarted⟩
    else if sessionMode = .onFix then
      let client := client.push .session .startTracking
      ⟨{ client with mSessionBiDict :=
          client.mSessionBiDict.set id session ⟨id, session, 0, sessionMode⟩ },
        [.startTracking session], .success⟩
    else
      let client := (client.withQueue .session (·.setSession session)).push .session .startBatching
      ⟨{ client with mSessionBiDict :=
          client.mSessionBiDict.set id session ⟨id, 0, session, sessionMode⟩ },
        [.startBatching session], .success⟩
  else ⟨client, [], .generalFailure⟩

def locAPIStopSession (id : Nat) : CallResult :=
  if client.mLocationAPI then
    if client.mSessionBiDict.hasId id then
      let entity := client.mSessionBiDict.getExtById .zero id
      if entity.sessionMode = .onFix then
        ⟨client.push .session .stopTracking, [.stopTracking entity.trackingSession], .success⟩
      else ⟨client.push .session .stopBatching, [.stopBatching entity.batchingSession], .success⟩
    else ⟨client, [], .idUnknown⟩
  else ⟨client, [], .generalFailure⟩

/-- The session that is started, if the mode changes between tracking and
batching, is `started`. The stop that goes with it has no request of its own. -/
def locAPIUpdateSessionOptions (id : Nat) (sessionMode : SessionMode) (started : Nat) :
    CallResult :=
  if client.mLocationAPI then
    if client.mSessionBiDict.hasId id then
      let entity := client.mSessionBiDict.getExtById .zero id
      if sessionMode = .onFix then
        let client := client.push .session .updateTrackingOptions
        if entity.sessionMode = .onFix then
          let dict := (client.mSessionBiDict.rmById id).set id entity.trackingSession
            ⟨entity.id, entity.trackingSession, entity.batchingSession, sessionMode⟩
          ⟨{ client with mSessionBiDict := dict },
            [.updateTrackingOptions entity.trackingSession], .success⟩
        else
          let client := client.withQueue .session (·.setSession 0)
          let dict := (client.mSessionBiDict.rmById id).set id started
            ⟨entity.id, started, 0, sessionMode⟩
          ⟨{ client with mSessionBiDict := dict },
            [.stopBatching entity.batchingSession, .startTracking started], .success⟩
      else
        let client := client.push .session .updateBatchingOptions
        if entity.sessionMode = .onFix then
          let client := client.withQueue .session (·.setSession started)
          let dict := (client.mSessionBiDict.rmById id).set id started
            ⟨entity.id, 0, started, sessionMode⟩
          ⟨{ client with mSessionBiDict := dict },
            [.stopTracking entity.trackingSession, .startBatching started], .success⟩
        else
          let dict := (client.mSessionBiDict.rmById id).set id entity.batchingSession
            ⟨entity.id, entity.trackingSession, entity.batchingSession, sessionMode⟩
          ⟨{ client with mSessionBiDict := dict },
            [.updateBatchingOptions entity.batchingSession], .success⟩
    else ⟨client, [], .idUnknown⟩
  else ⟨client, [], .generalFailure⟩

def locAPIGetBatchedLocations (id : Nat) : CallResult :=
  if client.mLocationAPI then
    if client.mSessionBiDict.hasId id then
      let entity := client.mSessionBiDict.getExtById .zero id
      if entity.sessionMode ≠ .onFix then
        ⟨client.push .session .getBatchedLocations, [.getBatchedLocations entity.batchingSession],
          .success⟩
      else ⟨client, [], .notSupported⟩
    else ⟨client, [], .idUnknown⟩
  else ⟨client, [], .generalFailure⟩

def GEOFENCE_SESSION_ID : Nat := 0xFFFFFFFF

/-- The loop of `locAPIAddGeofences`, over each id with its breach mask and the
session that it got. -/
def setGeofences (dict : BiDict Nat) (geofences : List ((Nat × Nat) × Nat)) : BiDict Nat :=
  geofences.foldl (fun dict geofence => dict.set geofence.1.1 geofence.2 geofence.1.2) dict

/-- Ids come with their breach masks. The adapter returns no sessions if there is
none. -/
def locAPIAddGeofences (geofences : List (Nat × Nat)) (sessions : Option (List Nat)) :
    CallResult :=
  if client.mLocationAPI then
    let client :=
      if (client.mRequestQueues .geofence).mSession ≠ GEOFENCE_SESSION_ID then
        client.withQueue .geofence (·.reset GEOFENCE_SESSION_ID)
      else client
    match sessions with
    | none => ⟨client, [], .generalFailure⟩
    | some sessions =>
      let client := client.push .geofence .addGeofences
      ⟨{ client with
          mGeofenceBiDict := setGeofences client.mGeofenceBiDict (geofences.zip sessions) },
        [.addGeofences sessions], .success⟩
  else ⟨client, [], .generalFailure⟩

/-- One turn of the loop of `locAPIRemoveGeofences`, on the dictionary, the one of
the removed geofences, and `sessions`. -/
def removeGeofence (state : BiDict Nat × BiDict Nat × List Nat) (id : Nat) :
    BiDict Nat × BiDict Nat × List Nat :=
  let session := state.1.getSession id
  if session > 0 then
    (state.1.rmBySession session, state.2.1.set id session (state.1.getExtBySession 0 session),
      state.2.2 ++ [session])
  else state

def locAPIRemoveGeofences (ids : List Nat) : CallResult :=
  if client.mLocationAPI ∧ (client.mRequestQueues .geofence).mSession = GEOFENCE_SESSION_ID then
    let (dict, removed, sessions) := ids.foldl removeGeofence (client.mGeofenceBiDict, .new, [])
    if sessions.isEmpty then ⟨{ client with mGeofenceBiDict := dict }, [], .success⟩
    else
      ⟨{ client.push .geofence (.removeGeofences removed) with mGeofenceBiDict := dict },
        [.removeGeofences sessions], .success⟩
  else ⟨client, [], .success⟩

/-- The sessions of those of the ids that have one. -/
def knownSessions (ids : List Nat) : List Nat :=
  (ids.map client.mGeofenceBiDict.getSession).filter (· > 0)

/-- One turn of the loops that give a geofence a new mask. -/
def remaskGeofence (dict : BiDict Nat) (geofence : Nat × Nat) : BiDict Nat :=
  let session := dict.getSession geofence.1
  if session > 0 then dict.set geofence.1 session geofence.2 else dict

def locAPIModifyGeofences (geofences : List (Nat × Nat)) : CallResult :=
  if client.mLocationAPI ∧ (client.mRequestQueues .geofence).mSession = GEOFENCE_SESSION_ID then
    let sessions := client.knownSessions (geofences.map Prod.fst)
    let dict := geofences.foldl remaskGeofence client.mGeofenceBiDict
    if sessions.isEmpty then ⟨client, [], .success⟩
    else ⟨{ client.push .geofence .modifyGeofences with mGeofenceBiDict := dict },
      [.modifyGeofences sessions], .success⟩
  else ⟨client, [], .success⟩

def locAPIPauseGeofences (ids : List Nat) : CallResult :=
  if client.mLocationAPI ∧ (client.mRequestQueues .geofence).mSession = GEOFENCE_SESSION_ID then
    let sessions := client.knownSessions ids
    if sessions.isEmpty then ⟨client, [], .success⟩
    else ⟨client.push .geofence .pauseGeofences, [.pauseGeofences sessions], .success⟩
  else ⟨client, [], .success⟩

/-- The masks may be missing. -/
def locAPIResumeGeofences (ids : List Nat) (mask : Option (List Nat)) : CallResult :=
  if client.mLocationAPI ∧ (client.mRequestQueues .geofence).mSession = GEOFENCE_SESSION_ID then
    let sessions := client.knownSessions ids
    let dict := match mask with
      | some mask => (ids.zip mask).foldl remaskGeofence client.mGeofenceBiDict
      | none => client.mGeofenceBiDict
    if sessions.isEmpty then ⟨client, [], .success⟩
    else ⟨{ client.push .geofence .resumeGeofences with mGeofenceBiDict := dict },
      [.resumeGeofences sessions], .success⟩
  else ⟨client, [], .success⟩

def locAPIGnssNiResponse (id : Nat) : CallResult :=
  if client.mLocationAPI then
    ⟨(client.withQueue .niResponse (·.reset id)).push .niResponse .gnssNiResponse,
      [.gnssNiResponse id], .success⟩
  else ⟨client, [], .success⟩

def removeSession (session : Nat) : LocationAPIClientBase :=
  if client.mSessionBiDict.hasSession session then
    { client with mSessionBiDict := client.mSessionBiDict.rmBySession session }
  else client

/-- The first queue of tracking and NI responses that has the session is tried, and
then, if it had no request, the queue of the sessions in the dictionary. -/
def getRequestBySession (session : Nat) : LocationAPIClientBase × Option LocationAPIRequest :=
  let found := [RequestType.tracking, .niResponse].find? fun type =>
    (client.mRequestQueues type).mSession = session
  let (client, request) := found.elim (client, none) client.pop
  if request.isNone ∧ client.mSessionBiDict.hasSession session then client.pop .session
  else (client, request)

/-- What `onResponse` of a request does to the client; its callback is named by the
kind of the request. -/
def onResponse (request : LocationAPIRequest) (error : LocationError) (id : Nat) :
    LocationAPIClientBase :=
  match request.kind with
  | .startTracking | .startBatching =>
    if error ≠ .success then client.removeSession id else client
  | .stopTracking | .stopBatching =>
    if error = .success then client.removeSession id else client
  | _ => client

/-- `onResponseCb`, with the request that the response is delivered to. -/
def onResponseCb (error : LocationError) (id : Nat) :
    LocationAPIClientBase × Option LocationAPIRequest :=
  match client.getRequestBySession id with
  | (client, some request) => (client.onResponse request error id, some request)
  | (client, none) => (client, none)

/-- `onCollectiveResponseCb`, with the request that the response is delivered to. -/
def onCollectiveResponseCb : LocationAPIClientBase × Option LocationAPIRequest :=
  if (client.mRequestQueues .geofence).mSession = GEOFENCE_SESSION_ID then client.pop .geofence
  else (client, none)

/-- `beforeBatchingStatusCb`: completed trips leave the dictionary. -/
def beforeBatchingStatusCb (tripCompletedList : List Nat) : LocationAPIClientBase :=
  tripCompletedList.foldl (fun client session =>
    if client.mSessionBiDict.hasSession session ∧
        (client.mSessionBiDict.getExtBySession .zero session).sessionMode = .onTripCompleted then
      { client with mSessionBiDict := client.mSessionBiDict.rmBySession session }
    else client) client

/-- `locAPIRemoveAllGeofences` passes the sessions where ids are expected. -/
def locAPIRemoveAllGeofences : CallResult :=
  client.locAPIRemoveGeofences client.mGeofenceBiDict.getAllSessions

section Responses
variable {client} {session : Nat}

/-- `pop` leaves the rest of its queue, and the other queues as they are. -/
theorem pop_queues (client : LocationAPIClientBase) (type : RequestType) :
    (client.pop type).1.mRequestQueues = Function.update client.mRequestQueues type
      { client.mRequestQueues type with mQueue := (client.mRequestQueues type).mQueue.tail } := by
  unfold pop
  split
  · next empty =>
    have same : { client.mRequestQueues type with
        mQueue := (client.mRequestQueues type).mQueue.tail } = client.mRequestQueues type := by
      rw [empty, List.tail_nil, ← empty]
    rw [same, Function.update_eq_self]
  · next request rest queued =>
    rw [queued]
    rfl

/-- It returns the first request, if there is one. -/
theorem pop_request (client : LocationAPIClientBase) (type : RequestType) :
    (client.pop type).2 = (client.mRequestQueues type).mQueue.head? := by
  unfold pop
  split <;> next queued => rw [queued]; rfl

theorem pop_allocated (client : LocationAPIClientBase) (type : RequestType) :
    (client.pop type).1.allocated = client.allocated := by
  unfold pop
  split <;> rfl

private theorem pop_empty {type : RequestType}
    (empty : (client.mRequestQueues type).mQueue = []) : client.pop type = (client, none) := by
  simp only [pop, empty]

/-- The queue that `getRequestBySession` takes a request from. -/
def answeringQueue (client : LocationAPIClientBase) (session : Nat) : Option RequestType :=
  if (client.mRequestQueues .tracking).mSession = session ∧
      (client.mRequestQueues .tracking).mQueue ≠ [] then some .tracking
  else if (client.mRequestQueues .tracking).mSession ≠ session ∧
      (client.mRequestQueues .niResponse).mSession = session ∧
      (client.mRequestQueues .niResponse).mQueue ≠ [] then some .niResponse
  else if client.mSessionBiDict.hasSession session = true ∧
      (client.mRequestQueues .session).mQueue ≠ [] then some .session
  else none

private theorem pop_found {type : RequestType}
    (waiting : (client.mRequestQueues type).mQueue ≠ []) : (client.pop type).2.isNone = false := by
  rw [pop_request, Option.isNone_eq_false_iff, List.isSome_head?]
  exact waiting

/-- The search, once it is known which of the first two queues it tries. -/
private theorem getRequestBySession_of_found {found : Option RequestType}
    (tried : [RequestType.tracking, .niResponse].find? (fun type =>
      (client.mRequestQueues type).mSession = session) = found) :
    client.getRequestBySession session =
      if (found.elim (client, none) client.pop).2.isNone ∧
          (found.elim (client, none) client.pop).1.mSessionBiDict.hasSession session then
        (found.elim (client, none) client.pop).1.pop .session
      else found.elim (client, none) client.pop := by
  subst tried
  rfl

private theorem fallback_pops : (if client.mSessionBiDict.hasSession session = true then
      client.pop .session else (client, none)) =
    (if client.mSessionBiDict.hasSession session = true ∧
      (client.mRequestQueues .session).mQueue ≠ [] then some RequestType.session
      else none).elim (client, none) client.pop := by
  by_cases known : client.mSessionBiDict.hasSession session = true
  · by_cases empty : (client.mRequestQueues .session).mQueue = []
    · simp [known, empty, pop_empty empty]
    · simp [known, empty]
  · simp [known]

/-- The search pops the queue that answers to the number, or finds nothing. -/
theorem getRequestBySession_pops (client : LocationAPIClientBase) (session : Nat) :
    client.getRequestBySession session =
      (client.answeringQueue session).elim (client, none) client.pop := by
  unfold answeringQueue
  by_cases tracks : (client.mRequestQueues .tracking).mSession = session
  · have tried : [RequestType.tracking, .niResponse].find? (fun type =>
        (client.mRequestQueues type).mSession = session) = some .tracking := by simp [tracks]
    rw [getRequestBySession_of_found tried]
    by_cases empty : (client.mRequestQueues .tracking).mQueue = []
    · simpa [tracks, empty, pop_empty empty] using fallback_pops
    · simp [tracks, empty, pop_found empty]
  · by_cases responds : (client.mRequestQueues .niResponse).mSession = session
    · have tried : [RequestType.tracking, .niResponse].find? (fun type =>
          (client.mRequestQueues type).mSession = session) = some .niResponse := by
        simp [tracks, responds]
      rw [getRequestBySession_of_found tried]
      by_cases empty : (client.mRequestQueues .niResponse).mQueue = []
      · simpa [tracks, empty, pop_empty empty] using fallback_pops
      · simp [tracks, responds, empty, pop_found empty]
    · have tried : [RequestType.tracking, .niResponse].find? (fun type =>
          (client.mRequestQueues type).mSession = session) = none := by simp [tracks, responds]
      rw [getRequestBySession_of_found tried]
      simpa [tracks, responds] using fallback_pops

theorem answeringQueue_waits {type : RequestType}
    (found : client.answeringQueue session = some type) :
    (client.mRequestQueues type).mQueue ≠ [] := by
  unfold answeringQueue at found
  split at found
  · next tracks =>
    cases found
    exact tracks.2
  · split at found
    · next responds =>
      cases found
      exact responds.2.2
    · split at found
      · next known =>
        cases found
        exact known.2
      · cases found

/-- `onResponse` removes the session, or does nothing to the client. -/
theorem onResponse_removes (client : LocationAPIClientBase) (request : LocationAPIRequest)
    (error : LocationError) (session : Nat) :
    client.onResponse request error session = client ∨
      client.onResponse request error session = client.removeSession session := by
  unfold onResponse
  cases request.kind with
  | startTracking | startBatching | stopTracking | stopBatching =>
    simp only
    split
    · exact .inr rfl
    · exact .inl rfl
  | _ => exact .inl rfl

end Responses

end LocationAPIClientBase

/-- What happens to a client: its own calls, and the callbacks of the adapters. -/
inductive ClientInput where
  | startTracking (session : Nat)
  | stopTracking
  | updateTrackingOptions
  | startSession (id : Nat) (sessionMode : SessionMode) (session : Nat)
  | stopSession (id : Nat)
  | updateSessionOptions (id : Nat) (sessionMode : SessionMode) (started : Nat)
  | getBatchedLocations (id : Nat)
  | addGeofences (geofences : List (Nat × Nat)) (sessions : Option (List Nat))
  | removeGeofences (ids : List Nat)
  | modifyGeofences (geofences : List (Nat × Nat))
  | pauseGeofences (ids : List Nat)
  | resumeGeofences (ids : List Nat) (mask : Option (List Nat))
  | removeAllGeofences
  | gnssNiResponse (id : Nat)
  | response (error : LocationError) (id : Nat)
  | collectiveResponse
  | batchingStatus (tripCompletedList : List Nat)

def LocationAPIClientBase.step (client : LocationAPIClientBase) :
    ClientInput → LocationAPIClientBase
  | .startTracking session => (client.locAPIStartTracking session).client
  | .stopTracking => client.locAPIStopTracking.client
  | .updateTrackingOptions => client.locAPIUpdateTrackingOptions.client
  | .startSession id sessionMode session =>
    (client.locAPIStartSession id sessionMode session).client
  | .stopSession id => (client.locAPIStopSession id).client
  | .updateSessionOptions id sessionMode started =>
    (client.locAPIUpdateSessionOptions id sessionMode started).client
  | .getBatchedLocations id => (client.locAPIGetBatchedLocations id).client
  | .addGeofences geofences sessions => (client.locAPIAddGeofences geofences sessions).client
  | .removeGeofences ids => (client.locAPIRemoveGeofences ids).client
  | .modifyGeofences geofences => (client.locAPIModifyGeofences geofences).client
  | .pauseGeofences ids => (client.locAPIPauseGeofences ids).client
  | .resumeGeofences ids mask => (client.locAPIResumeGeofences ids mask).client
  | .removeAllGeofences => client.locAPIRemoveAllGeofences.client
  | .gnssNiResponse id => (client.locAPIGnssNiResponse id).client
  | .response error id => (client.onResponseCb error id).1
  | .collectiveResponse => client.onCollectiveResponseCb.1
  | .batchingStatus tripCompletedList => client.beforeBatchingStatusCb tripCompletedList

end Msm8917Common.Location
