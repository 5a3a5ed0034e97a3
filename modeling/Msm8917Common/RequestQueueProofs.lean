import Msm8917Common.RequestWorld

/-! What the calls of a client leave in its queues of requests. Every call puts at most
one request into one queue, with the commands that it is for, and nothing that runs
after the search of a response touches the queues. -/
namespace Msm8917Common.Location.RequestQueueProofs
open LocationAPIClientBase

/-- `onResponse` leaves the queues alone. -/
theorem onResponse_rest (client : LocationAPIClientBase) (request : LocationAPIRequest)
    (error : LocationError) (session : Nat) :
    (client.onResponse request error session).mRequestQueues = client.mRequestQueues ∧
      (client.onResponse request error session).allocated = client.allocated := by
  rcases onResponse_removes client request error session with same | removed
  · rw [same]
    exact ⟨rfl, rfl⟩
  · rw [removed, removeSession]
    split <;> exact ⟨rfl, rfl⟩

private theorem batchingStatus_rest (client : LocationAPIClientBase)
    (tripCompletedList : List Nat) :
    (client.beforeBatchingStatusCb tripCompletedList).mRequestQueues = client.mRequestQueues ∧
      (client.beforeBatchingStatusCb tripCompletedList).allocated = client.allocated := by
  unfold beforeBatchingStatusCb
  induction tripCompletedList generalizing client with
  | nil => exact ⟨rfl, rfl⟩
  | cons session rest ih =>
    simp only [List.foldl_cons]
    refine ⟨(ih _).1.trans ?_, (ih _).2.trans ?_⟩ <;> split <;> rfl

/-- A call that makes one request: the queue it goes to, which is emptied first if the
request restarts it, and the commands, of which the last names the session of the queue
where the queue compares its number. -/
structure Makes (client : LocationAPIClientBase) (result : CallResult) (type : RequestType)
    (kind : RequestKind) (session : Nat) (first : List ApiCall) (last : ApiCall) : Prop where
  calls : result.calls = first ++ [last]
  allocated : result.client.allocated = client.allocated + 1
  queues : result.client.mRequestQueues = Function.update client.mRequestQueues type
    ⟨session, (if type.restarts kind then [] else (client.mRequestQueues type).mQueue) ++
      [⟨client.allocated, kind⟩]⟩
  keeps : type = .tracking → type.restarts kind = false →
    session = (client.mRequestQueues type).mSession
  names : type = .tracking ∨ type = .niResponse → last.responseSession = some session
  fences : type = .geofence →
    session = GEOFENCE_SESSION_ID ∧ first = [] ∧ last.responseSession = none
  others : type ≠ .geofence → ∀ call ∈ result.calls, call.responseSession ≠ none

/-- What a call does to the queues. It makes a request, or it does nothing, except that
the queue of the geofences, still empty, may get its number. -/
inductive Effect (client : LocationAPIClientBase) (result : CallResult) : Prop
  | quiet (calls : result.calls = []) (allocated : result.client.allocated = client.allocated)
      (queues : result.client.mRequestQueues = client.mRequestQueues)
  | opens (calls : result.calls = []) (allocated : result.client.allocated = client.allocated)
      (queues : result.client.mRequestQueues = Function.update client.mRequestQueues .geofence
        ⟨GEOFENCE_SESSION_ID, (client.mRequestQueues .geofence).mQueue⟩)
  | makes (type : RequestType) (kind : RequestKind) (session : Nat) (first : List ApiCall)
      (last : ApiCall) (request : Makes client result type kind session first last)

section Calls
variable {client : LocationAPIClientBase} {result : CallResult}

private theorem startTracking_effect (session : Nat) :
    Effect client (client.locAPIStartTracking session) := by
  unfold locAPIStartTracking
  split
  · split
    · exact .quiet rfl rfl rfl
    · refine .makes .tracking .startTracking session [] (.startTracking session)
        ⟨rfl, rfl, ?_, (fun _ restarts => nomatch restarts), fun _ => rfl, nofun, ?_⟩
      · simp [push, withQueue, RequestQueue.reset, RequestQueue.push, RequestType.restarts]
      · simp [ApiCall.responseSession]
  · exact .quiet rfl rfl rfl

/-- A call about the tracking session. -/
private theorem tracking_effect {kind : RequestKind} {call : ApiCall}
    (plain : RequestType.tracking.restarts kind = false) (calls : result.calls = [call])
    (allocated : result.client.allocated = client.allocated + 1)
    (queues : result.client.mRequestQueues = (client.push .tracking kind).mRequestQueues)
    (names : call.responseSession = some (client.mRequestQueues .tracking).mSession) :
    Effect client result := by
  refine .makes .tracking kind (client.mRequestQueues .tracking).mSession [] call
    ⟨calls, allocated, ?_, fun _ _ => rfl, fun _ => names, nofun, ?_⟩
  · rw [queues, plain]
    rfl
  · rw [calls]
    simp [names]

private theorem stopTracking_effect : Effect client client.locAPIStopTracking := by
  unfold locAPIStopTracking
  simp only
  split
  · exact tracking_effect rfl rfl rfl rfl rfl
  · exact .quiet rfl rfl rfl

private theorem updateTrackingOptions_effect :
    Effect client client.locAPIUpdateTrackingOptions := by
  unfold locAPIUpdateTrackingOptions
  simp only
  split
  · exact tracking_effect rfl rfl rfl rfl rfl
  · exact .quiet rfl rfl rfl

/-- A call about a session of the dictionary. The number of the queue is of no account. -/
private theorem session_effect (kind : RequestKind) (number : Nat) {first : List ApiCall}
    {last : ApiCall} (calls : result.calls = first ++ [last])
    (allocated : result.client.allocated = client.allocated + 1)
    (queues : result.client.mRequestQueues = Function.update client.mRequestQueues .session
      ⟨number, (client.mRequestQueues .session).mQueue ++ [⟨client.allocated, kind⟩]⟩)
    (others : ∀ call ∈ result.calls, call.responseSession ≠ none) : Effect client result :=
  .makes .session kind number first last
    ⟨calls, allocated, queues, nofun, fun own => by simp at own, nofun, fun _ => others⟩

private theorem startSession_effect (id : Nat) (sessionMode : SessionMode) (session : Nat) :
    Effect client (client.locAPIStartSession id sessionMode session) := by
  unfold locAPIStartSession
  split
  · split
    · exact .quiet rfl rfl rfl
    · split
      · apply session_effect .startTracking _ (List.nil_append _).symm rfl rfl
        simp [ApiCall.responseSession]
      · refine session_effect .startBatching session (List.nil_append _).symm rfl ?_ ?_
        · simp [push, withQueue,
            RequestQueue.setSession, RequestQueue.push]
        · simp [ApiCall.responseSession]
  · exact .quiet rfl rfl rfl

private theorem stopSession_effect (id : Nat) : Effect client (client.locAPIStopSession id) := by
  unfold locAPIStopSession
  split
  · split
    · simp only
      split
      · apply session_effect .stopTracking _ (List.nil_append _).symm rfl rfl
        simp [ApiCall.responseSession]
      · apply session_effect .stopBatching _ (List.nil_append _).symm rfl rfl
        simp [ApiCall.responseSession]
    · exact .quiet rfl rfl rfl
  · exact .quiet rfl rfl rfl

private theorem updateSession_effect (id : Nat) (sessionMode : SessionMode) (started : Nat) :
    Effect client (client.locAPIUpdateSessionOptions id sessionMode started) := by
  unfold locAPIUpdateSessionOptions
  split
  · split
    · simp only
      split
      · split
        · apply session_effect .updateTrackingOptions _ (List.nil_append _).symm rfl rfl
          simp [ApiCall.responseSession]
        · -- Batching is stopped and tracking is started: two commands, one request.
          refine session_effect .updateTrackingOptions 0 (List.singleton_append).symm rfl ?_ ?_
          · simp [push, withQueue,
              RequestQueue.setSession, RequestQueue.push]
          · simp [ApiCall.responseSession]
      · split
        · refine session_effect .updateBatchingOptions started (List.singleton_append).symm rfl
            ?_ ?_
          · simp [push, withQueue,
              RequestQueue.setSession, RequestQueue.push]
          · simp [ApiCall.responseSession]
        · apply session_effect .updateBatchingOptions _ (List.nil_append _).symm rfl rfl
          simp [ApiCall.responseSession]
    · exact .quiet rfl rfl rfl
  · exact .quiet rfl rfl rfl

private theorem getBatched_effect (id : Nat) :
    Effect client (client.locAPIGetBatchedLocations id) := by
  unfold locAPIGetBatchedLocations
  split
  · split
    · simp only
      split
      · apply session_effect .getBatchedLocations _ (List.nil_append _).symm rfl rfl
        simp [ApiCall.responseSession]
      · exact .quiet rfl rfl rfl
    · exact .quiet rfl rfl rfl
  · exact .quiet rfl rfl rfl

/-- A call about geofences. The queue has their number by then. -/
private theorem geofence_effect (kind : RequestKind) {call : ApiCall}
    (calls : result.calls = [call])
    (allocated : result.client.allocated = client.allocated + 1)
    (queues : result.client.mRequestQueues = Function.update client.mRequestQueues .geofence
      ⟨GEOFENCE_SESSION_ID,
        (client.mRequestQueues .geofence).mQueue ++ [⟨client.allocated, kind⟩]⟩)
    (collective : call.responseSession = none) : Effect client result :=
  .makes .geofence kind GEOFENCE_SESSION_ID [] call
    ⟨calls, allocated, queues, nofun, fun own => by simp at own,
      fun _ => ⟨rfl, rfl, collective⟩, fun other => absurd rfl other⟩

private theorem push_geofence {kind : RequestKind}
    (open_ : (client.mRequestQueues .geofence).mSession =
      GEOFENCE_SESSION_ID) :
    (client.push .geofence kind).mRequestQueues = Function.update client.mRequestQueues .geofence
      ⟨GEOFENCE_SESSION_ID,
        (client.mRequestQueues .geofence).mQueue ++ [⟨client.allocated, kind⟩]⟩ := by
  rw [← open_]
  rfl

private theorem addGeofences_effect (geofences : List (Nat × Nat)) (sessions : Option (List Nat))
    (closed : (client.mRequestQueues .geofence).mSession ≠
      GEOFENCE_SESSION_ID → (client.mRequestQueues .geofence).mQueue = []) :
    Effect client (client.locAPIAddGeofences geofences sessions) := by
  unfold locAPIAddGeofences
  split
  · by_cases numbered : (client.mRequestQueues .geofence).mSession =
        GEOFENCE_SESSION_ID
    · simp only [ne_eq, numbered, not_true_eq_false, if_false]
      cases sessions with
      | none => exact .quiet rfl rfl rfl
      | some given => exact geofence_effect .addGeofences rfl rfl (push_geofence numbered) rfl
    · have empty := closed numbered
      simp only [ne_eq, numbered, not_false_eq_true, if_true]
      cases sessions with
      | none =>
        refine .opens rfl rfl ?_
        rw [empty]
        rfl
      | some given =>
        refine geofence_effect .addGeofences rfl rfl ?_ rfl
        simp [push, withQueue, RequestQueue.reset,
          RequestQueue.push, empty]
  · exact .quiet rfl rfl rfl

/-- The calls about geofences that are there do nothing before the first is added, and
have no command if none of the ids is known. -/
private theorem known_effect {idle : CallResult} {unknown : Prop} [Decidable unknown]
    (nothing : Effect client idle) (kind : RequestKind) {call : ApiCall} {dict : BiDict Nat}
    (collective : call.responseSession = none) :
    Effect client
      (if client.mLocationAPI ∧ (client.mRequestQueues .geofence).mSession = GEOFENCE_SESSION_ID
        then if unknown then idle
          else ⟨{ client.push .geofence kind with mGeofenceBiDict := dict }, [call], .success⟩
        else ⟨client, [], .success⟩) := by
  split
  · next usable =>
    split
    · exact nothing
    · exact geofence_effect kind rfl rfl (push_geofence usable.2) collective
  · exact .quiet rfl rfl rfl

private theorem removeGeofences_effect (ids : List Nat) :
    Effect client (client.locAPIRemoveGeofences ids) := by
  unfold locAPIRemoveGeofences
  apply known_effect
  · exact .quiet rfl rfl rfl
  · rfl

private theorem modifyGeofences_effect (geofences : List (Nat × Nat)) :
    Effect client (client.locAPIModifyGeofences geofences) := by
  unfold locAPIModifyGeofences
  apply known_effect
  · exact .quiet rfl rfl rfl
  · rfl

private theorem pauseGeofences_effect (ids : List Nat) :
    Effect client (client.locAPIPauseGeofences ids) := by
  unfold locAPIPauseGeofences
  apply known_effect
  · exact .quiet rfl rfl rfl
  · rfl

private theorem resumeGeofences_effect (ids : List Nat) (mask : Option (List Nat)) :
    Effect client (client.locAPIResumeGeofences ids mask) := by
  unfold locAPIResumeGeofences
  apply known_effect
  · exact .quiet rfl rfl rfl
  · rfl

private theorem gnssNiResponse_effect (id : Nat) :
    Effect client (client.locAPIGnssNiResponse id) := by
  unfold locAPIGnssNiResponse
  split
  · refine .makes .niResponse .gnssNiResponse id [] (.gnssNiResponse id)
      ⟨rfl, rfl, ?_, nofun, fun _ => rfl, nofun, ?_⟩
    · simp [push, withQueue, RequestQueue.reset, RequestQueue.push, RequestType.restarts]
    · simp [ApiCall.responseSession]
  · exact .quiet rfl rfl rfl

/-- Every call of the client has one of these effects, if the queue of the geofences is
empty while it has no number. -/
theorem perform_effect (input : ClientInput)
    (closed : (client.mRequestQueues .geofence).mSession ≠
      GEOFENCE_SESSION_ID → (client.mRequestQueues .geofence).mQueue = []) :
    Effect client (client.perform input) := by
  cases input with
  | startTracking session => exact startTracking_effect session
  | stopTracking => exact stopTracking_effect
  | updateTrackingOptions => exact updateTrackingOptions_effect
  | startSession id sessionMode session => exact startSession_effect id sessionMode session
  | stopSession id => exact stopSession_effect id
  | updateSessionOptions id sessionMode started =>
    exact updateSession_effect id sessionMode started
  | getBatchedLocations id => exact getBatched_effect id
  | addGeofences geofences sessions => exact addGeofences_effect geofences sessions closed
  | removeGeofences ids => exact removeGeofences_effect ids
  | modifyGeofences geofences => exact modifyGeofences_effect geofences
  | pauseGeofences ids => exact pauseGeofences_effect ids
  | resumeGeofences ids mask => exact resumeGeofences_effect ids mask
  | removeAllGeofences => exact removeGeofences_effect _
  | gnssNiResponse id => exact gnssNiResponse_effect id
  | response error id => exact .quiet rfl rfl rfl
  | collectiveResponse => exact .quiet rfl rfl rfl
  | batchingStatus tripCompletedList =>
    have rest := batchingStatus_rest client tripCompletedList
    exact .quiet rfl rest.2 rest.1

end Calls

section Queued
variable {client : LocationAPIClientBase} {result : CallResult}

private theorem newest_is_old {waiting : List LocationAPIRequest} {allocated : Nat}
    (old : ∀ request ∈ waiting, request.address < allocated) :
    waiting.getLast?.filter (·.address == allocated) = none := by
  cases last : waiting.getLast? with
  | none => rfl
  | some request =>
    have before := old request (List.mem_of_getLast? last)
    simp only [Option.filter, beq_iff_eq, if_neg (Nat.ne_of_lt before)]

/-- A call that pushes nothing has queued no request. -/
theorem queued_nothing
    (old : ∀ type, ∀ request ∈ (client.mRequestQueues type).mQueue,
      request.address < client.allocated)
    (same : ∀ type, (result.client.mRequestQueues type).mQueue =
      (client.mRequestQueues type).mQueue) : result.queued client = none := by
  simp [CallResult.queued, RequestType.all, same, newest_is_old (old _)]

section Makes
variable {type : RequestType} {kind : RequestKind} {session : Nat} {first : List ApiCall}
  {last : ApiCall}

/-- A call that makes a request has queued it, whatever the queue held before. -/
theorem Makes.queued (makes : Makes client result type kind session first last)
    (old : ∀ type, ∀ request ∈ (client.mRequestQueues type).mQueue,
      request.address < client.allocated) :
    result.queued client = some (type, ⟨client.allocated, kind⟩) := by
  cases type <;> simp [CallResult.queued, RequestType.all, makes.queues, newest_is_old (old _)]

/-- Of its commands only the last waits for the request. -/
theorem Makes.commands (makes : Makes client result type kind session first last)
    {request : Option (RequestType × LocationAPIRequest)}
    (queued : result.queued client = request) :
    result.commands client = first.map (⟨·, none⟩) ++ [⟨last, request⟩] := by
  simp [CallResult.commands, makes.calls, queued]

end Makes

/-- The commands of the geofence adapter are the ones that are answered collectively. -/
theorem collective_iff (call : ApiCall) (onFlp : Bool) :
    .geofence ∈ call.adapters onFlp ↔ call.responseSession = none := by
  cases call with
  | startTracking session => cases onFlp <;> simp [ApiCall.adapters, ApiCall.responseSession]
  | _ => simp [ApiCall.adapters, ApiCall.responseSession]

theorem adapters_of_collective {call : ApiCall} (collective : call.responseSession = none)
    (onFlp : Bool) : call.adapters onFlp = [.geofence] := by
  cases call <;> first | rfl | cases collective

end Queued

end Msm8917Common.Location.RequestQueueProofs
