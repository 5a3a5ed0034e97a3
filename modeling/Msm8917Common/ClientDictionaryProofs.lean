import Msm8917Common.LocationAPIClientBase
import Msm8917Common.Runs

/-! The dictionaries of the client: the two maps of each stay inverse to each other
as long as no id and no session is given a second partner. `set` overwrites the
entry of the id and leaves the entry of the session that it pointed to. -/
namespace Msm8917Common.Location.ClientDictionaryProofs
open Runs BiDict

section Dictionary
variable {α : Type*} {dict : BiDict α} {id session : Nat} {ext : α}

/-- The maps are inverse partial functions, and the sessions are the keys of what is
kept for them. -/
structure Bijective (dict : BiDict α) : Prop where
  inverse : ∀ id session, dict.mForwardMap.lookup id = some session ↔
    dict.mBackwardMap.lookup session = some id
  ext : ∀ session, (dict.mExtMap.lookup session).isSome ↔
    (dict.mBackwardMap.lookup session).isSome

/-- Neither the id nor the session has another partner. -/
def Fits (dict : BiDict α) (id session : Nat) : Prop :=
  (∀ other, dict.mForwardMap.lookup id = some other → other = session) ∧
    ∀ other, dict.mBackwardMap.lookup session = some other → other = id

private theorem lookup_insert_cases {β : Type*} (map : AList fun _ : Nat => β) (key probe : Nat)
    (value : β) : (map.insert key value).lookup probe =
      if probe = key then some value else map.lookup probe := by
  split
  · next same => rw [same, AList.lookup_insert]
  · next apart => exact AList.lookup_insert_ne apart

private theorem lookup_erase_cases {β : Type*} (map : AList fun _ : Nat => β) (key probe : Nat) :
    (map.erase key).lookup probe = if probe = key then none else map.lookup probe := by
  split
  · next same => rw [same, AList.lookup_erase]
  · next apart => exact AList.lookup_erase_ne apart

theorem new_bijective : Bijective (BiDict.new : BiDict α) where
  inverse _ _ := by simp [BiDict.new]
  ext _ := by simp [BiDict.new]

/-- `set` keeps the maps inverse exactly if the pair fits. -/
theorem set_bijective_iff (bijective : Bijective dict) :
    Bijective (dict.set id session ext) ↔ Fits dict id session := by
  constructor
  · intro after
    constructor
    · intro other paired
      by_contra apart
      have back := (bijective.inverse id other).mp paired
      have kept : (dict.set id session ext).mBackwardMap.lookup other = some id := by
        rw [BiDict.set, lookup_insert_cases, if_neg apart, back]
      have forward := (after.inverse id other).mpr kept
      rw [BiDict.set, lookup_insert_cases, if_pos rfl] at forward
      exact apart (Option.some.inj forward).symm
    · intro other paired
      by_contra apart
      have forward := (bijective.inverse other session).mpr paired
      have kept : (dict.set id session ext).mForwardMap.lookup other = some session := by
        rw [BiDict.set, lookup_insert_cases, if_neg apart, forward]
      have back := (after.inverse other session).mp kept
      rw [BiDict.set, lookup_insert_cases, if_pos rfl] at back
      exact apart (Option.some.inj back).symm
  · rintro ⟨own_id, own_session⟩
    constructor
    · intro probe target
      simp only [BiDict.set, lookup_insert_cases]
      by_cases same_id : probe = id <;> by_cases same_session : target = session
      · simp [same_id, same_session]
      · simp only [same_id, if_true, same_session, if_false, Option.some.injEq]
        refine iff_of_false (Ne.symm same_session) fun back => same_session ?_
        exact own_id target ((bijective.inverse id target).mpr back)
      · simp only [same_id, if_false, same_session, if_true, Option.some.injEq]
        refine iff_of_false (fun forward => same_id ?_) (Ne.symm same_id)
        exact own_session probe ((bijective.inverse probe session).mp forward)
      · simp only [same_id, same_session, if_false]
        exact bijective.inverse probe target
    · intro probe
      simp only [BiDict.set, lookup_insert_cases]
      split
      · rfl
      · exact bijective.ext probe

/-- Removing the entries of one pair leaves the maps inverse. -/
private theorem erase_bijective (bijective : Bijective dict)
    (paired : dict.mForwardMap.lookup id = some session) :
    Bijective (⟨dict.mForwardMap.erase id, dict.mBackwardMap.erase session,
      dict.mExtMap.erase session⟩ : BiDict α) := by
  have back := (bijective.inverse id session).mp paired
  constructor
  · intro probe target
    simp only [lookup_erase_cases]
    by_cases same_id : probe = id <;> by_cases same_session : target = session
    · simp [same_id, same_session]
    · simp only [same_id, if_true, same_session, if_false, reduceCtorEq, false_iff]
      intro other
      have forward := (bijective.inverse id target).mpr other
      exact same_session (Option.some.inj (forward.symm.trans paired))
    · simp only [same_id, if_false, same_session, if_true, reduceCtorEq, iff_false]
      intro other
      have backward := (bijective.inverse probe session).mp other
      exact same_id (Option.some.inj (backward.symm.trans back))
    · simp only [same_id, same_session, if_false]
      exact bijective.inverse probe target
  · intro probe
    simp only [lookup_erase_cases]
    split
    · rfl
    · exact bijective.ext probe

theorem rmById_bijective (bijective : Bijective dict) (known : dict.hasId id = true) :
    Bijective (dict.rmById id) := by
  obtain ⟨session, paired⟩ := Option.isSome_iff_exists.mp known
  simp only [rmById, paired, Option.getD_some]
  exact erase_bijective bijective paired

theorem rmBySession_bijective (bijective : Bijective dict)
    (known : dict.hasSession session = true) : Bijective (dict.rmBySession session) := by
  obtain ⟨id, paired⟩ := Option.isSome_iff_exists.mp known
  simp only [rmBySession, paired, Option.getD_some]
  exact erase_bijective bijective ((bijective.inverse id session).mpr paired)

/-- A pair that is there fits. -/
theorem fits_of_paired (bijective : Bijective dict)
    (paired : dict.mForwardMap.lookup id = some session) : Fits dict id session := by
  have back := (bijective.inverse id session).mp paired
  exact ⟨fun other found => Option.some.inj (found.symm.trans paired),
    fun other found => Option.some.inj (found.symm.trans back)⟩

end Dictionary

/-- Both dictionaries of a client are bijective. -/
def DictionariesBijective (client : LocationAPIClientBase) : Prop :=
  Bijective client.mSessionBiDict ∧ Bijective client.mGeofenceBiDict

/-- Each geofence fits the dictionary that the earlier ones of the same call leave. -/
def EachFits (dict : BiDict Nat) : List ((Nat × Nat) × Nat) → Prop
  | [] => True
  | geofence :: rest =>
    Fits dict geofence.1.1 geofence.2 ∧
      EachFits (dict.set geofence.1.1 geofence.2 geofence.1.2) rest

/-- The calls that make new pairs make them of ids and sessions without another
partner: the session of a start and of an update that changes between tracking and
batching, and the ids and sessions of new geofences. -/
def NewPairsFit (client : LocationAPIClientBase) (input : ClientInput) : Prop :=
  client.mLocationAPI = true →
    match input with
    | .startSession id _ session =>
      client.mSessionBiDict.hasId id = false → Fits client.mSessionBiDict id session
    | .updateSessionOptions id sessionMode started =>
      client.mSessionBiDict.hasId id = true →
        ((client.mSessionBiDict.getExtById .zero id).sessionMode = .onFix ↔
          sessionMode ≠ .onFix) → Fits (client.mSessionBiDict.rmById id) id started
    | .addGeofences geofences (some sessions) =>
      EachFits client.mGeofenceBiDict (geofences.zip sessions)
    | _ => True

/-- What is kept for a session names the session, under its mode. -/
def EntitiesNamed (dict : BiDict SessionEntity) : Prop :=
  ∀ session entity, dict.mExtMap.lookup session = some entity →
    (if entity.sessionMode = .onFix then entity.trackingSession else entity.batchingSession) =
      session

section Sessions
variable {client : LocationAPIClientBase} {dict : BiDict SessionEntity} {id session : Nat}

private theorem entities_erase (named : EntitiesNamed dict) (forward : AList fun _ : Nat => Nat)
    (backward : AList fun _ : Nat => Nat) (key : Nat) :
    EntitiesNamed ⟨forward, backward, dict.mExtMap.erase key⟩ := by
  intro probe entity found
  simp only [lookup_erase_cases] at found
  split at found
  · cases found
  · exact named probe entity found

private theorem entities_set (named : EntitiesNamed dict) {entity : SessionEntity}
    (own : (if entity.sessionMode = .onFix then entity.trackingSession
      else entity.batchingSession) = session) : EntitiesNamed (dict.set id session entity) := by
  intro probe other found
  simp only [BiDict.set, lookup_insert_cases] at found
  split at found
  · next same =>
    cases found
    exact own.trans same.symm
  · exact named probe other found

/-- The session of an entity is the one its id points to. A session of zero is never
looked up, and the zeroed entity names it as well. -/
private theorem entity_session (bijective : Bijective dict) (named : EntitiesNamed dict)
    (paired : dict.mForwardMap.lookup id = some session) :
    (if (dict.getExtById .zero id).sessionMode = .onFix
      then (dict.getExtById .zero id).trackingSession
      else (dict.getExtById .zero id).batchingSession) = session := by
  have known : dict.getSession id = session := by simp [getSession, paired]
  unfold getExtById
  rw [known]
  split
  · have kept : (dict.mExtMap.lookup session).isSome := by
      rw [bijective.ext, (bijective.inverse id session).mp paired]
      rfl
    obtain ⟨entity, found⟩ := Option.isSome_iff_exists.mp kept
    simp only [getExtBySession, found, Option.getD_some]
    exact named session entity found
  · next zero =>
    have none_there : session = 0 := by omega
    subst none_there
    rfl

end Sessions

/-- The bijective dictionaries, with named entities. -/
structure Sound (client : LocationAPIClientBase) : Prop where
  sessions : Bijective client.mSessionBiDict
  named : EntitiesNamed client.mSessionBiDict
  geofences : Bijective client.mGeofenceBiDict

section Steps
variable {client : LocationAPIClientBase}

private theorem Sound.same {after : LocationAPIClientBase} (sound : Sound client)
    (sessions : after.mSessionBiDict = client.mSessionBiDict)
    (geofences : after.mGeofenceBiDict = client.mGeofenceBiDict) : Sound after where
  sessions := sessions ▸ sound.sessions
  named := sessions ▸ sound.named
  geofences := geofences ▸ sound.geofences

private theorem Sound.with_sessions {dict : BiDict SessionEntity} (sound : Sound client)
    (bijective : Bijective dict) (named : EntitiesNamed dict) :
    Sound { client with mSessionBiDict := dict } :=
  ⟨bijective, named, sound.geofences⟩

private theorem pop_sound (type : RequestType) (sound : Sound client) :
    Sound (client.pop type).1 := by
  unfold LocationAPIClientBase.pop
  split <;> exact sound.same rfl rfl

private theorem startSession_sound (id : Nat) (sessionMode : SessionMode) (session : Nat)
    (sound : Sound client) (fits : client.mSessionBiDict.hasId id = false →
      Fits client.mSessionBiDict id session) :
    Sound (client.locAPIStartSession id sessionMode session).client := by
  unfold LocationAPIClientBase.locAPIStartSession
  split
  · split
    · exact sound
    · next fresh =>
      have bijective (entity : SessionEntity) :
          Bijective (client.mSessionBiDict.set id session entity) :=
        (set_bijective_iff sound.sessions).mpr (fits (by simpa using fresh))
      split
      · next mode => exact ⟨bijective _, entities_set sound.named (if_pos mode), sound.geofences⟩
      · next mode => exact ⟨bijective _, entities_set sound.named (if_neg mode), sound.geofences⟩
  · exact sound

private theorem stopSession_sound (id : Nat) (sound : Sound client) :
    Sound (client.locAPIStopSession id).client := by
  unfold LocationAPIClientBase.locAPIStopSession
  split
  · split
    · simp only
      split <;> exact sound.same rfl rfl
    · exact sound
  · exact sound

/-- An update removes the pair of its id and makes a new one. -/
private theorem renewed {id session : Nat} (entity : SessionEntity)
    (sound : Sound client) (known : client.mSessionBiDict.hasId id = true)
    (fits : Fits (client.mSessionBiDict.rmById id) id session)
    (own : (if entity.sessionMode = .onFix then entity.trackingSession
      else entity.batchingSession) = session) :
    Bijective ((client.mSessionBiDict.rmById id).set id session entity) ∧
      EntitiesNamed ((client.mSessionBiDict.rmById id).set id session entity) :=
  ⟨(set_bijective_iff (rmById_bijective sound.sessions known)).mpr fits,
    entities_set (entities_erase sound.named _ _ _) own⟩

/-- After the pair of an id is removed, the id fits its old session again. -/
private theorem fits_again {id session : Nat}
    (paired : client.mSessionBiDict.mForwardMap.lookup id = some session) :
    Fits (client.mSessionBiDict.rmById id) id session := by
  constructor
  · intro other found
    simp only [rmById, lookup_erase_cases, if_true, reduceCtorEq] at found
  · intro other found
    simp only [rmById, lookup_erase_cases, paired, Option.getD_some, if_true,
      reduceCtorEq] at found

private theorem updateSession_sound (id : Nat) (sessionMode : SessionMode) (started : Nat)
    (sound : Sound client) (fits : client.mSessionBiDict.hasId id = true →
      ((client.mSessionBiDict.getExtById .zero id).sessionMode = .onFix ↔
        sessionMode ≠ .onFix) → Fits (client.mSessionBiDict.rmById id) id started) :
    Sound (client.locAPIUpdateSessionOptions id sessionMode started).client := by
  unfold LocationAPIClientBase.locAPIUpdateSessionOptions
  split
  · split
    · next known =>
      obtain ⟨session, paired⟩ := Option.isSome_iff_exists.mp known
      have own := entity_session sound.sessions sound.named paired
      simp only
      split
      · next mode =>
        split
        · next same =>
          rw [if_pos same] at own
          obtain ⟨bijective, named⟩ := renewed ⟨_, _, _, sessionMode⟩ sound known
            (own ▸ fits_again paired) (if_pos mode)
          exact ⟨bijective, named, sound.geofences⟩
        · next other =>
          have fit := fits known ⟨fun same => absurd same other, fun apart => absurd mode apart⟩
          obtain ⟨bijective, named⟩ := renewed ⟨_, _, _, sessionMode⟩ sound known fit
            (if_pos mode)
          exact ⟨bijective, named, sound.geofences⟩
      · next mode =>
        split
        · next other =>
          have fit := fits known ⟨fun _ => mode, fun _ => other⟩
          obtain ⟨bijective, named⟩ := renewed ⟨_, _, _, sessionMode⟩ sound known fit
            (if_neg mode)
          exact ⟨bijective, named, sound.geofences⟩
        · next same =>
          rw [if_neg same] at own
          obtain ⟨bijective, named⟩ := renewed ⟨_, _, _, sessionMode⟩ sound known
            (own ▸ fits_again paired) (if_neg mode)
          exact ⟨bijective, named, sound.geofences⟩
    · exact sound
  · exact sound

private theorem getBatched_sound (id : Nat) (sound : Sound client) :
    Sound (client.locAPIGetBatchedLocations id).client := by
  unfold LocationAPIClientBase.locAPIGetBatchedLocations
  split
  · split
    · simp only
      split
      · exact sound.same rfl rfl
      · exact sound
    · exact sound
  · exact sound

private theorem setGeofences_bijective (geofences : List ((Nat × Nat) × Nat)) {dict : BiDict Nat}
    (bijective : Bijective dict) (fits : EachFits dict geofences) :
    Bijective (LocationAPIClientBase.setGeofences dict geofences) := by
  unfold LocationAPIClientBase.setGeofences
  induction geofences generalizing dict with
  | nil => exact bijective
  | cons geofence rest ih => exact ih ((set_bijective_iff bijective).mpr fits.1) fits.2

private theorem addGeofences_sound (geofences : List (Nat × Nat)) (sessions : Option (List Nat))
    (sound : Sound client) (fits : ∀ given, sessions = some given →
      client.mLocationAPI = true → EachFits client.mGeofenceBiDict (geofences.zip given)) :
    Sound (client.locAPIAddGeofences geofences sessions).client := by
  unfold LocationAPIClientBase.locAPIAddGeofences
  split
  · next present =>
    cases sessions with
    | none =>
      simp only
      split <;> exact sound.same rfl rfl
    | some given =>
      have bijective := setGeofences_bijective _ sound.geofences (fits given rfl present)
      simp only
      split <;> exact ⟨sound.sessions, sound.named, bijective⟩
  · exact sound

private theorem paired_of_pos {dict : BiDict Nat} {id : Nat} (known : dict.getSession id > 0) :
    dict.mForwardMap.lookup id = some (dict.getSession id) := by
  unfold getSession at known ⊢
  cases found : dict.mForwardMap.lookup id with
  | none =>
    rw [found] at known
    exact absurd known (Nat.lt_irrefl 0)
  | some session => rfl

private theorem removeGeofence_bijective (ids : List Nat)
    {state : BiDict Nat × BiDict Nat × List Nat} (bijective : Bijective state.1) :
    Bijective (ids.foldl LocationAPIClientBase.removeGeofence state).1 := by
  induction ids generalizing state with
  | nil => exact bijective
  | cons id rest ih =>
    apply ih
    unfold LocationAPIClientBase.removeGeofence
    simp only
    split
    · next known =>
      apply rmBySession_bijective bijective
      rw [hasSession, (bijective.inverse _ _).mp (paired_of_pos known)]
      rfl
    · exact bijective

private theorem remask_bijective (geofences : List (Nat × Nat)) {dict : BiDict Nat}
    (bijective : Bijective dict) :
    Bijective (geofences.foldl LocationAPIClientBase.remaskGeofence dict) := by
  induction geofences generalizing dict with
  | nil => exact bijective
  | cons geofence rest ih =>
    apply ih
    unfold LocationAPIClientBase.remaskGeofence
    simp only
    split
    · next known =>
      exact (set_bijective_iff bijective).mpr (fits_of_paired bijective (paired_of_pos known))
    · exact bijective

/-- The calls about geofences that are there change the dictionary, if at all, where they
have found a session. -/
private theorem known_sound {idle : CallResult} {unknown : Prop} [Decidable unknown]
    {kind : RequestKind} {calls : List ApiCall} {dict : BiDict Nat} (sound : Sound client)
    (nothing : Sound idle.client) (bijective : Bijective dict) :
    Sound (if client.mLocationAPI ∧ (client.mRequestQueues .geofence).mSession =
        LocationAPIClientBase.GEOFENCE_SESSION_ID
      then if unknown then idle
        else ⟨{ client.push .geofence kind with mGeofenceBiDict := dict }, calls, .success⟩
      else ⟨client, [], .success⟩ : CallResult).client := by
  split
  · split
    · exact nothing
    · exact ⟨sound.sessions, sound.named, bijective⟩
  · exact sound

private theorem removeGeofences_sound (ids : List Nat) (sound : Sound client) :
    Sound (client.locAPIRemoveGeofences ids).client := by
  have removed : Bijective (ids.foldl LocationAPIClientBase.removeGeofence
      (client.mGeofenceBiDict, BiDict.new, [])).1 := removeGeofence_bijective ids sound.geofences
  unfold LocationAPIClientBase.locAPIRemoveGeofences
  apply known_sound sound
  · exact ⟨sound.sessions, sound.named, removed⟩
  · exact removed

private theorem modifyGeofences_sound (geofences : List (Nat × Nat)) (sound : Sound client) :
    Sound (client.locAPIModifyGeofences geofences).client := by
  unfold LocationAPIClientBase.locAPIModifyGeofences
  apply known_sound sound
  · exact sound
  · exact remask_bijective geofences sound.geofences

private theorem pauseGeofences_sound (ids : List Nat) (sound : Sound client) :
    Sound (client.locAPIPauseGeofences ids).client := by
  unfold LocationAPIClientBase.locAPIPauseGeofences
  apply known_sound sound
  · exact sound
  · exact sound.geofences

private theorem resumeGeofences_sound (ids : List Nat) (mask : Option (List Nat))
    (sound : Sound client) : Sound (client.locAPIResumeGeofences ids mask).client := by
  unfold LocationAPIClientBase.locAPIResumeGeofences
  apply known_sound sound
  · exact sound
  · cases mask with
    | none => exact sound.geofences
    | some given => exact remask_bijective (ids.zip given) sound.geofences

private theorem removeSession_sound (session : Nat) (sound : Sound client) :
    Sound (client.removeSession session) := by
  unfold LocationAPIClientBase.removeSession
  split
  · next known =>
    exact sound.with_sessions (rmBySession_bijective sound.sessions known)
      (entities_erase sound.named _ _ _)
  · exact sound

private theorem getRequestBySession_sound (session : Nat) (sound : Sound client) :
    Sound (client.getRequestBySession session).1 := by
  rw [LocationAPIClientBase.getRequestBySession_pops]
  cases client.answeringQueue session with
  | none => exact sound
  | some type => exact pop_sound type sound

private theorem onResponse_sound (request : LocationAPIRequest) (error : LocationError)
    (session : Nat) (sound : Sound client) : Sound (client.onResponse request error session) := by
  rcases client.onResponse_removes request error session with same | removed
  · rwa [same]
  · rw [removed]
    exact removeSession_sound session sound

private theorem onResponseCb_sound (error : LocationError) (session : Nat) (sound : Sound client) :
    Sound (client.onResponseCb error session).1 := by
  have popped := getRequestBySession_sound session sound
  unfold LocationAPIClientBase.onResponseCb
  split
  · next found =>
    rw [found] at popped
    exact onResponse_sound _ error session popped
  · next found =>
    rw [found] at popped
    exact popped

private theorem batchingStatus_sound (tripCompletedList : List Nat) (sound : Sound client) :
    Sound (client.beforeBatchingStatusCb tripCompletedList) := by
  unfold LocationAPIClientBase.beforeBatchingStatusCb
  induction tripCompletedList generalizing client with
  | nil => exact sound
  | cons session rest ih =>
    apply ih
    beta_reduce
    split
    · next known =>
      exact sound.with_sessions (rmBySession_bijective sound.sessions known.1)
        (entities_erase sound.named _ _ _)
    · exact sound

theorem step_sound (input : ClientInput) (sound : Sound client)
    (fit : NewPairsFit client input) : Sound (client.step input) := by
  cases input with
  | startTracking session =>
    simp only [LocationAPIClientBase.step, LocationAPIClientBase.locAPIStartTracking]
    split
    · split
      · exact sound
      · exact sound.same rfl rfl
    · exact sound
  | stopTracking =>
    simp only [LocationAPIClientBase.step, LocationAPIClientBase.locAPIStopTracking]
    split
    · exact sound.same rfl rfl
    · exact sound
  | updateTrackingOptions =>
    simp only [LocationAPIClientBase.step, LocationAPIClientBase.locAPIUpdateTrackingOptions]
    split
    · exact sound.same rfl rfl
    · exact sound
  | startSession id sessionMode session =>
    by_cases present : client.mLocationAPI = true
    · exact startSession_sound id sessionMode session sound (fit present)
    · simpa only [LocationAPIClientBase.step, LocationAPIClientBase.locAPIStartSession,
        if_neg present] using sound
  | stopSession id => exact stopSession_sound id sound
  | updateSessionOptions id sessionMode started =>
    by_cases present : client.mLocationAPI = true
    · exact updateSession_sound id sessionMode started sound (fit present)
    · simpa only [LocationAPIClientBase.step, LocationAPIClientBase.locAPIUpdateSessionOptions,
        if_neg present] using sound
  | getBatchedLocations id => exact getBatched_sound id sound
  | addGeofences geofences sessions =>
    apply addGeofences_sound geofences sessions sound
    rintro given rfl present
    exact fit present
  | removeGeofences ids => exact removeGeofences_sound ids sound
  | modifyGeofences geofences => exact modifyGeofences_sound geofences sound
  | pauseGeofences ids => exact pauseGeofences_sound ids sound
  | resumeGeofences ids mask => exact resumeGeofences_sound ids mask sound
  | removeAllGeofences => exact removeGeofences_sound _ sound
  | gnssNiResponse id =>
    simp only [LocationAPIClientBase.step, LocationAPIClientBase.locAPIGnssNiResponse]
    split
    · exact sound.same rfl rfl
    · exact sound
  | response error id => exact onResponseCb_sound error id sound
  | collectiveResponse =>
    simp only [LocationAPIClientBase.step, LocationAPIClientBase.onCollectiveResponseCb]
    split
    · exact pop_sound .geofence sound
    · exact sound
  | batchingStatus tripCompletedList => exact batchingStatus_sound tripCompletedList sound

end Steps

private theorem new_sound (mLocationAPI : Bool) : Sound (.new mLocationAPI) where
  sessions := new_bijective
  named _ _ found := by cases found
  geofences := new_bijective

/-- In every run whose new pairs fit, with every order of responses, both
dictionaries stay bijective. -/
theorem dictionaries_stay_bijective (mLocationAPI : Bool) (inputs : List ClientInput)
    (fit : ∀ taken ∈ steps LocationAPIClientBase.step (.new mLocationAPI) inputs,
      NewPairsFit taken.1 taken.2) :
    ∀ client ∈ states LocationAPIClientBase.step (.new mLocationAPI) inputs,
      DictionariesBijective client := by
  intro client visited
  have sound := invariant_while (fun _ input => step_sound input) inputs
    (new_sound mLocationAPI) fit client visited
  exact ⟨sound.sessions, sound.geofences⟩

/-- A geofence and a session, each with an id of its own. -/
theorem separate_ids_stay_bijective :
    DictionariesBijective
      ([.addGeofences [(7, 1)] (some [1]), .startSession 7 .onFix 2, .removeGeofences [7]].foldl
        LocationAPIClientBase.step (.new true)) := by
  refine dictionaries_stay_bijective true _ ?_ _ (end_mem_states _ _)
  intro taken member
  simp only [steps, List.mem_cons, List.not_mem_nil, or_false] at member
  rcases member with rfl | rfl | rfl
  · exact fun _ => ⟨⟨fun _ found => (by cases found), fun _ found => (by cases found)⟩, trivial⟩
  · exact fun _ _ => ⟨fun _ found => (by cases found), fun _ found => (by cases found)⟩
  · exact fun _ => trivial

/-- A geofence that is added under an id in use leaves the session of the old one
pointing to the id, which points to the new one. -/
theorem reused_geofence_id_breaks_the_dictionary :
    ¬ ∀ client ∈ states LocationAPIClientBase.step (.new true)
      [.addGeofences [(7, 1)] (some [1]), .addGeofences [(7, 1)] (some [2])],
      DictionariesBijective client := by
  intro bijective
  have last := (bijective _ (end_mem_states _ _)).2.inverse 7 1
  revert last
  decide

end Msm8917Common.Location.ClientDictionaryProofs
