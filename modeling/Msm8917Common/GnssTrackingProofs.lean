import Msm8917Common.Runs
import Msm8917Common.GnssTracking

/-! The engine follows the sessions: it tracks exactly while there are some, with
the smallest interval that one of them asks for. Each multiplexer keeps this for
every answer of the engine; only a start for a session that is live already, which
the counter of the ids makes possible when it starts over, may break it. -/
namespace Msm8917Common.Gnss.TrackingProofs
open Runs LocationSessionMap

/-- What the engine should run when these intervals are asked for. -/
def Follows : Option LocPosMode → Set Nat → Prop
  | none, asked => asked = ∅
  | some fix, asked => IsLeast asked fix.min_interval

/-- The engine tracks exactly if there are sessions, and then with the smallest
interval of all of them. -/
def Agrees (adapter : GnssAdapter) : Prop :=
  (adapter.mLocApi.fix.isSome = true ↔ adapter.mTrackingSessions.isEmpty = false) ∧
    ∀ fix ∈ adapter.mLocApi.fix,
      IsLeast (adapter.mTrackingSessions.intervals nothing) fix.min_interval

section Follows
variable {fix : Option LocPosMode} {asked : Set Nat} {interval other : Nat}

theorem agrees_iff (adapter : GnssAdapter) : Agrees adapter ↔
    Follows adapter.mLocApi.fix (adapter.mTrackingSessions.intervals nothing) := by
  unfold Agrees
  cases running : adapter.mLocApi.fix with
  | none =>
    simp only [Follows, Option.isSome_none, Bool.false_eq_true, false_iff, Bool.not_eq_false,
      no_sessions_iff]
    exact ⟨And.left, fun empty => ⟨empty, fun _ held => nomatch held⟩⟩
  | some fix =>
    simp only [Follows, Option.isSome_some, true_iff]
    constructor
    · exact fun agrees => agrees.2 fix rfl
    · intro least
      refine ⟨?_, fun _ same => by cases same; exact least⟩
      by_contra empty
      rw [Bool.not_eq_false, no_sessions_iff] at empty
      rw [empty] at least
      exact least.1

/-- A new smallest interval. -/
private theorem least_of_new (least : IsLeast asked other) (smaller : interval ≤ other) :
    IsLeast (insert interval asked) interval := by
  have both := IsLeast.insert interval least
  rwa [min_eq_left smaller] at both

private theorem least_stays (least : IsLeast asked other) (larger : other ≤ interval) :
    IsLeast (insert interval asked) other := by
  have both := IsLeast.insert interval least
  rwa [min_eq_right larger] at both

/-- A fix that is left as it runs is right if the smallest interval stays the same. -/
private theorem follows_of_kept {after : Set Nat} (follows : Follows fix asked)
    (least : IsLeast asked other) (stays : IsLeast after other) : Follows fix after := by
  cases running : fix with
  | none =>
    rw [running] at follows
    exact absurd follows least.nonempty.ne_empty
  | some mode =>
    rw [running] at follows
    have same := follows.unique least
    rwa [Follows, same]

end Follows

section Calls
variable {adapter : GnssAdapter} {options : LocationOptions}

/-- A call changes the fix if it succeeds, and nothing otherwise. -/
structure Restarts (adapter : GnssAdapter) (fix : Option LocPosMode)
    (result : GnssAdapter × LocationError) : Prop where
  sessions : result.1.mTrackingSessions = adapter.mTrackingSessions
  clients : result.1.mClientData = adapter.mClientData
  succeeds : result.2 = .success → result.1.mLocApi.fix = fix
  fails : result.2 ≠ .success → result.1.mLocApi.fix = adapter.mLocApi.fix

private theorem call_spec (api : LocApi) (fix : Option LocPosMode) :
    ((api.call fix).2 = 0 → (api.call fix).1.fix = fix) ∧
      ((api.call fix).2 ≠ 0 → (api.call fix).1.fix = api.fix) := by
  unfold LocApi.call
  cases api.answers with
  | nil => exact ⟨fun _ => rfl, fun failed => absurd rfl failed⟩
  | cons apiErr rest => exact ⟨fun success => if_pos success, fun failed => if_neg failed⟩

private theorem startTracking_restarts :
    Restarts adapter (some (convertOptions options)) (adapter.startTracking options) := by
  obtain ⟨success, failure⟩ := call_spec adapter.mLocApi (some (convertOptions options))
  refine ⟨rfl, rfl, fun done => success ?_, fun failed => failure ?_⟩
  · by_contra apiErr
    simp [GnssAdapter.startTracking, LocApi.startFix, apiErr] at done
  · intro apiErr
    simp [GnssAdapter.startTracking, LocApi.startFix, apiErr] at failed

private theorem stopTracking_restarts : Restarts adapter none adapter.stopTracking := by
  obtain ⟨success, failure⟩ := call_spec adapter.mLocApi none
  refine ⟨rfl, rfl, fun done => success ?_, fun failed => failure ?_⟩
  · by_contra apiErr
    simp [GnssAdapter.stopTracking, LocApi.stopFix, apiErr] at done
  · intro apiErr
    simp [GnssAdapter.stopTracking, LocApi.stopFix, apiErr] at failed

private theorem nothing_restarts : Restarts adapter adapter.mLocApi.fix (adapter, .success) :=
  ⟨rfl, rfl, fun _ => rfl, fun failed => absurd rfl failed⟩

end Calls

/-- What a multiplexer leaves: nothing but the fix changes, and it follows the
intervals asked for from now on if the call succeeds. -/
structure Multiplexes (adapter : GnssAdapter) (asked : Set Nat)
    (result : GnssAdapter × LocationError) : Prop where
  sessions : result.1.mTrackingSessions = adapter.mTrackingSessions
  clients : result.1.mClientData = adapter.mClientData
  succeeds : result.2 = .success → Follows result.1.mLocApi.fix asked
  fails : result.2 ≠ .success → result.1.mLocApi.fix = adapter.mLocApi.fix

section Multiplex
variable {adapter : GnssAdapter} {key : LocationSessionKey} {old options : LocationOptions}

private theorem Restarts.multiplexes {asked : Set Nat} (restarts : Restarts adapter fix result)
    (follows : Follows fix asked) : Multiplexes adapter asked result :=
  ⟨restarts.sessions, restarts.clients, fun done => (restarts.succeeds done).symm ▸ follows,
    restarts.fails⟩

/-- A session is started beside the ones there are. -/
theorem start_multiplexes (sized : adapter.mTrackingSessions.Sized)
    (follows : Follows adapter.mLocApi.fix (adapter.mTrackingSessions.intervals nothing)) :
    Multiplexes adapter
      (insert options.minInterval (adapter.mTrackingSessions.intervals nothing))
      (adapter.startTrackingMultiplex options) := by
  unfold GnssAdapter.startTrackingMultiplex
  split
  · next empty =>
    apply startTracking_restarts.multiplexes
    rw [no_sessions_iff.mp empty, insert_empty_eq]
    exact isLeast_singleton
  · next filled =>
    have least := (smallest_of_filled sized filled).2
    simp only
    split
    · next smaller =>
      exact startTracking_restarts.multiplexes (least_of_new least (Nat.le_of_lt smaller))
    · next larger =>
      apply nothing_restarts.multiplexes
      exact follows_of_kept follows least (least_stays least (Nat.le_of_not_lt larger))

/-- A session gets new options. -/
theorem update_multiplexes (sized : adapter.mTrackingSessions.Sized)
    (follows : Follows adapter.mLocApi.fix (adapter.mTrackingSessions.intervals nothing))
    (live : adapter.mTrackingSessions[key]? = some old) :
    Multiplexes adapter
      (insert options.minInterval (adapter.mTrackingSessions.intervals (only key)))
      (adapter.updateTrackingMultiplex key.client key.id options) := by
  unfold GnssAdapter.updateTrackingMultiplex
  split
  · next one =>
    apply startTracking_restarts.multiplexes
    rw [no_others_of_size_one live one, insert_empty_eq]
    exact isLeast_singleton
  · next several =>
    simp only [live]
    have least := (smallest_of_several sized live several).2
    rw [intervals_live live] at follows
    split
    · next smaller =>
      exact startTracking_restarts.multiplexes (least_of_new least (Nat.le_of_lt smaller))
    · next larger =>
      split
      · exact startTracking_restarts.multiplexes (least_stays least (Nat.le_of_not_lt larger))
      · next kept =>
        have before := least_stays least (Nat.le_of_not_lt kept)
        apply nothing_restarts.multiplexes
        exact follows_of_kept follows before (least_stays least (Nat.le_of_not_lt larger))

/-- A session is stopped. -/
theorem stop_multiplexes (sized : adapter.mTrackingSessions.Sized)
    (follows : Follows adapter.mLocApi.fix (adapter.mTrackingSessions.intervals nothing))
    (live : adapter.mTrackingSessions[key]? = some old) :
    Multiplexes adapter (adapter.mTrackingSessions.intervals (only key))
      (adapter.stopTrackingMultiplex key.client key.id) := by
  unfold GnssAdapter.stopTrackingMultiplex
  split
  · next one =>
    exact stopTracking_restarts.multiplexes (no_others_of_size_one live one)
  · next several =>
    simp only [live]
    have least := (smallest_of_several sized live several).2
    rw [intervals_live live] at follows
    split
    · exact startTracking_restarts.multiplexes least
    · next kept =>
      have before := least_stays least (Nat.le_of_not_lt kept)
      apply nothing_restarts.multiplexes
      exact follows_of_kept follows before least

end Multiplex

/-- What holds of the adapter between messages, apart from what the engine
does. -/
structure Holds (adapter : GnssAdapter) : Prop where
  sized : adapter.mTrackingSessions.Sized
  follows : Follows adapter.mLocApi.fix (adapter.mTrackingSessions.intervals nothing)

section Messages
variable {adapter : GnssAdapter} {key : LocationSessionKey} {old options : LocationOptions}

theorem erase_sized (sized : adapter.mTrackingSessions.Sized) (key : LocationSessionKey) :
    (adapter.eraseTrackingSession key.client key.id).mTrackingSessions.Sized := by
  intro other held live
  rw [GnssAdapter.eraseTrackingSession, getElem?_erase] at live
  split at live
  · cases live
  · exact sized other held live

theorem save_sized (sized : adapter.mTrackingSessions.Sized) (full : options.size ≠ 0)
    (client sessionId : Nat) :
    (adapter.saveTrackingSession client sessionId options).mTrackingSessions.Sized := by
  intro other held live
  rw [GnssAdapter.saveTrackingSession, getElem?_insert] at live
  split at live
  · cases live
    exact full
  · exact sized other held live

private theorem start_keeps_sessions (adapter : GnssAdapter) (options : LocationOptions) :
    (adapter.startTrackingMultiplex options).1.mTrackingSessions = adapter.mTrackingSessions := by
  unfold GnssAdapter.startTrackingMultiplex
  split
  · rfl
  · simp only
    split <;> rfl

private theorem update_keeps_sessions (adapter : GnssAdapter) (client id : Nat)
    (options : LocationOptions) :
    (adapter.updateTrackingMultiplex client id options).1.mTrackingSessions =
      adapter.mTrackingSessions := by
  unfold GnssAdapter.updateTrackingMultiplex
  split
  · rfl
  · split
    · rfl
    · simp only
      split
      · rfl
      · split <;> rfl

theorem stop_keeps_sessions (adapter : GnssAdapter) (client id : Nat) :
    (adapter.stopTrackingMultiplex client id).1.mTrackingSessions =
      adapter.mTrackingSessions := by
  unfold GnssAdapter.stopTrackingMultiplex
  split
  · rfl
  · split
    · rfl
    · simp only
      split <;> rfl

/-- One session is stopped, or stays if the engine refuses. -/
private theorem stop_holds (holds : Holds adapter)
    (live : adapter.mTrackingSessions[key]? = some old) :
    let result := adapter.stopTrackingMultiplex key.client key.id
    Holds (if result.2 = .success then result.1.eraseTrackingSession key.client key.id
      else result.1) := by
  intro result
  have stops : Multiplexes adapter _ result := stop_multiplexes holds.sized holds.follows live
  have sized : result.1.mTrackingSessions.Sized := by
    rw [stops.sessions]
    exact holds.sized
  split
  · next done =>
    refine ⟨erase_sized sized key, ?_⟩
    have follows := stops.succeeds done
    rw [← intervals_erase, ← stops.sessions] at follows
    exact follows
  · next refused =>
    refine ⟨sized, ?_⟩
    rw [stops.fails refused, stops.sessions]
    exact holds.follows

/-- The loop over the sessions of a client that leaves. Every session that it
has still to visit is live: it erases none but the one it visits. -/
private theorem stopSessions_holds (client : Nat)
    (rest : List (LocationSessionKey × LocationOptions)) (holds : Holds adapter)
    (live : ∀ session ∈ rest, adapter.mTrackingSessions[session.1]? = some session.2)
    (distinct : rest.Pairwise fun one other => one.1 ≠ other.1) :
    Holds (GnssAdapter.stopSessions client adapter rest) := by
  induction rest generalizing adapter with
  | nil => exact holds
  | cons session rest ih =>
    obtain ⟨key, options⟩ := session
    obtain ⟨liveHere, liveRest⟩ := List.forall_mem_cons.mp live
    obtain ⟨other, distinctRest⟩ := List.pairwise_cons.mp distinct
    have stopped := stop_holds holds liveHere
    simp only at stopped
    have sessions := stop_keeps_sessions adapter key.client key.id
    simp only [GnssAdapter.stopSessions]
    split
    · split
      · next done =>
        rw [if_pos done] at stopped
        refine ih stopped (fun session member => ?_) distinctRest
        rw [GnssAdapter.eraseTrackingSession, getElem?_erase, if_neg, sessions]
        · exact liveRest session member
        · exact Ne.symm (other session member)
      · next refused =>
        rw [if_neg refused] at stopped
        refine ih stopped (fun session member => ?_) distinctRest
        rw [sessions]
        exact liveRest session member
    · exact ih holds liveRest distinctRest

private theorem stopSessions_sized (client : Nat)
    (rest : List (LocationSessionKey × LocationOptions)) (sized : adapter.mTrackingSessions.Sized) :
    (GnssAdapter.stopSessions client adapter rest).mTrackingSessions.Sized := by
  induction rest generalizing adapter with
  | nil => exact sized
  | cons session rest ih =>
    obtain ⟨key, options⟩ := session
    have kept : (adapter.stopTrackingMultiplex key.client key.id).1.mTrackingSessions.Sized := by
      rw [stop_keeps_sessions adapter key.client key.id]
      exact sized
    simp only [GnssAdapter.stopSessions]
    split
    · split
      · exact ih (erase_sized kept key)
      · exact ih kept
    · exact ih sized

private theorem stopClientSessions_holds (client : Nat) (holds : Holds adapter) :
    Holds (adapter.stopClientSessions client) := by
  apply stopSessions_holds client _ holds
  · exact fun session member => Std.TreeMap.mem_toList_iff_getElem?_eq_some.mp member
  · refine Std.TreeMap.distinct_keys_toList.imp fun different => ?_
    simpa only [Std.LawfulEqCmp.compare_eq_iff_eq] using different

private theorem update_holds (holds : Holds adapter) (full : options.size ≠ 0)
    (live : adapter.mTrackingSessions[key]? = some old) :
    let result := adapter.updateTrackingMultiplex key.client key.id options
    Holds (if result.2 = .success then result.1.saveTrackingSession key.client key.id options
      else result.1) := by
  intro result
  have updates : Multiplexes adapter _ result :=
    update_multiplexes holds.sized holds.follows live
  have sized : result.1.mTrackingSessions.Sized := by
    rw [updates.sessions]
    exact holds.sized
  split
  · next done =>
    refine ⟨save_sized sized full key.client key.id, ?_⟩
    have follows := updates.succeeds done
    rw [← intervals_insert, ← updates.sessions] at follows
    exact follows
  · next refused =>
    refine ⟨sized, ?_⟩
    rw [updates.fails refused, updates.sessions]
    exact holds.follows

theorem live_of_isTrackingSession {client id : Nat}
    (tracking : adapter.isTrackingSession client id = true) :
    ∃ old, adapter.mTrackingSessions[(⟨client, id⟩ : LocationSessionKey)]? = some old := by
  rw [GnssAdapter.isTrackingSession, Std.TreeMap.contains_eq_isSome_getElem?] at tracking
  exact Option.isSome_iff_exists.mp tracking

/-- A message that starts nothing leaves the engine with what the sessions ask
for. -/
private theorem other_msg_holds (holds : Holds adapter) (msg : AdapterMsg)
    (other : ∀ client sessionId options, msg ≠ .startTracking client sessionId options)
    (running : msg ≠ .restartSessions) : Holds (msg.proc adapter).1 := by
  cases msg with
  | addClient => exact ⟨holds.sized, holds.follows⟩
  | removeClient client =>
    have stopped := stopClientSessions_holds client holds
    exact ⟨stopped.sized, stopped.follows⟩
  | startTracking client sessionId options => exact absurd rfl (other client sessionId options)
  | updateTracking client sessionId options =>
    simp only [AdapterMsg.proc]
    split
    · next tracking =>
      obtain ⟨old, live⟩ := live_of_isTrackingSession tracking
      split
      · exact holds
      · next full => exact update_holds holds full live
    · exact holds
  | stopTracking client sessionId =>
    simp only [AdapterMsg.proc]
    split
    · next tracking =>
      obtain ⟨old, live⟩ := live_of_isTrackingSession tracking
      exact stop_holds holds live
    · exact holds
  | restartSessions => exact absurd rfl running

/-- No message lets a session without a size in. -/
private theorem proc_sized (sized : adapter.mTrackingSessions.Sized) (msg : AdapterMsg) :
    (msg.proc adapter).1.mTrackingSessions.Sized := by
  cases msg with
  | addClient => exact sized
  | removeClient client => exact stopSessions_sized client _ sized
  | startTracking client sessionId options =>
    have kept : (adapter.startTrackingMultiplex options).1.mTrackingSessions.Sized := by
      rw [start_keeps_sessions adapter options]
      exact sized
    simp only [AdapterMsg.proc]
    split
    · exact sized
    · split
      · exact sized
      · next full =>
        split
        · exact save_sized kept full client sessionId
        · exact kept
  | updateTracking client sessionId options =>
    have kept :
        (adapter.updateTrackingMultiplex client sessionId options).1.mTrackingSessions.Sized := by
      rw [update_keeps_sessions adapter client sessionId options]
      exact sized
    simp only [AdapterMsg.proc]
    split
    · split
      · exact sized
      · next full =>
        split
        · exact save_sized kept full client sessionId
        · exact kept
    · exact sized
  | stopTracking client sessionId =>
    have kept : (adapter.stopTrackingMultiplex client sessionId).1.mTrackingSessions.Sized := by
      rw [stop_keeps_sessions adapter client sessionId]
      exact sized
    simp only [AdapterMsg.proc]
    split
    · split
      · exact erase_sized kept ⟨client, sessionId⟩
      · exact kept
    · exact sized
  | restartSessions =>
    simp only [AdapterMsg.proc, GnssAdapter.restartSessions]
    split <;> exact sized

/-- After the restart of an engine that takes the new fix, it follows the
sessions again. -/
private theorem restart_holds (sized : adapter.mTrackingSessions.Sized)
    (idle : adapter.mLocApi.fix = none)
    (accepts : adapter.mTrackingSessions.isEmpty = false →
      ∀ apiErr ∈ adapter.mLocApi.answers.head?, apiErr = 0) :
    Holds adapter.restartSessions := by
  unfold GnssAdapter.restartSessions
  split
  · next empty =>
    refine ⟨sized, ?_⟩
    rw [idle]
    exact no_sessions_iff.mp empty
  · next filled =>
    refine ⟨sized, ?_⟩
    have least := (smallest_of_filled sized filled).2
    have success : (adapter.mLocApi.startFix (convertOptions
        (adapter.mTrackingSessions.smallestIntervalOptions nothing))).2 = 0 := by
      have accepted := accepts (by simpa using filled)
      unfold LocApi.startFix LocApi.call
      cases answers : adapter.mLocApi.answers with
      | nil => rfl
      | cons apiErr later => exact accepted apiErr (by rw [answers]; rfl)
    simp only
    rw [LocApi.startFix, (call_spec adapter.mLocApi _).1 success]
    exact least

/-- The session of the key is not live; or the options ask for no larger
interval than its own; or another session asks for no larger one either. -/
def KeepsSmallest (adapter : GnssAdapter) (key : LocationSessionKey) (options : LocationOptions) :
    Prop :=
  ∀ old : LocationOptions, adapter.mTrackingSessions[key]? = some old →
    options.minInterval ≤ old.minInterval ∨
      ∃ interval ∈ adapter.mTrackingSessions.intervals (only key), interval ≤ old.minInterval

/-- An interval that is not alone the smallest can be left out. -/
private theorem follows_without {fix : Option LocPosMode} {asked : Set Nat} {interval left : Nat}
    (follows : Follows fix (insert interval (insert left asked)))
    (kept : interval ≤ left ∨ ∃ other ∈ asked, other ≤ left) :
    Follows fix (insert interval asked) := by
  cases fix with
  | none => exact absurd follows (Set.insert_nonempty _ _).ne_empty
  | some fix =>
    obtain ⟨member, least⟩ := follows
    have within : insert interval asked ⊆ insert interval (insert left asked) :=
      Set.insert_subset_insert (Set.subset_insert left asked)
    refine ⟨?_, fun other asks => least (within asks)⟩
    rcases member with same | same | held
    · exact .inl same
    · rcases kept with smaller | ⟨other, held, smaller⟩
      · have lower := least (Set.mem_insert interval _)
        exact .inl (by omega)
      · have lower := least (within (.inr held))
        have equal : other = fix.min_interval := by omega
        exact .inr (equal ▸ held)
    · exact .inr held

theorem started (admitted : adapter.admits client options = true) (sessionId : Nat) :
    let result := adapter.startTrackingMultiplex options
    ((AdapterMsg.startTracking client sessionId options).proc adapter).1 =
      if result.2 = .success then result.1.saveTrackingSession client sessionId options
      else result.1 := by
  simp only [GnssAdapter.admits, Bool.and_eq_true, Bool.or_eq_true, bne_iff_ne, ne_eq] at admitted
  obtain ⟨callback, full⟩ := admitted
  have registered : (!adapter.hasTrackingCallback client &&
      !adapter.hasMeasurementsCallback client) = false := by
    rcases callback with tracking | measurements
    · simp [tracking]
    · simp [measurements]
  simp only [AdapterMsg.proc, registered, Bool.false_eq_true, if_false, full]

theorem unadmitted (refused : adapter.admits client options = false) (sessionId : Nat) :
    ((AdapterMsg.startTracking client sessionId options).proc adapter).1 = adapter := by
  simp only [AdapterMsg.proc]
  split
  · rfl
  · next callback =>
    split
    · rfl
    · next full =>
      rw [Bool.and_eq_true, Bool.not_eq_true', Bool.not_eq_true', not_and_or] at callback
      rw [GnssAdapter.admits, Bool.and_eq_false_iff, Bool.or_eq_false_iff] at refused
      rcases refused with ⟨tracking, measurements⟩ | empty
      · rcases callback with callback | callback
        · exact absurd tracking callback
        · exact absurd measurements callback
      · exact absurd (by simpa using empty) full

/-- A start that succeeds and leaves the other intervals as they were asked for. -/
private theorem start_keeps (holds : Holds adapter) (full : options.size ≠ 0)
    (client sessionId : Nat)
    (narrows : ∀ fix, Follows fix (insert options.minInterval
        (adapter.mTrackingSessions.intervals nothing)) →
      Follows fix (insert options.minInterval
        (adapter.mTrackingSessions.intervals (only ⟨client, sessionId⟩)))) :
    Holds (if (adapter.startTrackingMultiplex options).2 = .success then
      (adapter.startTrackingMultiplex options).1.saveTrackingSession client sessionId options
      else (adapter.startTrackingMultiplex options).1) := by
  have starts : Multiplexes adapter (insert options.minInterval _)
      (adapter.startTrackingMultiplex options) := start_multiplexes holds.sized holds.follows
  have sized : (adapter.startTrackingMultiplex options).1.mTrackingSessions.Sized := by
    rw [starts.sessions]
    exact holds.sized
  split
  · next done =>
    refine ⟨save_sized sized full client sessionId, ?_⟩
    have follows := narrows _ (starts.succeeds done)
    rw [← intervals_insert, ← starts.sessions] at follows
    exact follows
  · next refused =>
    refine ⟨sized, ?_⟩
    rw [starts.fails refused, starts.sessions]
    exact holds.follows

/-- A live session that is alone in asking for so short an interval. -/
private theorem least_of_alone (live : adapter.mTrackingSessions[key]? = some old)
    (others : ∀ interval ∈ adapter.mTrackingSessions.intervals (only key),
      ¬ interval ≤ old.minInterval) :
    IsLeast (adapter.mTrackingSessions.intervals nothing) old.minInterval := by
  rw [intervals_live live]
  refine ⟨Set.mem_insert _ _, ?_⟩
  rintro interval (rfl | held)
  · exact Nat.le_refl _
  · exact Nat.le_of_not_le (others interval held)

private theorem filled_of_least {interval : Nat}
    (least : IsLeast (adapter.mTrackingSessions.intervals nothing) interval) :
    ¬ adapter.mTrackingSessions.isEmpty = true := by
  rw [no_sessions_iff]
  exact (Set.nonempty_of_mem least.1).ne_empty

/-- A start with a larger interval than the smallest one leaves the engine alone. -/
private theorem start_larger (holds : Holds adapter) {interval : Nat}
    (least : IsLeast (adapter.mTrackingSessions.intervals nothing) interval)
    (larger : ¬ options.minInterval ≤ interval) :
    adapter.startTrackingMultiplex options = (adapter, .success) := by
  have filled := filled_of_least least
  have same := (smallest_of_filled holds.sized filled).2.unique least
  unfold GnssAdapter.startTrackingMultiplex
  rw [if_neg filled]
  simp only
  rw [if_neg (by omega)]

/-- So where the session of the start was the one with the smallest interval, the
engine goes on with an interval that nobody asks for any more. -/
private theorem start_loses (holds : Holds adapter) {client sessionId : Nat}
    (live : adapter.mTrackingSessions[(⟨client, sessionId⟩ : LocationSessionKey)]? = some old)
    (larger : ¬ options.minInterval ≤ old.minInterval)
    (others : ∀ interval ∈ adapter.mTrackingSessions.intervals (only ⟨client, sessionId⟩),
      ¬ interval ≤ old.minInterval) :
    ¬ Holds (adapter.saveTrackingSession client sessionId options) := by
  intro after
  have alone := least_of_alone live others
  have follows := after.follows
  have before := holds.follows
  rw [GnssAdapter.saveTrackingSession, intervals_insert] at follows
  cases running : adapter.mLocApi.fix with
  | none =>
    rw [running] at before
    exact filled_of_least alone (no_sessions_iff.mpr before)
  | some fix =>
    rw [running] at before follows
    have same : fix.min_interval = old.minInterval := before.unique alone
    rcases follows.1 with asks | held
    · omega
    · rw [same] at held
      exact others _ held (Nat.le_refl _)

/-- A start under the key of a live session keeps the engine in step with the
sessions exactly if it does not take their smallest interval away. -/
private theorem start_holds_iff (holds : Holds adapter) (client sessionId : Nat)
    (admitted : adapter.admits client options = true) :
    Holds ((AdapterMsg.startTracking client sessionId options).proc adapter).1 ↔
      KeepsSmallest adapter ⟨client, sessionId⟩ options := by
  have full : options.size ≠ 0 := by
    rw [GnssAdapter.admits, Bool.and_eq_true, bne_iff_ne] at admitted
    exact admitted.2
  rw [started admitted sessionId]
  have kept := start_keeps holds full client sessionId
  cases live : adapter.mTrackingSessions[(⟨client, sessionId⟩ : LocationSessionKey)]? with
  | none =>
    refine iff_of_true (kept ?_) fun old found => absurd (live.symm.trans found) (by simp)
    rw [intervals_absent live]
    exact fun _ follows => follows
  | some old =>
    by_cases smallest : options.minInterval ≤ old.minInterval ∨
        ∃ interval ∈ adapter.mTrackingSessions.intervals (only ⟨client, sessionId⟩),
          interval ≤ old.minInterval
    · refine iff_of_true (kept ?_) fun other found => ?_
      · rw [intervals_live live]
        exact fun _ follows => follows_without follows smallest
      · cases live.symm.trans found
        exact smallest
    · refine iff_of_false (fun after => ?_) fun keeps => smallest (keeps old live)
      rw [not_or, not_exists] at smallest
      obtain ⟨larger, others⟩ := smallest
      have others : ∀ interval ∈ adapter.mTrackingSessions.intervals (only ⟨client, sessionId⟩),
          ¬ interval ≤ old.minInterval :=
        fun interval held smaller => others interval ⟨held, smaller⟩
      rw [start_larger holds (least_of_alone live others) larger, if_pos rfl] at after
      exact start_loses holds live larger others after

end Messages

/-- What is assumed of a restarted engine: it accepts the fix that
`restartSessions` asks for. -/
def RestartAccepted (world : TrackingWorld) (input : TrackingInput) : Prop :=
  ∀ answers, input = .proc answers → world.queue.head? = some .restartSessions →
    world.adapter.mTrackingSessions.isEmpty = false → ∀ apiErr ∈ answers.head?, apiErr = 0

/-- A session that is started under the key of a live one does not take the
smallest interval away. -/
def StartKeepsSmallest (world : TrackingWorld) (input : TrackingInput) : Prop :=
  ∀ answers client sessionId options, input = .proc answers →
    world.queue.head? = some (.startTracking client sessionId options) →
      world.adapter.admits client options = true →
        KeepsSmallest world.adapter ⟨client, sessionId⟩ options

section Runs
variable {world : TrackingWorld} {input : TrackingInput}

theorem step_sized (sized : world.adapter.mTrackingSessions.Sized) :
    (world.step input).adapter.mTrackingSessions.Sized := by
  rcases world.step_cases input with ⟨answers, msg, -, -, processed⟩ | ⟨-, same⟩
  · have received : (world.received answers msg).mTrackingSessions.Sized := sized
    rw [processed]
    exact proc_sized received msg
  · rw [same]
    exact sized

private theorem received_holds (sized : world.adapter.mTrackingSessions.Sized)
    (agrees : Agrees world.adapter) (answers : List Int) {msg : AdapterMsg}
    (other : msg ≠ .restartSessions) : Holds (world.received answers msg) := by
  refine ⟨sized, ?_⟩
  simp only [TrackingWorld.received, other, if_false]
  exact (agrees_iff world.adapter).mp agrees

private theorem step_agrees_iff (sized : world.adapter.mTrackingSessions.Sized)
    (agrees : Agrees world.adapter) (accepted : RestartAccepted world input) :
    Agrees (world.step input).adapter ↔ StartKeepsSmallest world input := by
  rcases world.step_cases input with ⟨answers, msg, rfl, first, processed⟩ | ⟨idle, same⟩
  · have harmless : (∀ client sessionId options, msg ≠ .startTracking client sessionId options) →
        StartKeepsSmallest world (.proc answers) := by
      intro other _ client sessionId options _ head
      exact absurd (Option.some.inj (first.symm.trans head)) (other client sessionId options)
    have received : (world.received answers msg).mTrackingSessions.Sized := sized
    have followed : Agrees (msg.proc (world.received answers msg)).1 ↔
        Holds (msg.proc (world.received answers msg)).1 :=
      (agrees_iff _).trans ⟨fun follows => ⟨proc_sized received msg, follows⟩, Holds.follows⟩
    rw [processed, followed]
    cases msg with
    | restartSessions =>
      have idle : (world.received answers .restartSessions).mLocApi.fix = none := by
        simp [TrackingWorld.received]
      exact iff_of_true (restart_holds received idle (accepted answers rfl first))
        (harmless (by simp))
    | startTracking client sessionId options =>
      have holds := received_holds sized agrees answers
        (show AdapterMsg.startTracking client sessionId options ≠ .restartSessions by simp)
      cases admitted : (world.received answers
          (.startTracking client sessionId options)).admits client options with
      | false =>
        rw [unadmitted admitted sessionId]
        refine iff_of_true holds fun _ _ _ _ _ head admits => ?_
        cases first.symm.trans head
        exact absurd (admitted.symm.trans admits) (by decide)
      | true =>
        rw [start_holds_iff holds client sessionId admitted]
        constructor
        · intro keeps _ _ _ _ _ head _
          cases first.symm.trans head
          exact keeps
        · exact fun keeps => keeps answers client sessionId options rfl first admitted
    | _ =>
      refine iff_of_true (other_msg_holds (received_holds sized agrees answers ?_) _ ?_ ?_)
        (harmless ?_) <;> simp
  · rw [same]
    exact iff_of_true agrees fun answers _ _ _ processes head =>
      absurd head (idle answers _ processes)

end Runs

/-- Over any run of commands and messages, with any answers of the engine, the
engine tracks exactly while there are sessions, with the smallest interval of
them, exactly if no session that is started under the key of a live one takes the
smallest interval away. -/
theorem engine_agrees_iff_starts_keep_smallest (inputs : List TrackingInput)
    (accepted : ∀ taken ∈ steps TrackingWorld.step .start inputs, RestartAccepted taken.1 taken.2) :
    (∀ world ∈ states TrackingWorld.step .start inputs, Agrees world.adapter) ↔
      ∀ taken ∈ steps TrackingWorld.step .start inputs, StartKeepsSmallest taken.1 taken.2 := by
  have keeps : ∀ (world : TrackingWorld) (input : TrackingInput),
      world.adapter.mTrackingSessions.Sized → RestartAccepted world input →
        (world.step input).adapter.mTrackingSessions.Sized :=
    fun _ _ sized _ => step_sized sized
  have decided : ∀ (world : TrackingWorld) (input : TrackingInput),
      world.adapter.mTrackingSessions.Sized → Agrees world.adapter → RestartAccepted world input →
        (Agrees (world.step input).adapter ↔ StartKeepsSmallest world input) :=
    fun _ _ => step_agrees_iff
  have sized : TrackingWorld.start.adapter.mTrackingSessions.Sized :=
    fun _ _ live => absurd live (by simp [TrackingWorld.start])
  have agrees : Agrees TrackingWorld.start.adapter := by
    rw [agrees_iff]
    exact no_sessions_iff.mp rfl
  exact always_iff_each_step_under keeps decided inputs sized agrees accepted

theorem accepted_of_silent {inputs : List TrackingInput} (start : TrackingWorld)
    (silent : ∀ answers, .proc answers ∈ inputs → answers = []) :
    ∀ taken ∈ steps TrackingWorld.step start inputs, RestartAccepted taken.1 taken.2 := by
  intro taken member answers processes _ _ apiErr answered
  have given := input_of_mem_steps member
  rw [processes] at given
  rw [silent answers given] at answered
  cases answered

/-- A client tracks, and the engine restarts and takes its fix again. -/
theorem engine_agrees_after_a_restart :
    let inputs := [TrackingInput.addClientCommand 1 ⟨true, false, true⟩, .proc [],
      .startTrackingCommand 1 ⟨24, 1000, 0, .standalone⟩, .proc [], .handleEngineUpEvent, .proc []]
    (∀ world ∈ states TrackingWorld.step .start inputs, Agrees world.adapter) ↔
      ∀ taken ∈ steps TrackingWorld.step .start inputs, StartKeepsSmallest taken.1 taken.2 :=
  engine_agrees_iff_starts_keep_smallest _ (accepted_of_silent _ (by simp))

section Wrap
variable (world : TrackingWorld)

private theorem drawn (count : Nat) :
    (List.replicate count .otherCommand).foldl TrackingWorld.step world =
      { world with mSessionIdCounter := generateSessionId^[count] world.mSessionIdCounter } := by
  induction count generalizing world with
  | zero => rfl
  | succ count ih =>
    rw [List.replicate_succ, List.foldl_cons, ih, Function.iterate_succ_apply]
    rfl

private theorem ids_in_order (count first : Nat) (below : first + count < 0xFFFFFFFF) :
    generateSessionId^[count] first = first + count := by
  induction count with
  | zero => rfl
  | succ count ih =>
    rw [Function.iterate_succ_apply', ih (by omega)]
    unfold generateSessionId
    rw [Nat.mod_eq_of_lt (by omega)]
    simp only
    rw [if_neg (by omega)]
    omega

/-- After all ids were drawn the counter starts over. -/
private theorem ids_start_over : generateSessionId^[2 ^ 32 - 3] 2 = 1 := by
  have last : generateSessionId^[2 ^ 32 - 4] 2 = 0xFFFFFFFE := ids_in_order _ _ (by omega)
  have one_more : 2 ^ 32 - 3 = (2 ^ 32 - 4) + 1 := rfl
  rw [one_more, Function.iterate_succ_apply', last]
  rfl

end Wrap

/-- A client tracks every second while all other ids are drawn. Its next session
gets the id of the first one and replaces it; the engine is not asked to slow
down. -/
theorem reused_id_leaves_the_engine_behind :
    let options (minInterval : Nat) : LocationOptions := ⟨24, minInterval, 0, .standalone⟩
    let inputs := [TrackingInput.addClientCommand 1 ⟨true, false, true⟩, .proc [],
        .startTrackingCommand 1 (options 1000), .proc []] ++
      List.replicate (2 ^ 32 - 3) .otherCommand ++
        [.startTrackingCommand 1 (options 5000), .proc []]
    (∀ taken ∈ steps TrackingWorld.step .start inputs, RestartAccepted taken.1 taken.2) ∧
      ∃ world ∈ states TrackingWorld.step .start inputs, ¬ Agrees world.adapter := by
  intro options inputs
  refine ⟨accepted_of_silent _ fun answers given => ?_, _, end_mem_states _ _, ?_⟩
  · rcases List.mem_append.mp given with early | late
    · rcases List.mem_append.mp early with first | drawn
      · simpa using first
      · cases List.eq_of_mem_replicate drawn
    · simpa using late
  · rw [List.foldl_append, List.foldl_append, drawn]
    have before : ([TrackingInput.addClientCommand 1 ⟨true, false, true⟩, .proc [],
        .startTrackingCommand 1 (options 1000), .proc []].foldl TrackingWorld.step .start) =
        ⟨⟨(∅ : Std.TreeMap Nat LocationCallbacks).insert 1 ⟨true, false, true⟩,
          (∅ : LocationSessionMap).insert ⟨1, 2⟩ (options 1000),
          ⟨some (convertOptions (options 1000)), []⟩⟩, 2, []⟩ := rfl
    rw [before, ids_start_over]
    intro agrees
    have least : IsLeast (intervals (((∅ : LocationSessionMap).insert ⟨1, 2⟩ (options 1000)).insert
        ⟨1, 2⟩ (options 5000)) nothing) 1000 := agrees.2 _ rfl
    obtain ⟨key, held, _, live, asks⟩ := least.1
    rw [getElem?_insert] at live
    split at live
    · cases live
      exact absurd asks (by decide)
    · next other =>
      rw [getElem?_insert, if_neg other] at live
      exact absurd live (by simp)

end Msm8917Common.Gnss.TrackingProofs
