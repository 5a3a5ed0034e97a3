import Msm8917Common.GnssPower
import Msm8917Common.Runs

/-! Who knows which GPS lock. Taking and giving back the power vote tells the modem
and the Xtra daemon alike; an update of the configuration without a vote tells the
modem alone, so the two agree after it only if it changed nothing. -/
namespace Msm8917Common.Location.Power.PowerProofs
open Runs ControlConfig

/-- The modem has no lock under a power vote and the configured one without, and
the Xtra observer knows it. -/
structure LocksAgree (adapter : GnssAdapter) : Prop where
  sent : ∃ lock, adapter.modemLock = some lock ∧
    (adapter.mPowerVoteId ≠ 0 → lock = .none) ∧
    (adapter.mPowerVoteId = 0 → lockValue lock = adapter.cache.mGps_conf.GPS_LOCK) ∧
    adapter.mXtraObserver.mGpsLock = (lockValue lock).toInt32

/-- Without a vote an update of the lock leaves it as it is, and the vote is given
back only while the configured lock is one of the four. -/
def KeepsLock (adapter : GnssAdapter) : PowerMsg → Prop
  | .enable _ _ => True
  | .disable sessionId => adapter.enabled = true → adapter.mPowerVoteId = sessionId →
      adapter.cache.mGps_conf.GPS_LOCK ≤ 3
  | .gnssUpdateConfig config _ => adapter.enabled = true → adapter.mPowerVoteId = 0 →
      config.has .gpsLock = true →
      lockValue config.gpsLock = adapter.cache.mGps_conf.GPS_LOCK

theorem lockValue_eq_convertGpsLock (lock : GnssConfigGpsLock) :
    lockValue lock = convertGpsLock lock := by
  cases lock <;> rfl

/-- A configured number survives both conversions exactly if it is an enumerator's. -/
theorem lockValue_gpsLockOf_iff (gpsLock : UInt32) :
    lockValue (gpsLockOf gpsLock) = gpsLock ↔ gpsLock ≤ 3 := by
  unfold gpsLockOf
  constructor
  · intro same
    rw [← same]
    split
    · decide
    · split
      · decide
      · split <;> decide
  · intro small
    have cases : gpsLock = 0 ∨ gpsLock = 1 ∨ gpsLock = 2 ∨ gpsLock = 3 := by
      simp only [UInt32.le_iff_toNat_le, ← UInt32.toNat_inj] at *
      simp only [UInt32.reduceToNat] at *
      omega
    rcases cases with rfl | rfl | rfl | rfl <;> rfl

/-- No item but the first touches the lock. -/
theorem other_item_keeps_lock (config : GnssConfig) (env : ConfigEnv) (cache : ConfigCache)
    {item : ConfigItem} (other : item ≠ .gpsLock) :
    (update config env cache item).cache.mGps_conf.GPS_LOCK = cache.mGps_conf.GPS_LOCK ∧
      (update config env cache item).calls.filterMap GnssAdapter.sentLock = [] := by
  have updated : ∀ (cached new : UInt32) (allowed : Bool) (store : GpsConf → GpsConf)
      (call : ConfigCall), (store cache.mGps_conf).GPS_LOCK = cache.mGps_conf.GPS_LOCK →
      GnssAdapter.sentLock call = none →
      (updateItem cache env cached new allowed store call).cache.mGps_conf.GPS_LOCK =
          cache.mGps_conf.GPS_LOCK ∧
        (updateItem cache env cached new allowed store call).calls.filterMap
          GnssAdapter.sentLock = [] := by
    intro cached new allowed store call stored sent
    unfold updateItem
    split <;> simp [stored, sent]
  cases item with
  | gpsLock => exact absurd rfl other
  | suplVersion => exact updated _ _ _ _ _ rfl rfl
  | lppProfile => exact updated _ _ _ _ _ rfl rfl
  | lppeControlPlane => exact updated _ _ _ _ _ rfl rfl
  | lppeUserPlane => exact updated _ _ _ _ _ rfl rfl
  | aGlonassPositionProtocol => exact updated _ _ _ _ _ rfl rfl
  | emergencyPdnForEmergencySupl => exact ⟨rfl, rfl⟩
  | suplEmergencyServices => exact ⟨rfl, rfl⟩
  | suplMode =>
    simp only [update]
    split <;> simp [GnssAdapter.sentLock]
  | assistanceServer =>
    simp only [update]
    split
    · unfold setSuplHostServer
      split
      · split
        · split <;> exact ⟨rfl, rfl⟩
        · exact ⟨rfl, rfl⟩
      · exact ⟨rfl, rfl⟩
    · split
      · split <;> exact ⟨rfl, rfl⟩
      · exact ⟨rfl, rfl⟩
    · exact ⟨rfl, rfl⟩

theorem other_items_keep_lock (config : GnssConfig) (env : ConfigEnv) (items : List ConfigItem)
    (others : ConfigItem.gpsLock ∉ items) (cache : ConfigCache) :
    (procItems config env items cache).cache.mGps_conf.GPS_LOCK = cache.mGps_conf.GPS_LOCK ∧
      (procItems config env items cache).calls.filterMap GnssAdapter.sentLock = [] := by
  induction items generalizing cache with
  | nil => exact ⟨rfl, rfl⟩
  | cons item items ih =>
    obtain ⟨first, later⟩ := not_or.mp (List.mem_cons.not.mp others)
    simp only [procItems]
    split
    · obtain ⟨lock, calls⟩ := other_item_keeps_lock config env cache (Ne.symm first)
      obtain ⟨laterLock, laterCalls⟩ := ih later (update config env cache item).cache
      simp only [List.filterMap_append, calls, laterCalls, laterLock, lock]
      exact ⟨trivial, rfl⟩
    · exact ih later cache

/-- What an update does to the lock: stored if it is flagged, and sent if there is
no vote either. -/
theorem gnssUpdateConfig_lock (adapter : GnssAdapter) (config : GnssConfig)
    (resolveInAddress : Option (List Char) → Option UInt32) :
    let next := adapter.gnssUpdateConfig config resolveInAddress
    next.mPowerVoteId = adapter.mPowerVoteId ∧ next.mXtraObserver = adapter.mXtraObserver ∧
      next.enabled = adapter.enabled ∧
      (config.has .gpsLock = false → next.modemLock = adapter.modemLock ∧
        next.cache.mGps_conf.GPS_LOCK = adapter.cache.mGps_conf.GPS_LOCK) ∧
      (config.has .gpsLock = true → next.cache.mGps_conf.GPS_LOCK = lockValue config.gpsLock ∧
        next.modemLock = if adapter.mPowerVoteId = 0 then some config.gpsLock
          else adapter.modemLock) := by
  have others := other_items_keep_lock config
    ⟨fun _ => .success, resolveInAddress, adapter.mPowerVoteId⟩
    [.suplVersion, .assistanceServer, .lppProfile, .lppeControlPlane, .lppeUserPlane,
      .aGlonassPositionProtocol, .emergencyPdnForEmergencySupl, .suplEmergencyServices, .suplMode]
    (by decide)
  refine ⟨rfl, rfl, rfl, ?_, ?_⟩
  · intro unflagged
    obtain ⟨lock, calls⟩ := others adapter.cache
    simp only [GnssAdapter.gnssUpdateConfig, proc, procItems.eq_2 _ _ _ .gpsLock, unflagged,
      Bool.false_eq_true, if_false]
    exact ⟨by rw [calls]; rfl, lock⟩
  · intro flagged
    obtain ⟨lock, calls⟩ := others (update config
      ⟨fun _ => .success, resolveInAddress, adapter.mPowerVoteId⟩ adapter.cache .gpsLock).cache
    simp only [GnssAdapter.gnssUpdateConfig, proc, procItems.eq_2 _ _ _ .gpsLock, flagged, if_true,
      List.filterMap_append]
    rw [calls, lock, lockValue_eq_convertGpsLock]
    simp only [update]
    split
    · exact ⟨rfl, rfl⟩
    · exact ⟨rfl, rfl⟩

/-- A vote is only held once an enable has been processed. -/
def VotesAfterEnable (adapter : GnssAdapter) : Prop :=
  adapter.enabled = false → adapter.mPowerVoteId = 0

theorem step_keeps_votes (adapter : GnssAdapter) (msg : PowerMsg)
    (votes : VotesAfterEnable adapter) : VotesAfterEnable (adapter.step msg) := by
  cases msg with
  | enable sessionId techType =>
    simp only [GnssAdapter.step, GnssAdapter.enableGnss]
    split
    · exact votes
    · split <;> rintro ⟨⟩
  | disable sessionId =>
    simp only [GnssAdapter.step, GnssAdapter.disableGnss]
    split
    · exact votes
    · exact fun _ => rfl
  | gnssUpdateConfig config resolveInAddress => exact votes

/-- After the first enable the locks agree. -/
def AgreesOnceEnabled (adapter : GnssAdapter) : Prop := adapter.enabled = true → LocksAgree adapter

theorem enable_agrees (adapter : GnssAdapter) (sessionId : SessionId) (techType : Nat)
    (votes : VotesAfterEnable adapter) (agrees : AgreesOnceEnabled adapter) :
    AgreesOnceEnabled (adapter.step (.enable sessionId techType)) := by
  simp only [GnssAdapter.step, GnssAdapter.enableGnss]
  split
  · exact agrees
  split
  · rename_i held
    -- A vote is held, so there has been an enable before.
    have before : adapter.enabled = true := by
      by_contra never
      rw [votes (by simpa using never)] at held
      exact absurd held (by decide)
    intro _
    obtain ⟨lock, sent, voted, unvoted, known⟩ := (agrees before).sent
    exact ⟨lock, sent, voted, unvoted, known⟩
  · intro _
    exact ⟨.none, rfl, fun _ => rfl, fun unvoted => absurd unvoted sessionId.issued, rfl⟩

theorem disable_agrees_iff (adapter : GnssAdapter) (sessionId : UInt32)
    (agrees : AgreesOnceEnabled adapter) :
    AgreesOnceEnabled (adapter.step (.disable sessionId)) ↔
      KeepsLock adapter (.disable sessionId) := by
  simp only [GnssAdapter.step, GnssAdapter.disableGnss]
  split
  · rename_i other
    exact iff_of_true agrees fun _ same => absurd same other
  · rename_i same
    have own : adapter.mPowerVoteId = sessionId := by simpa using same
    rw [KeepsLock]
    constructor
    · intro agreesNow enabled _
      obtain ⟨lock, sent, -, unvoted, -⟩ := (agreesNow enabled).sent
      rw [← lockValue_gpsLockOf_iff, Option.some.inj sent]
      exact unvoted rfl
    · intro keeps enabled
      have inRange := lockValue_gpsLockOf_iff _ |>.mpr (keeps enabled own)
      exact ⟨_, rfl, fun voted => absurd rfl voted, fun _ => inRange, rfl⟩

theorem lockValue_toInt32_injective {one other : GnssConfigGpsLock}
    (same : (lockValue one).toInt32 = (lockValue other).toInt32) : one = other := by
  revert same
  cases one <;> cases other <;> decide

theorem lockValue_injective {one other : GnssConfigGpsLock}
    (same : lockValue one = lockValue other) : one = other :=
  lockValue_toInt32_injective (congrArg UInt32.toInt32 same)

theorem update_agrees_iff (adapter : GnssAdapter) (config : GnssConfig)
    (resolveInAddress : Option (List Char) → Option UInt32)
    (agrees : AgreesOnceEnabled adapter) :
    AgreesOnceEnabled (adapter.step (.gnssUpdateConfig config resolveInAddress)) ↔
      KeepsLock adapter (.gnssUpdateConfig config resolveInAddress) := by
  obtain ⟨vote, xtra, enabled, unflagged, flagged⟩ :=
    gnssUpdateConfig_lock adapter config resolveInAddress
  simp only [GnssAdapter.step, AgreesOnceEnabled, KeepsLock, enabled]
  cases isEnabled : adapter.enabled with
  | false => simp
  | true =>
    obtain ⟨lock, sent, voted, unvoted, known⟩ := (agrees isEnabled).sent
    cases has : config.has .gpsLock with
    | false =>
      obtain ⟨modemLock, configured⟩ := unflagged has
      refine iff_of_true (fun _ => ⟨lock, ?_⟩) (by simp)
      rw [modemLock, vote, configured, xtra]
      exact ⟨sent, voted, unvoted, known⟩
    | true =>
      obtain ⟨configured, modemLock⟩ := flagged has
      by_cases noVote : adapter.mPowerVoteId = 0
      · simp only [noVote, if_true, forall_const] at modemLock ⊢
        constructor
        · intro agreesNow
          obtain ⟨new, sentNow, -, -, knownNow⟩ := agreesNow.sent
          rw [modemLock] at sentNow
          cases sentNow
          rw [xtra, known] at knownNow
          rw [← unvoted noVote, lockValue_toInt32_injective knownNow]
        · intro same
          have same : config.gpsLock = lock :=
            lockValue_injective (same.trans (unvoted noVote).symm)
          refine ⟨lock, modemLock.trans (congrArg some same), ?_, ?_, ?_⟩
          · intro voted
            rw [vote] at voted
            exact absurd noVote voted
          · intro _
            rw [configured, same]
          · rw [xtra, known]
      · simp only [noVote, if_false, false_implies, implies_true, iff_true, true_implies]
          at modemLock ⊢
        refine ⟨lock, modemLock.trans sent, fun _ => voted noVote, ?_, ?_⟩
        · intro unvotedNow
          rw [vote] at unvotedNow
          exact absurd unvotedNow noVote
        · rw [xtra, known]

theorem step_agrees_iff (adapter : GnssAdapter) (msg : PowerMsg)
    (votes : VotesAfterEnable adapter) (agrees : AgreesOnceEnabled adapter) :
    AgreesOnceEnabled (adapter.step msg) ↔ KeepsLock adapter msg := by
  cases msg with
  | enable sessionId techType =>
    exact iff_of_true (enable_agrees adapter sessionId techType votes agrees) trivial
  | disable sessionId => exact disable_agrees_iff adapter sessionId agrees
  | gnssUpdateConfig config resolveInAddress =>
    exact update_agrees_iff adapter config resolveInAddress agrees

/-- The locks agree throughout a run, from the first enable on, exactly when no
update changes the lock while there is no vote and no vote is given back for a lock
that is none of the four. -/
theorem locks_agree_iff_kept (cache : ConfigCache) (msgs : List PowerMsg) :
    (∀ adapter ∈ states GnssAdapter.step (GnssAdapter.start cache) msgs,
        AgreesOnceEnabled adapter) ↔
      ∀ taken ∈ steps GnssAdapter.step (GnssAdapter.start cache) msgs,
        KeepsLock taken.1 taken.2 :=
  always_iff_each_step step_keeps_votes step_agrees_iff msgs (fun _ => rfl) (by rintro ⟨⟩)

/-- No lock, and nothing else configured. -/
def unlocked : ConfigCache := ⟨⟨0, 0, 0, 0, 0, 0, 0, 0, 0, true⟩, []⟩

/-- An update of the lock to mobile originated. -/
def lockMo : GnssConfig :=
  ⟨1, .mo, .v1_0_0, ⟨.other, none, 0⟩, .rrlpOnLte, 0, 0, 0, false, false, 0⟩

/-- After an enable and a disable an update reaches the modem and not the daemon. -/
theorem update_without_vote_misses_the_daemon :
    ¬ ∀ (cache : ConfigCache) (msgs : List PowerMsg),
      ∀ adapter ∈ states GnssAdapter.step (GnssAdapter.start cache) msgs,
        AgreesOnceEnabled adapter := by
  intro always
  have agrees := always unlocked [.enable ⟨2, by decide⟩ 0, .disable 2,
    .gnssUpdateConfig lockMo fun _ => none] _ (end_mem_states _ _) rfl
  obtain ⟨lock, sent, -, -, known⟩ := agrees.sent
  have isMo : lock = .mo := (Option.some.inj sent).symm
  rw [isMo] at known
  exact absurd known (by decide)

end Msm8917Common.Location.Power.PowerProofs
