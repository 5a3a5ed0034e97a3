import Msm8917Common.GnssConfig
import Msm8917Common.XtraStatus

/-! The GPS lock in `GnssAdapter.cpp`. `MsgEnableGnss` and `MsgDisableGnss` take and
give back the power vote, `MsgGnssUpdateConfig` changes the configured lock; each of
them tells the modem, the Xtra daemon, or both. -/
namespace Msm8917Common.Location.Power
open ControlConfig Xtra

/-- What `generateSessionId` returns, which is never 0. -/
structure SessionId where
  val : UInt32
  issued : val ≠ 0

def LOCATION_TECHNOLOGY_TYPE_GNSS : Nat := 0

/-- The number of an enumerator. -/
def lockValue : GnssConfigGpsLock → UInt32
  | .none => 0
  | .mo => 1
  | .ni => 2
  | .moAndNi => 3

/-- `convertGpsLock` of a configured number. -/
def gpsLockOf (gpsLock : UInt32) : GnssConfigGpsLock :=
  if gpsLock = 1 then .mo else if gpsLock = 2 then .ni else if gpsLock = 3 then .moAndNi else .none

/-- `modemLock` is the lock last sent to the modem. `enabled` records that the first
enable for GNSS has been processed. -/
structure GnssAdapter where
  mPowerVoteId : UInt32
  cache : ConfigCache
  modemPowerVote : Bool
  modemLock : Option GnssConfigGpsLock
  mXtraObserver : XtraSystemStatusObserver
  enabled : Bool

namespace GnssAdapter

def start (cache : ConfigCache) : GnssAdapter := ⟨0, cache, false, none, .initial, false⟩

/-- `mXtraObserver.updateLockStatus`. -/
def updateLockStatus (adapter : GnssAdapter) (lock : UInt32) : GnssAdapter :=
  { adapter with mXtraObserver := (adapter.mXtraObserver.updateLockStatus lock).1 }

/-- `MsgEnableGnss::proc`, and the error it reports. -/
def enableGnss (adapter : GnssAdapter) (sessionId : SessionId) (techType : Nat) :
    GnssAdapter × LocationError :=
  if techType ≠ LOCATION_TECHNOLOGY_TYPE_GNSS then (adapter, .invalidParameter)
  else if adapter.mPowerVoteId > 0 then ({ adapter with enabled := true }, .alreadyStarted)
  else
    ({ adapter with
        modemPowerVote := true
        mPowerVoteId := sessionId.val
        modemLock := some .none
        enabled := true }.updateLockStatus (convertGpsLock .none), .success)

/-- `MsgDisableGnss::proc`. -/
def disableGnss (adapter : GnssAdapter) (sessionId : UInt32) : GnssAdapter × LocationError :=
  if adapter.mPowerVoteId ≠ sessionId then (adapter, .idUnknown)
  else
    ({ adapter with
        modemPowerVote := false
        mPowerVoteId := 0
        modemLock := some (gpsLockOf adapter.cache.mGps_conf.GPS_LOCK) }.updateLockStatus
      (lockValue (gpsLockOf adapter.cache.mGps_conf.GPS_LOCK)), .success)

/-- The lock that a call of the configuration handler sends, if it sends one. -/
def sentLock : ConfigCall → Option GnssConfigGpsLock
  | .setGpsLock lock => some lock
  | _ => none

/-- `MsgGnssUpdateConfig::proc` with a modem that accepts everything. -/
def gnssUpdateConfig (adapter : GnssAdapter) (config : GnssConfig)
    (resolveInAddress : Option (List Char) → Option UInt32) : GnssAdapter :=
  let result := proc adapter.cache config
    ⟨fun _ => .success, resolveInAddress, adapter.mPowerVoteId⟩
  { adapter with
    cache := result.cache
    modemLock := (result.calls.filterMap sentLock).getLast?.or adapter.modemLock }

end GnssAdapter

inductive PowerMsg where
  | enable (sessionId : SessionId) (techType : Nat)
  | disable (sessionId : UInt32)
  | gnssUpdateConfig (config : GnssConfig)
      (resolveInAddress : Option (List Char) → Option UInt32)

def GnssAdapter.step (adapter : GnssAdapter) : PowerMsg → GnssAdapter
  | .enable sessionId techType => (adapter.enableGnss sessionId techType).1
  | .disable sessionId => (adapter.disableGnss sessionId).1
  | .gnssUpdateConfig config resolveInAddress => adapter.gnssUpdateConfig config resolveInAddress

end Msm8917Common.Location.Power
