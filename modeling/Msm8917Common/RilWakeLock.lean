import Mathlib.Data.List.Basic

/-! The partial wake lock of `ril.cpp`: `grabPartialWakeLock`, `releaseWakeLock`
and the timeout that puts the device back to sleep. From RIL version 13 on the
users of the lock are counted; the wake lock itself is one name that is held or
not, however often it is acquired. -/
namespace Msm8917Common.Ril

/-- A `UserCallbackInfo` whose callback is `wakeTimeoutCallback`, in the timer list.
A `userParam` other than zero (NULL) cancels it. -/
structure UserCallbackInfo where
  address : Nat
  userParam : Nat
  deriving DecidableEq

def UserCallbackInfo.cancelled (info : UserCallbackInfo) : Bool := info.userParam ≠ 0

/-- `nextAddress` is the address that the next allocation returns. -/
structure WakeLock where
  held : Bool
  s_wakelock_count : Int
  s_last_wake_timeout_info : Option Nat
  timeouts : List UserCallbackInfo
  nextAddress : Nat
  deriving DecidableEq

namespace WakeLock

def start : WakeLock := ⟨false, 0, none, [], 1⟩

/-- `++` on an `int`, which wraps at the largest. -/
def increment (count : Int) : Int := if count = 2147483647 then -2147483648 else count + 1

def acquire_wake_lock (lock : WakeLock) : WakeLock := { lock with held := true }

def release_wake_lock (lock : WakeLock) : WakeLock := { lock with held := false }

/-- `internalRequestTimedCallback (wakeTimeoutCallback, NULL, ..)`. -/
def internalRequestTimedCallback (lock : WakeLock) (allocated : Bool) : WakeLock × Option Nat :=
  if allocated then
    ({ lock with
        timeouts := lock.timeouts ++ [⟨lock.nextAddress, 0⟩]
        nextAddress := lock.nextAddress + 1 }, some lock.nextAddress)
  else (lock, none)

/-- `if (s_last_wake_timeout_info != NULL) s_last_wake_timeout_info->userParam = (void *)1`. -/
def cancelLast (lock : WakeLock) : WakeLock :=
  match lock.s_last_wake_timeout_info with
  | some last => { lock with
      timeouts := lock.timeouts.map fun info =>
        if info.address = last then { info with userParam := 1 } else info }
  | none => lock

def grabPartialWakeLock (version : Int) (allocated : Bool) (lock : WakeLock) : WakeLock :=
  if version ≥ 13 then
    match lock.acquire_wake_lock.internalRequestTimedCallback allocated with
    | (lock, none) => lock.release_wake_lock
    | (lock, some p_info) =>
      { lock.cancelLast with
        s_wakelock_count := increment lock.s_wakelock_count
        s_last_wake_timeout_info := some p_info }
  else lock.acquire_wake_lock

def releaseWakeLock (version : Int) (lock : WakeLock) : WakeLock :=
  if version ≥ 13 then
    if lock.s_wakelock_count > 1 then
      { lock with s_wakelock_count := lock.s_wakelock_count - 1 }
    else { lock with s_wakelock_count := 0 }.release_wake_lock.cancelLast
  else lock.release_wake_lock

def wakeTimeoutCallback (version : Int) (param : Nat) (lock : WakeLock) : WakeLock :=
  if version ≥ 13 then
    if param = 0 then { lock with s_wakelock_count := 0 }.release_wake_lock else lock
  else if param = 0 then lock.releaseWakeLock version else lock

/-- `userTimerCallback`, when the timer at `address` is due and leaves the timer list. -/
def userTimerCallback (version : Int) (address : Nat) (lock : WakeLock) : WakeLock :=
  match lock.timeouts.find? (·.address = address) with
  | none => lock
  | some p_info =>
    let lock := { lock with timeouts := lock.timeouts.filter (·.address ≠ address) }
    let lock := lock.wakeTimeoutCallback version p_info.userParam
    if lock.s_last_wake_timeout_info = some p_info.address then
      { lock with s_last_wake_timeout_info := none }
    else lock

end WakeLock

inductive WakeEvent where
  | grab (allocated : Bool)
  | release
  | timeout (address : Nat)
  deriving DecidableEq

def WakeLock.step (version : Int) (lock : WakeLock) : WakeEvent → WakeLock
  | .grab allocated => lock.grabPartialWakeLock version allocated
  | .release => lock.releaseWakeLock version
  | .timeout address => lock.userTimerCallback version address

end Msm8917Common.Ril
