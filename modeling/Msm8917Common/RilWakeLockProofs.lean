import Mathlib.Data.List.Nodup
import Msm8917Common.RilWakeLock
import Msm8917Common.Runs

/-! The accounting of the partial wake lock. Only the timeout that
`s_last_wake_timeout_info` points at is ever uncancelled, so every step leaves at
most one; what breaks the accounting is the way out of `grabPartialWakeLock` for a
failed allocation, which releases a lock that earlier users still count on. -/
namespace Msm8917Common.Ril.WakeLockProofs
open Runs WakeLock

/-- The timeouts that will put the device back to sleep. -/
def awaited (lock : WakeLock) : List UserCallbackInfo :=
  lock.timeouts.filter fun info => !info.cancelled

/-- The lock is held as long as somebody counts on it, and then one timeout is
pending that will release it. -/
structure Accounted (lock : WakeLock) : Prop where
  held_iff : lock.held = true ↔ 0 < lock.s_wakelock_count
  nonneg : 0 ≤ lock.s_wakelock_count
  one_timeout : 0 < lock.s_wakelock_count → (awaited lock).length = 1

/-- Every timeout that is not cancelled is the last one. -/
structure Tracked (lock : WakeLock) : Prop where
  fresh : ∀ info ∈ lock.timeouts, info.address < lock.nextAddress
  lastFresh : ∀ last, lock.s_last_wake_timeout_info = some last → last < lock.nextAddress
  distinct : (lock.timeouts.map (·.address)).Nodup
  last : ∀ info ∈ lock.timeouts, info.cancelled = false →
    lock.s_last_wake_timeout_info = some info.address

/-- A grab that finds no memory for its timeout comes when nobody counts on the
lock, and the counter has room for one more user. -/
def Affordable (lock : WakeLock) : WakeEvent → Prop
  | .grab true => lock.s_wakelock_count ≠ 2147483647
  | .grab false => lock.s_wakelock_count = 0
  | _ => True

section cancelLast

variable (lock : WakeLock)

@[simp] theorem cancelLast_held : lock.cancelLast.held = lock.held := by
  unfold cancelLast; split <;> rfl

@[simp] theorem cancelLast_count : lock.cancelLast.s_wakelock_count = lock.s_wakelock_count := by
  unfold cancelLast; split <;> rfl

@[simp] theorem cancelLast_last :
    lock.cancelLast.s_last_wake_timeout_info = lock.s_last_wake_timeout_info := by
  unfold cancelLast; split <;> rfl

@[simp] theorem cancelLast_nextAddress : lock.cancelLast.nextAddress = lock.nextAddress := by
  unfold cancelLast; split <;> rfl

/-- Which timeouts are cancelled depends on the last one alone. -/
theorem cancelLast_timeouts : lock.cancelLast.timeouts =
    match lock.s_last_wake_timeout_info with
    | some last => lock.timeouts.map fun info =>
        if info.address = last then { info with userParam := 1 } else info
    | none => lock.timeouts := by
  unfold cancelLast
  cases lock.s_last_wake_timeout_info <;> rfl

@[simp] theorem cancelLast_addresses :
    lock.cancelLast.timeouts.map (·.address) = lock.timeouts.map (·.address) := by
  unfold cancelLast
  split
  · rw [List.map_map]
    apply List.map_congr_left
    intro info _
    simp only [Function.comp_apply]
    split <;> rfl
  · rfl

theorem cancelLast_fresh {bound : Nat} (fresh : ∀ info ∈ lock.timeouts, info.address < bound) :
    ∀ info ∈ lock.cancelLast.timeouts, info.address < bound := by
  intro info member
  have address : info.address ∈ lock.cancelLast.timeouts.map (·.address) :=
    List.mem_map_of_mem member
  rw [cancelLast_addresses] at address
  obtain ⟨old, oldMember, same⟩ := List.mem_map.mp address
  rw [← same]
  exact fresh old oldMember

/-- A timeout that the cancellation leaves uncancelled was so before, and is not
the last one. -/
theorem mem_cancelLast_uncancelled {info : UserCallbackInfo}
    (member : info ∈ lock.cancelLast.timeouts) (live : info.cancelled = false) :
    info ∈ lock.timeouts ∧ lock.s_last_wake_timeout_info ≠ some info.address := by
  unfold cancelLast at member
  split at member
  · rename_i last isLast
    obtain ⟨old, oldMember, rfl⟩ := List.mem_map.mp member
    split at live
    · simp [UserCallbackInfo.cancelled] at live
    · rename_i other
      rw [if_neg other, isLast]
      exact ⟨oldMember, fun same => other (Option.some.inj same).symm⟩
  · rename_i noLast
    exact ⟨member, by simp [noLast]⟩

end cancelLast

/-- After a cancellation no timeout of a tracked lock is awaited. -/
theorem cancelLast_cancels_all {lock : WakeLock} (tracked : Tracked lock) :
    ∀ info ∈ lock.cancelLast.timeouts, info.cancelled = true := by
  intro info member
  by_contra uncancelled
  have live : info.cancelled = false := by simpa using uncancelled
  obtain ⟨before, notLast⟩ := mem_cancelLast_uncancelled lock member live
  exact notLast (tracked.last info before live)

/-- What a grab does when its timeout is allocated. -/
theorem grab_allocated {version : Int} (recent : 13 ≤ version) (lock : WakeLock) :
    ∃ next, lock.grabPartialWakeLock version true = next ∧ next.held = true ∧
      next.s_wakelock_count = increment lock.s_wakelock_count ∧
      next.s_last_wake_timeout_info = some lock.nextAddress ∧
      next.nextAddress = lock.nextAddress + 1 ∧
      next.timeouts = (cancelLast
        { lock with timeouts := lock.timeouts ++ [⟨lock.nextAddress, 0⟩] }).timeouts := by
  refine ⟨_, rfl, ?_⟩
  simp only [grabPartialWakeLock, ge_iff_le, recent, if_true, internalRequestTimedCallback,
    acquire_wake_lock, cancelLast_held, cancelLast_nextAddress, cancelLast_timeouts, and_self]

theorem grab_refused {version : Int} (recent : 13 ≤ version) (lock : WakeLock) :
    lock.grabPartialWakeLock version false = { lock with held := false } := by
  simp [grabPartialWakeLock, recent, internalRequestTimedCallback, acquire_wake_lock,
    release_wake_lock]

/-- The old timeouts are cancelled by a grab, the new one is not. -/
theorem cancelLast_append {lock : WakeLock} (tracked : Tracked lock) :
    (cancelLast { lock with timeouts := lock.timeouts ++ [⟨lock.nextAddress, 0⟩] }).timeouts =
      lock.cancelLast.timeouts ++ [⟨lock.nextAddress, 0⟩] := by
  unfold cancelLast
  cases isLast : lock.s_last_wake_timeout_info with
  | none => rfl
  | some last =>
    have older := tracked.lastFresh last isLast
    have new : ¬ lock.nextAddress = last := by omega
    simp [new]

theorem grab_keeps_tracked {version : Int} (recent : 13 ≤ version) {lock : WakeLock}
    (tracked : Tracked lock) : Tracked (lock.grabPartialWakeLock version true) := by
  obtain ⟨next, done, -, -, last, nextAddress, timeouts⟩ := grab_allocated recent lock
  rw [done]
  rw [cancelLast_append tracked] at timeouts
  constructor
  case fresh =>
    intro info member
    rw [timeouts] at member
    rw [nextAddress]
    rcases List.mem_append.mp member with old | new
    · exact Nat.lt_succ_of_lt (cancelLast_fresh lock tracked.fresh info old)
    · cases List.mem_singleton.mp new
      exact Nat.lt_succ_self _
  case lastFresh =>
    intro address isLast
    rw [last] at isLast
    cases isLast
    omega
  case distinct =>
    rw [timeouts, List.map_append, cancelLast_addresses]
    refine List.nodup_append.mpr ⟨tracked.distinct, List.nodup_singleton _, ?_⟩
    intro address old other new
    obtain ⟨info, member, rfl⟩ := List.mem_map.mp old
    have bound := tracked.fresh info member
    have same : other = lock.nextAddress := by simpa using new
    omega
  case last =>
    intro info member live
    rw [timeouts] at member
    rcases List.mem_append.mp member with old | new
    · rw [cancelLast_cancels_all tracked info old] at live
      cases live
    · cases List.mem_singleton.mp new
      exact last

theorem release_keeps_tracked {version : Int} {lock : WakeLock} (recent : 13 ≤ version)
    (tracked : Tracked lock) : Tracked (lock.releaseWakeLock version) := by
  simp only [releaseWakeLock, ge_iff_le, recent, if_true]
  split
  · exact ⟨tracked.fresh, tracked.lastFresh, tracked.distinct, tracked.last⟩
  · have same : Tracked { lock with s_wakelock_count := 0 }.release_wake_lock :=
      ⟨tracked.fresh, tracked.lastFresh, tracked.distinct, tracked.last⟩
    constructor
    case fresh => simpa using cancelLast_fresh _ same.fresh
    case lastFresh => simpa using same.lastFresh
    case distinct => simpa using same.distinct
    case last =>
      intro info member live
      rw [cancelLast_cancels_all same info member] at live
      cases live

/-- A due timeout leaves the list; one that is not cancelled lets go of the lock. -/
theorem timeout_cases {version : Int} (recent : 13 ≤ version) (lock : WakeLock) (address : Nat) :
    lock.userTimerCallback version address = lock ∨
    ∃ info ∈ lock.timeouts, info.address = address ∧ ∃ next,
      lock.userTimerCallback version address = next ∧
      next.timeouts = lock.timeouts.filter (·.address ≠ address) ∧
      next.nextAddress = lock.nextAddress ∧
      next.s_last_wake_timeout_info = (if lock.s_last_wake_timeout_info = some address then none
        else lock.s_last_wake_timeout_info) ∧
      (info.cancelled = true ∧ next.held = lock.held ∧
          next.s_wakelock_count = lock.s_wakelock_count ∨
        info.cancelled = false ∧ next.held = false ∧ next.s_wakelock_count = 0) := by
  unfold userTimerCallback
  cases found : lock.timeouts.find? (·.address = address) with
  | none => exact .inl rfl
  | some info =>
    have isDue : info.address = address := by simpa using List.find?_some found
    refine .inr ⟨info, List.mem_of_find?_eq_some found, isDue, _, rfl, ?_⟩
    simp only [wakeTimeoutCallback, ge_iff_le, recent, if_true, release_wake_lock, isDue,
      UserCallbackInfo.cancelled]
    by_cases live : info.userParam = 0 <;>
      by_cases isLast : lock.s_last_wake_timeout_info = some address <;>
      simp [live, isLast]

theorem timeout_keeps_tracked {version : Int} (recent : 13 ≤ version) {lock : WakeLock}
    (tracked : Tracked lock) (address : Nat) : Tracked (lock.userTimerCallback version address) := by
  rcases timeout_cases recent lock address with same | ⟨_, -, -, next, done, timeouts, fresh, last, -⟩
  · rw [same]
    exact tracked
  rw [done]
  have kept : ∀ info ∈ next.timeouts, info ∈ lock.timeouts ∧ info.address ≠ address := by
    intro info member
    simpa [timeouts] using member
  constructor
  case fresh =>
    intro info member
    rw [fresh]
    exact tracked.fresh info (kept info member).1
  case lastFresh =>
    intro old isLast
    rw [last] at isLast
    rw [fresh]
    split at isLast
    · cases isLast
    · exact tracked.lastFresh old isLast
  case distinct =>
    rw [timeouts]
    exact tracked.distinct.sublist (List.filter_sublist.map _)
  case last =>
    intro info member live
    obtain ⟨before, other⟩ := kept info member
    have wasLast := tracked.last info before live
    rw [last, if_neg (by simpa [wasLast] using other)]
    exact wasLast

theorem step_keeps_tracked {version : Int} (recent : 13 ≤ version) (lock : WakeLock)
    (event : WakeEvent) (tracked : Tracked lock) : Tracked (lock.step version event) := by
  cases event with
  | grab allocated =>
    cases allocated with
    | true => exact grab_keeps_tracked recent tracked
    | false =>
      rw [step, grab_refused recent]
      exact ⟨tracked.fresh, tracked.lastFresh, tracked.distinct, tracked.last⟩
  | release => exact release_keeps_tracked recent tracked
  | timeout address => exact timeout_keeps_tracked recent tracked address

/-- A grab with its timeout keeps the accounting unless the counter wraps. -/
theorem grab_accounted_iff {version : Int} (recent : 13 ≤ version) {lock : WakeLock}
    (tracked : Tracked lock) (accounted : Accounted lock) :
    Accounted (lock.grabPartialWakeLock version true) ↔ lock.s_wakelock_count ≠ 2147483647 := by
  obtain ⟨next, done, held, count, -, -, timeouts⟩ := grab_allocated recent lock
  have nonneg := accounted.nonneg
  rw [done]
  constructor
  · intro fine wraps
    have negative := fine.nonneg
    rw [count, wraps] at negative
    simp [increment] at negative
  · intro room
    rw [increment, if_neg room] at count
    constructor
    case held_iff => simp only [held, true_iff]; omega
    case nonneg => omega
    case one_timeout =>
      intro _
      rw [cancelLast_append tracked] at timeouts
      have old : lock.cancelLast.timeouts.filter (fun info => !info.cancelled) = [] := by
        simpa using cancelLast_cancels_all tracked
      rw [awaited, timeouts, List.filter_append, old]
      rfl

/-- Without memory the lock is released, whoever counts on it. -/
theorem refused_grab_accounted_iff {version : Int} (recent : 13 ≤ version) {lock : WakeLock}
    (accounted : Accounted lock) :
    Accounted (lock.grabPartialWakeLock version false) ↔ lock.s_wakelock_count = 0 := by
  have nonneg := accounted.nonneg
  rw [grab_refused recent]
  constructor
  · intro fine
    have held := fine.held_iff
    simp only [Bool.false_eq_true, false_iff] at held
    omega
  · intro unused
    exact ⟨by simp [unused], nonneg, by simp [unused]⟩

theorem release_keeps_accounted {version : Int} (recent : 13 ≤ version) {lock : WakeLock}
    (accounted : Accounted lock) : Accounted (lock.releaseWakeLock version) := by
  have held := accounted.held_iff
  simp only [releaseWakeLock, ge_iff_le, recent, if_true]
  split
  · rename_i several
    constructor
    case held_iff => rw [held]; simp only; omega
    case nonneg => simp only; omega
    case one_timeout => exact fun _ => accounted.one_timeout (by omega)
  · constructor <;> simp [release_wake_lock]

/-- Taking a cancelled timeout from the list leaves the awaited ones. -/
theorem awaited_after_cancelled {lock : WakeLock} (tracked : Tracked lock) {info : UserCallbackInfo}
    (member : info ∈ lock.timeouts) (cancelled : info.cancelled = true) :
    (lock.timeouts.filter (·.address ≠ info.address)).filter (fun info => !info.cancelled) =
      awaited lock := by
  rw [List.filter_filter]
  apply List.filter_congr
  intro other otherMember
  by_cases same : other.address = info.address
  · have equal := List.inj_on_of_nodup_map tracked.distinct otherMember member same
    simp [equal, cancelled]
  · simp [same]

theorem timeout_keeps_accounted {version : Int} (recent : 13 ≤ version) {lock : WakeLock}
    (tracked : Tracked lock) (accounted : Accounted lock) (address : Nat) :
    Accounted (lock.userTimerCallback version address) := by
  rcases timeout_cases recent lock address with
    same | ⟨info, member, rfl, next, done, timeouts, -, -, effect⟩
  · rw [same]
    exact accounted
  rw [done]
  rcases effect with ⟨cancelled, held, count⟩ | ⟨-, held, count⟩
  · constructor
    case held_iff => rw [held, count, accounted.held_iff]
    case nonneg => rw [count]; exact accounted.nonneg
    case one_timeout =>
      intro positive
      rw [count] at positive
      rw [awaited, timeouts, awaited_after_cancelled tracked member cancelled]
      exact accounted.one_timeout positive
  · exact ⟨by simp [held, count], by simp [count], by simp [count]⟩

/-- One event keeps the accounting exactly when it is affordable. -/
theorem step_accounted_iff {version : Int} (recent : 13 ≤ version) (lock : WakeLock)
    (event : WakeEvent) (tracked : Tracked lock) (accounted : Accounted lock) :
    Accounted (lock.step version event) ↔ Affordable lock event := by
  cases event with
  | grab allocated =>
    cases allocated with
    | true => exact grab_accounted_iff recent tracked accounted
    | false => exact refused_grab_accounted_iff recent accounted
  | release => exact iff_of_true (release_keeps_accounted recent accounted) trivial
  | timeout address =>
    exact iff_of_true (timeout_keeps_accounted recent tracked accounted address) trivial

theorem start_tracked : Tracked WakeLock.start := by
  constructor <;> simp [WakeLock.start]

theorem start_accounted : Accounted WakeLock.start := by
  constructor <;> simp [WakeLock.start]

/-- From version 13 on the wake lock is accounted for throughout a run exactly
when each of its grabs was affordable. -/
theorem wake_lock_accounted_iff_affordable (version : Int) (recent : 13 ≤ version)
    (events : List WakeEvent) :
    (∀ lock ∈ states (WakeLock.step version) WakeLock.start events, Accounted lock) ↔
      ∀ taken ∈ steps (WakeLock.step version) WakeLock.start events,
        Affordable taken.1 taken.2 :=
  always_iff_each_step (step_keeps_tracked recent) (step_accounted_iff recent) events
    start_tracked start_accounted

/-- One user, whose timeout lets go of the lock for it. -/
theorem single_user_is_accounted :
    Accounted ([WakeEvent.grab true, .timeout 1].foldl (WakeLock.step 13) WakeLock.start) :=
  (wake_lock_accounted_iff_affordable 13 (by decide) [.grab true, .timeout 1]).mpr
    (by simp [steps, Affordable, WakeLock.start]) _ (end_mem_states _ _)

/-- The second grab finds no memory and lets the device sleep on the first. -/
theorem refused_timeout_drops_the_lock :
    ¬ ∀ (version : Int), 13 ≤ version → ∀ events : List WakeEvent,
      ∀ lock ∈ states (WakeLock.step version) WakeLock.start events, Accounted lock := by
  intro always
  have accounted := always 13 (by decide) [.grab true, .grab false]
    ⟨false, 1, some 1, [⟨1, 0⟩], 2⟩ (by decide)
  exact absurd accounted.held_iff (by decide)

end Msm8917Common.Ril.WakeLockProofs
