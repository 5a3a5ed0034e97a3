import Msm8917Common.TimerLivesProofs

/-! What the timers allocate: the message that deletes a delegate comes after every use of
it, and the heap that it was in finds it, as long as the times in that heap are not
further apart than an `int` can tell. -/
namespace Msm8917Common.Timer
open Runs LocHeapNode

/-- The ranking without its `int`. -/
def Delegate.sooner (timer other : Delegate) : Bool :=
  decide (timer.mFutureTime.nanos < other.mFutureTime.nanos)

theorem sooner_ranking : Ranking Delegate.sooner := by
  constructor
  · simp only [Delegate.sooner, decide_eq_true_eq]
    omega
  · simp only [Delegate.sooner, decide_eq_true_eq]
    omega

/-- A time whose distance from any other such time fits an `int`. -/
def Delegate.Fits (timer : Delegate) : Prop := timer.mFutureTime.tv_sec < 2 ^ 31

theorem outRanks_eq_sooner {timer other : Delegate} (fits : timer.Fits) (otherFits : other.Fits) :
    timer.outRanks other = timer.sooner other := by
  simp only [Delegate.Fits] at fits otherFits
  have normal := timer.mFutureTime.normal
  have otherNormal := other.mFutureTime.normal
  have exact : ∀ difference : Int, -2147483648 ≤ difference → difference < 2147483648 →
      Timespec.toInt difference = difference :=
    fun difference low high => Int.bmod_eq_of_le (by omega) (by omega)
  refine decide_eq_decide.mpr ?_
  simp only [Timespec.ranks, Timespec.nanos]
  rw [exact _ (by omega) (by omega), exact _ (by omega) (by omega)]
  split <;> omega

/-- The times that a heap compares. -/
theorem agree_of_fits {elements : List Delegate} (fits : ∀ timer ∈ elements, timer.Fits) :
    Agree Delegate.outRanks Delegate.sooner elements :=
  fun first member second among => outRanks_eq_sooner (fits first member) (fits second among)

/-- A delegate is on its timer, waits for its deletion, or is deleted. -/
def TimerLives.holds (world : TimerLives) (timer : Delegate) : Nat :=
  (world.mTimer timer.mLock).toList.count timer + world.queue.count (.remove timer) +
    world.deleted.count timer

/-- What holds of the delegates and locks that are allocated. -/
structure Kept (world : TimerLives) : Prop where
  unused : world.misused = false
  settled : ∀ timer, world.holds timer = world.created.count timer
  ordered : world.queue.Pairwise fun earlier later =>
    ∀ timer, earlier = .remove timer → later ≠ .push timer
  placed : ∀ timer, world.queue.count (.push timer) +
    (world.mTree timer.wakeOnExpire).toList.count timer ≤ 1
  undeleted : ∀ timer, .push timer ∈ world.queue ∨
    (∃ wake, timer ∈ (world.mTree wake).toList) ∨ world.task.timer = some timer →
      timer ∉ world.deleted
  home : ∀ wake, ∀ timer ∈ (world.mTree wake).toList, timer.wakeOnExpire = wake
  sorted : ∀ wake, (world.mTree wake).Sorted Delegate.sooner
  fits : ∀ timer ∈ world.created, timer.Fits
  counted : ∀ client, world.mRef client + world.deleted.countP (·.mLock = client) =
    (if world.alive client then 1 else 0) + world.created.countP (·.mLock = client)
  locks : ∀ client, world.deletedLocks.count client = if world.mRef client = 0 then 1 else 0

theorem start_kept (clock : Timespec) : Kept (.start clock) := by
  constructor <;> simp [TimerLives.start, TimerLives.holds, toList, Sorted, ExpireTask.timer]

section kept

variable {world next : TimerLives}

theorem deleted_distinct (wired : Wired world) (kept : Kept world) :
    world.deleted.Nodup ∧ ∀ timer ∈ world.deleted, timer ∈ world.created := by
  have bound : ∀ timer, world.deleted.count timer ≤ world.created.count timer := by
    intro timer
    have settled := kept.settled timer
    simp only [TimerLives.holds] at settled
    omega
  constructor
  · rw [List.nodup_iff_count_le_one]
    exact fun timer => (bound timer).trans (List.nodup_iff_count_le_one.mp wired.distinct timer)
  · intro timer member
    exact List.count_pos_iff.mp (Nat.lt_of_lt_of_le (List.count_pos_iff.mpr member) (bound timer))

/-- A delegate on its timer or in a message is not deleted. -/
theorem undeleted_of_held (wired : Wired world) (kept : Kept world) {timer : Delegate}
    (held : world.mTimer timer.mLock = some timer ∨ .remove timer ∈ world.queue) :
    timer ∉ world.deleted ∧ timer ∈ world.created := by
  have settled := kept.settled timer
  have once := List.nodup_iff_count_le_one.mp wired.distinct timer
  have some : 0 < (world.mTimer timer.mLock).toList.count timer +
      world.queue.count (.remove timer) := by
    rcases held with attached | queued
    · simp [attached]
    · have := List.count_pos_iff.mpr queued
      omega
  simp only [TimerLives.holds] at settled
  constructor
  · intro member
    have := List.count_pos_iff.mpr member
    omega
  · exact List.count_pos_iff.mp (by omega)

/-- Whoever still has a share of a lock finds it there. -/
theorem lock_of_share (wired : Wired world) (kept : Kept world) {client : Nat}
    (share : world.alive client = true ∨
      ∃ timer ∈ world.created, timer.mLock = client ∧ timer ∉ world.deleted) :
    0 < world.mRef client ∧ client ∉ world.deletedLocks := by
  obtain ⟨distinct, among⟩ := deleted_distinct wired kept
  have counted := kept.counted client
  have locks := kept.locks client
  have positive : 0 < world.mRef client := by
    rcases share with alive | ⟨timer, member, isLock, undeleted⟩
    · have fewer := (List.Nodup.subperm distinct among).countP_le (·.mLock = client)
      rw [if_pos alive] at counted
      omega
    · have more : (timer :: world.deleted).Nodup := List.nodup_cons.mpr ⟨undeleted, distinct⟩
      have inside : ∀ other ∈ timer :: world.deleted, other ∈ world.created := by
        intro other either
        rcases List.mem_cons.mp either with rfl | old
        · exact member
        · exact among other old
      have fewer := (List.Nodup.subperm more inside).countP_le (·.mLock = client)
      rw [List.countP_cons_of_pos (by simpa using isLock)] at fewer
      omega
  refine ⟨positive, fun gone => ?_⟩
  have := List.count_pos_iff.mpr gone
  rw [if_neg (by omega)] at locks
  omega

theorem useLock_eq {lock : Nat} (there : lock ∉ world.deletedLocks) :
    world.useLock lock = world := by
  simp [TimerLives.useLock, there]

theorem use_eq {timers : List Delegate} (there : ∀ timer ∈ timers, timer ∉ world.deleted) :
    world.use timers = world := by
  have none : timers.any (world.deleted.contains ·) = false := by
    simpa [List.any_eq_false] using there
  simp only [TimerLives.use, none, Bool.or_false]

/-- A share that is given back, of a lock that is there. -/
theorem drop_locks (locks : ∀ client, world.deletedLocks.count client =
      if world.mRef client = 0 then 1 else 0) {lock : Nat} (positive : 0 < world.mRef lock)
    (client : Nat) :
    (if world.mRef lock = 1 then lock :: world.deletedLocks else world.deletedLocks).count client =
      if Function.update world.mRef lock (world.mRef lock - 1) client = 0 then 1 else 0 := by
  have before := locks client
  by_cases same : client = lock
  · subst same
    rw [if_neg (by omega)] at before
    rw [Function.update_self]
    by_cases last : world.mRef client = 1
    · simp [last, before]
    · rw [if_neg last, before, if_neg (by omega)]
  · rw [Function.update_of_ne same, ← before]
    split
    · exact List.count_cons_of_ne (Ne.symm same)
    · rfl

/-- A step that leaves the delegates where they are. -/
theorem Kept.frame (kept : Kept world) (misused : next.misused = world.misused)
    (created : next.created = world.created) (deleted : next.deleted = world.deleted)
    (mTimer : next.mTimer = world.mTimer) (mTree : next.mTree = world.mTree)
    (locks : next.mRef = world.mRef ∧ next.alive = world.alive ∧
      next.deletedLocks = world.deletedLocks)
    (messages : (∀ timer, next.queue.count (.push timer) = world.queue.count (.push timer)) ∧
      ∀ timer, next.queue.count (.remove timer) = world.queue.count (.remove timer))
    (ordered : next.queue.Pairwise fun earlier later =>
      ∀ timer, earlier = .remove timer → later ≠ .push timer)
    (popped : ∀ timer, next.task.timer = some timer → timer ∉ world.deleted) : Kept next := by
  obtain ⟨mRef, alive, deletedLocks⟩ := locks
  refine ⟨misused.trans kept.unused, ?_, ordered, ?_, ?_, ?_, ?_, ?_, ?_, ?_⟩
  · simpa only [TimerLives.holds, created, deleted, mTimer, messages.2] using kept.settled
  · simpa only [mTree, messages.1] using kept.placed
  · rw [deleted, mTree]
    rintro timer (queued | held | isPopped)
    · refine kept.undeleted timer (.inl ?_)
      rw [← List.count_pos_iff, messages.1] at queued
      exact List.count_pos_iff.mp queued
    · exact kept.undeleted timer (.inr (.inl held))
    · exact popped timer isPopped
  · rw [mTree]
    exact kept.home
  · rw [mTree]
    exact kept.sorted
  · rw [created]
    exact kept.fits
  · simpa only [mRef, alive, created, deleted] using kept.counted
  · simpa only [mRef, deletedLocks] using kept.locks

theorem started_kept (wired : Wired world) (kept : Kept world) {timer : Delegate}
    (isNew : timer.address = world.created.length) (idle : world.mTimer timer.mLock = none)
    (alive : world.alive timer.mLock = true) (fits : timer.Fits) : Kept (world.started timer) := by
  have unknown := not_created_of_new wired isNew
  obtain ⟨-, among⟩ := deleted_distinct wired kept
  obtain ⟨positive, there⟩ := lock_of_share wired kept (.inl alive)
  have noRemove : .remove timer ∉ world.queue := fun queued =>
    unknown (undeleted_of_held wired kept (.inr queued)).2
  have lock := useLock_eq there
  refine ⟨?_, ?_, ?_, ?_, ?_, kept.home, kept.sorted, ?_, ?_, ?_⟩
  · simp only [TimerLives.started, lock]
    exact kept.unused
  · intro other
    have settled := kept.settled other
    simp only [TimerLives.holds, started_attached idle]
    simp only [TimerLives.holds, TimerLives.started, lock, List.count_append, List.count_cons,
      List.count_nil, beq_iff_eq, reduceCtorEq, if_false] at settled ⊢
    omega
  · simp only [TimerLives.started]
    refine List.pairwise_append.mpr ⟨kept.ordered, List.pairwise_singleton _ _, ?_⟩
    rintro earlier member later isLast other rfl same
    cases List.mem_singleton.mp isLast
    cases same
    exact noRemove member
  · intro other
    have placed := kept.placed other
    simp only [TimerLives.started, lock, List.count_append, List.count_cons, List.count_nil,
      beq_iff_eq, ContainerMsg.push.injEq]
    by_cases same : timer = other
    · subst same
      have noPush : world.queue.count (.push timer) = 0 :=
        List.count_eq_zero.mpr fun queued => unknown (wired.queued timer queued)
      have noTree : (world.mTree timer.wakeOnExpire).toList.count timer = 0 :=
        List.count_eq_zero.mpr fun held => unknown (wired.held _ timer held)
      rw [noPush, noTree]
      simp
    · simpa [same] using placed
  · simp only [TimerLives.started, lock]
    rintro other (queued | held | isPopped)
    · rcases List.mem_append.mp queued with before | now
      · exact kept.undeleted other (.inl before)
      · cases List.mem_singleton.mp now
        exact fun gone => unknown (among timer gone)
    · exact kept.undeleted other (.inr (.inl held))
    · exact kept.undeleted other (.inr (.inr isPopped))
  · intro other member
    rcases List.mem_cons.mp member with rfl | old
    · exact fits
    · exact kept.fits other old
  · intro client
    have counted := kept.counted client
    simp only [TimerLives.started, lock]
    by_cases same : client = timer.mLock
    · subst same
      rw [Function.update_self, List.countP_cons_of_pos (by simp)]
      omega
    · rw [Function.update_of_ne same, List.countP_cons_of_neg (by simpa using Ne.symm same)]
      exact counted
  · intro client
    have locks := kept.locks client
    simp only [TimerLives.started, lock]
    by_cases same : client = timer.mLock
    · subst same
      rw [Function.update_self, if_neg (Nat.succ_ne_zero _)]
      exact List.count_eq_zero.mpr there
    · rw [Function.update_of_ne same]
      exact locks

theorem takenOff_kept (wired : Wired world) (kept : Kept world) {timer : Delegate}
    (isAttached : world.mTimer timer.mLock = some timer) : Kept (world.takenOff timer) := by
  have alive := (wired.attached _ timer isAttached).2.2.2.2
  obtain ⟨-, there⟩ := lock_of_share wired kept (.inl alive)
  have undeleted := (undeleted_of_held wired kept (.inl isAttached)).1
  refine ⟨?_, ?_, ?_, ?_, ?_, kept.home, kept.sorted, kept.fits, kept.counted, kept.locks⟩
  · simp [TimerLives.takenOff, kept.unused, there, undeleted]
  · intro other
    have settled := kept.settled other
    simp only [TimerLives.holds, takenOff_attached world isAttached other] at settled
    simp only [TimerLives.holds]
    simp only [TimerLives.takenOff, List.count_append, List.count_cons, List.count_nil,
      beq_iff_eq, ContainerMsg.remove.injEq] at settled ⊢
    omega
  · simp only [TimerLives.takenOff]
    refine List.pairwise_append.mpr ⟨kept.ordered, List.pairwise_singleton _ _, ?_⟩
    rintro earlier - later isLast other - same
    cases List.mem_singleton.mp isLast
    cases same
  · intro other
    simpa [TimerLives.takenOff] using kept.placed other
  · intro other held
    refine kept.undeleted other (held.imp_left fun queued => ?_)
    simpa [TimerLives.takenOff] using queued

theorem stopTimer_kept (wired : Wired world) (kept : Kept world) {client : Nat}
    (alive : world.alive client = true) : Kept (world.stopTimer client).1 := by
  obtain ⟨-, there⟩ := lock_of_share wired kept (.inl alive)
  cases attached : world.mTimer client with
  | none =>
    rw [stopTimer_of_idle attached, useLock_eq there]
    exact kept
  | some timer =>
    obtain ⟨-, rfl, -⟩ := wired.attached client timer attached
    rw [stopTimer_of_attached wired attached]
    exact takenOff_kept wired kept attached

theorem stopByClient_kept (wired : Wired world) (kept : Kept world) {client : Nat}
    (alive : world.alive client = true) : Kept (world.stopByClient client) := by
  have stopped := stopTimer_kept wired kept alive
  generalize isNext : world.stopTimer client = next at stopped
  simp only [TimerLives.stopByClient, isNext]
  exact stopped.frame rfl rfl rfl rfl rfl ⟨rfl, rfl, rfl⟩ ⟨fun _ => rfl, fun _ => rfl⟩
    stopped.ordered fun timer isPopped => stopped.undeleted timer (.inr (.inr isPopped))

/-- The share of the timer itself. -/
theorem destroyTimer_kept (wired : Wired world) (kept : Kept world) {client : Nat}
    (alive : world.alive client = true) : Kept (world.destroyTimer client) := by
  have stopped := stopByClient_kept wired kept alive
  have stoppedWired := (stopByClient_wired wired client).1
  have sameAlive := stopByClient_alive world client
  generalize isNext : world.stopByClient client = next at stopped stoppedWired sameAlive
  rw [← sameAlive] at alive
  obtain ⟨positive, there⟩ := lock_of_share stoppedWired stopped (.inl alive)
  simp only [TimerLives.destroyTimer, isNext, ← sameAlive, TimerLives.drop, useLock_eq there]
  refine ⟨stopped.unused, stopped.settled, stopped.ordered, stopped.placed, stopped.undeleted,
    stopped.home, stopped.sorted, stopped.fits, fun other => ?_, fun other => ?_⟩
  · have counted := stopped.counted other
    by_cases same : other = client
    · subst same
      simp only [Function.update_self, Bool.false_eq_true, if_false]
      rw [if_pos alive] at counted
      omega
    · simp only [Function.update_of_ne same]
      exact counted
  · exact drop_locks stopped.locks positive other

/-- The elements of a heap are there, and their times fit. -/
theorem tree_kept (wired : Wired world) (kept : Kept world) (wake : Bool) :
    (∀ timer ∈ (world.mTree wake).toList, timer ∉ world.deleted) ∧
      ∀ timer ∈ (world.mTree wake).toList, timer.Fits :=
  ⟨fun timer held => kept.undeleted timer (.inr (.inl ⟨wake, held⟩)),
    fun timer held => kept.fits timer (wired.held wake timer held)⟩

theorem sorted_update {mTree : Bool → LocHeapNode Delegate}
    (sorted : ∀ wake, (mTree wake).Sorted Delegate.sooner) {changed : Bool}
    {tree : LocHeapNode Delegate} (inside : tree.Sorted Delegate.sooner) :
    ∀ wake, (Function.update mTree changed tree wake).Sorted Delegate.sooner := by
  intro wake
  by_cases same : wake = changed
  · subst same
    rwa [Function.update_self]
  · rw [Function.update_of_ne same]
    exact sorted wake

/-- How often a delegate is in its own heap, after a heap has changed. -/
theorem count_update (mTree : Bool → LocHeapNode Delegate) (changed : Bool)
    (tree : LocHeapNode Delegate) (timer : Delegate) :
    (Function.update mTree changed tree timer.wakeOnExpire).toList.count timer =
      if timer.wakeOnExpire = changed then tree.toList.count timer
      else (mTree timer.wakeOnExpire).toList.count timer := by
  by_cases same : timer.wakeOnExpire = changed
  · rw [if_pos same, same, Function.update_self]
  · rw [if_neg same, Function.update_of_ne same]

theorem push_kept (wired : Wired world) (kept : Kept world) {timer : Delegate}
    {rest : List ContainerMsg} (first : world.queue = .push timer :: rest)
    (idle : world.task = .idle) : Kept ({ world with queue := rest }.proc (.push timer)) := by
  have queued : .push timer ∈ world.queue := first ▸ List.mem_cons_self
  have known := wired.queued timer queued
  have undeleted := kept.undeleted timer (.inl queued)
  obtain ⟨there, treeFits⟩ := tree_kept wired kept timer.wakeOnExpire
  have used : TimerLives.use { world with queue := rest }
      (timer :: (world.mTree timer.wakeOnExpire).toList) = { world with queue := rest } :=
    use_eq (List.forall_mem_cons.mpr ⟨undeleted, there⟩)
  have agree : Agree Delegate.outRanks Delegate.sooner
      (timer :: (world.mTree timer.wakeOnExpire).toList) :=
    agree_of_fits (List.forall_mem_cons.mpr ⟨kept.fits timer known, treeFits⟩)
  have ordered := kept.ordered
  rw [first] at ordered
  simp only [TimerLives.proc, used, push_congr agree]
  have perm : (push Delegate.sooner timer (world.mTree timer.wakeOnExpire)).toList.Perm
      (timer :: (world.mTree timer.wakeOnExpire).toList) := push_perm timer _
  have thereAfter : ∀ wake, ∀ other ∈ (Function.update world.mTree timer.wakeOnExpire
      (push Delegate.sooner timer (world.mTree timer.wakeOnExpire)) wake).toList,
        other ∉ world.deleted := by
    refine held_update (fun wake => (tree_kept wired kept wake).1) fun other member => ?_
    rcases List.mem_cons.mp (perm.mem_iff.mp member) with rfl | before
    · exact undeleted
    · exact there other before
  refine ⟨kept.unused, ?_, (List.pairwise_cons.mp ordered).2, ?_, ?_, ?_, ?_, kept.fits,
    kept.counted, kept.locks⟩
  · intro other
    have settled := kept.settled other
    simpa [TimerLives.holds, first] using settled
  · intro other
    have placed := kept.placed other
    simp only [first, List.count_cons, beq_iff_eq, ContainerMsg.push.injEq] at placed
    rw [count_update, perm.count_eq, List.count_cons]
    simp only [beq_iff_eq]
    split
    · rename_i same
      rw [same] at placed
      omega
    · omega
  · rintro other (later | held | isPopped)
    · exact kept.undeleted other (.inl (first ▸ List.mem_cons_of_mem _ later))
    · exact thereAfter held.choose other held.choose_spec
    · simp [idle, ExpireTask.timer] at isPopped
  · refine held_update kept.home fun other member => ?_
    rcases List.mem_cons.mp (perm.mem_iff.mp member) with rfl | before
    · rfl
    · exact kept.home _ other before
  · exact sorted_update kept.sorted (sorted_push sooner_ranking timer (kept.sorted _))

/-- What is removed from a heap that holds it once is not in it any more, and the rest is. -/
theorem removed_count {tree : LocHeapNode Delegate} (sorted : tree.Sorted Delegate.sooner)
    {timer : Delegate} (once : tree.toList.count timer ≤ 1) (other : Delegate) :
    ((tree.remove Delegate.sooner timer).getD tree).toList.count other =
      if timer = other then 0 else tree.toList.count other := by
  cases removed : tree.remove Delegate.sooner timer with
  | none =>
    have absent : timer ∉ tree.toList := by
      intro member
      obtain ⟨after, found⟩ := remove_finds sooner_ranking sorted member
      exact absurd (removed.symm.trans found) (by simp)
    split
    · rename_i same
      subst same
      exact List.count_eq_zero.mpr absent
    · rfl
  | some after =>
    have counts := (remove_perm removed).count_eq other
    rw [List.count_cons] at counts
    simp only [beq_iff_eq] at counts
    split
    · rename_i same
      subst same
      simp only [if_true] at counts
      simp only [Option.getD_some]
      omega
    · rename_i other
      simpa [other] using counts

/-- The end of a delegate: it is in no heap and in no message any more. -/
theorem remove_kept (wired : Wired world) (kept : Kept world) {timer : Delegate}
    {rest : List ContainerMsg} (first : world.queue = .remove timer :: rest)
    (idle : world.task = .idle) : Kept ({ world with queue := rest }.proc (.remove timer)) := by
  have queued : .remove timer ∈ world.queue := first ▸ List.mem_cons_self
  obtain ⟨undeleted, known⟩ := undeleted_of_held wired kept (.inr queued)
  obtain ⟨there, treeFits⟩ := tree_kept wired kept timer.wakeOnExpire
  obtain ⟨positive, hasLock⟩ := lock_of_share wired kept (.inr ⟨timer, known, rfl, undeleted⟩)
  have used : TimerLives.use { world with queue := rest }
      (timer :: (world.mTree timer.wakeOnExpire).toList) = { world with queue := rest } :=
    use_eq (List.forall_mem_cons.mpr ⟨undeleted, there⟩)
  have usedLock : TimerLives.useLock { world with queue := rest } timer.mLock =
      { world with queue := rest } := useLock_eq hasLock
  have agree : Agree Delegate.outRanks Delegate.sooner
      (timer :: (world.mTree timer.wakeOnExpire).toList) :=
    agree_of_fits (List.forall_mem_cons.mpr ⟨kept.fits timer known, treeFits⟩)
  have ordered := kept.ordered
  rw [first] at ordered
  obtain ⟨noPush, ordered⟩ := List.pairwise_cons.mp ordered
  simp only [TimerLives.proc, used, TimerLives.drop, usedLock, remove_congr agree]
  have counts := removed_count (kept.sorted timer.wakeOnExpire)
    ((Nat.le_add_left _ _).trans (kept.placed timer))
  have fewer : ∀ other ∈ ((remove Delegate.sooner timer (world.mTree timer.wakeOnExpire)).getD
      (world.mTree timer.wakeOnExpire)).toList, other ∈ (world.mTree timer.wakeOnExpire).toList :=
    fun other member => mem_of_mem_remove member
  have sorted : Sorted Delegate.sooner ((remove Delegate.sooner timer
      (world.mTree timer.wakeOnExpire)).getD (world.mTree timer.wakeOnExpire)) := by
    cases removed : remove Delegate.sooner timer (world.mTree timer.wakeOnExpire) with
    | none => exact kept.sorted _
    | some after => exact sorted_remove sooner_ranking (kept.sorted _) removed
  generalize (remove Delegate.sooner timer (world.mTree timer.wakeOnExpire)).getD
    (world.mTree timer.wakeOnExpire) = after at counts fewer sorted ⊢
  have home : ∀ wake, ∀ other ∈ (Function.update world.mTree timer.wakeOnExpire after wake).toList,
      other.wakeOnExpire = wake :=
    held_update kept.home fun other member => kept.home _ other (fewer other member)
  have stillThere : ∀ wake, ∀ other ∈
      (Function.update world.mTree timer.wakeOnExpire after wake).toList, other ∉ world.deleted :=
    held_update (fun wake => (tree_kept wired kept wake).1)
      fun other member => there other (fewer other member)
  have gone : ∀ wake, timer ∉
      (Function.update world.mTree timer.wakeOnExpire after wake).toList := by
    intro wake member
    rw [← home wake timer member, Function.update_self] at member
    exact List.count_eq_zero.mp ((counts timer).trans (if_pos rfl)) member
  refine ⟨kept.unused, ?_, ordered, ?_, ?_, home, sorted_update kept.sorted sorted, kept.fits,
    ?_, drop_locks kept.locks positive⟩
  · intro other
    have settled := kept.settled other
    simp only [TimerLives.holds, first, List.count_cons, beq_iff_eq,
      ContainerMsg.remove.injEq] at settled ⊢
    omega
  · intro other
    have placed := kept.placed other
    rw [first, List.count_cons_of_ne (by simp)] at placed
    dsimp only
    rw [count_update, counts]
    split
    · rename_i same
      rw [same] at placed
      split
      · omega
      · exact placed
    · exact placed
  · rintro other (later | ⟨wake, held⟩ | isPopped)
    · refine List.not_mem_cons_of_ne_of_not_mem ?_ (kept.undeleted other (.inl ?_))
      · rintro rfl
        exact noPush _ later _ rfl rfl
      · rw [first]
        exact List.mem_cons_of_mem _ later
    · refine List.not_mem_cons_of_ne_of_not_mem ?_ (stillThere wake other held)
      rintro rfl
      exact gone wake held
    · simp [idle, ExpireTask.timer] at isPopped
  · intro client
    have counted := kept.counted client
    by_cases same : client = timer.mLock
    · subst same
      simp only [Function.update_self]
      rw [List.countP_cons_of_pos (by simp)]
      omega
    · simp only [Function.update_of_ne same]
      rw [List.countP_cons_of_neg (by simpa using Ne.symm same)]
      exact counted

theorem taskStep_kept (wired : Wired world) (kept : Kept world) : Kept world.taskStep := by
  unfold TimerLives.taskStep
  cases isAt : world.task with
  | idle =>
    dsimp only
    split
    · exact kept
    · rename_i msg rest first
      have inPlace : ({ world with queue := rest, task := .idle } : TimerLives) =
          { world with queue := rest } := by rw [← isAt]
      rw [inPlace]
      cases msg with
      | push timer => exact push_kept wired kept first isAt
      | remove timer => exact remove_kept wired kept first isAt
      | expire wake =>
        have ordered := kept.ordered
        rw [first] at ordered
        refine kept.frame rfl rfl rfl rfl rfl ⟨rfl, rfl, rfl⟩ ⟨fun timer => ?_, fun timer => ?_⟩
          (List.pairwise_cons.mp ordered).2 nofun
        · rw [first, List.count_cons_of_ne (by simp)]
          rfl
        · rw [first, List.count_cons_of_ne (by simp)]
          rfl
  | expiring wake timerOfNow first =>
    obtain ⟨there, treeFits⟩ := tree_kept wired kept wake
    dsimp only
    rw [use_eq there]
    split
    · exact kept.frame rfl rfl rfl rfl rfl ⟨rfl, rfl, rfl⟩ ⟨fun _ => rfl, fun _ => rfl⟩ kept.ordered
        nofun
    · rename_i timer popped
      have top := (Option.filter_eq_some_iff.mp popped).1
      rw [pop_congr (agree_of_fits treeFits)]
      have fewer : ∀ other ∈ (pop Delegate.sooner (world.mTree wake)).toList,
          other ∈ (world.mTree wake).toList := fun other member => mem_of_mem_pop member
      have thereAfter : ∀ wake', ∀ other ∈ (Function.update world.mTree wake
          (pop Delegate.sooner (world.mTree wake)) wake').toList, other ∉ world.deleted :=
        held_update (fun wake => (tree_kept wired kept wake).1)
          fun other member => there other (fewer other member)
      refine ⟨kept.unused, kept.settled, kept.ordered, fun other => ?_, ?_, ?_, ?_, kept.fits,
        kept.counted, kept.locks⟩
      · have placed := kept.placed other
        dsimp only
        rw [count_update]
        split
        · rename_i same
          have perm : (timer :: (pop Delegate.sooner (world.mTree wake)).toList).Perm
              (world.mTree wake).toList := pop_perm top
          have counts := perm.count_eq other
          rw [List.count_cons] at counts
          rw [same] at placed
          omega
        · exact placed
      · rintro other (queued | held | isPopped)
        · exact kept.undeleted other (.inl queued)
        · exact thereAfter held.choose other held.choose_spec
        · cases isPopped
          exact there timer (mem_of_peek top)
      · exact held_update kept.home fun other member => kept.home wake other (fewer other member)
      · exact sorted_update kept.sorted (sorted_pop sooner_ranking (kept.sorted wake))
  | popped wake timerOfNow timer =>
    have there := kept.undeleted timer (.inr (.inr (by rw [isAt]; rfl)))
    dsimp only
    rw [use_eq (by simpa using there)]
    split
    · exact kept.frame rfl rfl rfl rfl rfl ⟨rfl, rfl, rfl⟩ ⟨fun _ => rfl, fun _ => rfl⟩ kept.ordered
        nofun
    · refine kept.frame rfl rfl rfl rfl rfl ⟨rfl, rfl, rfl⟩ ⟨fun _ => rfl, fun _ => rfl⟩
        kept.ordered ?_
      rintro _ ⟨⟩
      exact there
  | stopping wake timerOfNow timer client =>
    have there := kept.undeleted timer (.inr (.inr (by rw [isAt]; rfl)))
    dsimp only
    split
    · rename_i alive
      have stopped := stopTimer_kept wired kept alive
      cases attached : world.mTimer client with
      | none =>
        rw [stopTimer_of_idle attached] at stopped ⊢
        exact stopped.frame rfl rfl rfl rfl rfl ⟨rfl, rfl, rfl⟩ ⟨fun _ => rfl, fun _ => rfl⟩
          stopped.ordered nofun
      | some taken =>
        rw [stopTimer_of_attached wired attached] at stopped ⊢
        refine stopped.frame rfl rfl rfl rfl rfl ⟨rfl, rfl, rfl⟩ ⟨fun _ => rfl, fun _ => rfl⟩
          stopped.ordered ?_
        rintro _ ⟨⟩
        exact there
    · refine kept.frame rfl rfl rfl rfl rfl ⟨rfl, rfl, rfl⟩ ⟨fun _ => rfl, fun _ => rfl⟩
        kept.ordered ?_
      rintro _ ⟨⟩
      exact there
  | calling wake timerOfNow timer client stopped =>
    have there := kept.undeleted timer (.inr (.inr (by rw [isAt]; rfl)))
    dsimp only
    split
    · exact kept.frame rfl rfl rfl rfl rfl ⟨rfl, rfl, rfl⟩ ⟨fun _ => rfl, fun _ => rfl⟩ kept.ordered
        nofun
    · refine kept.frame rfl rfl rfl rfl rfl ⟨rfl, rfl, rfl⟩ ⟨fun _ => rfl, fun _ => rfl⟩
        kept.ordered ?_
      rintro _ ⟨⟩
      exact there

theorem clock_kept (kept : Kept world) (clock : Timespec) : Kept { world with clock := clock } :=
  kept.frame rfl rfl rfl rfl rfl ⟨rfl, rfl, rfl⟩ ⟨fun _ => rfl, fun _ => rfl⟩ kept.ordered
    fun timer isPopped => kept.undeleted timer (.inr (.inr isPopped))

/-- A timer that is started while the clock leaves room for the longest timeout. -/
theorem newTimer_fits {world : TimerLives} (early : world.clock.tv_sec + 4294968 < 2 ^ 31)
    (client : Nat) (timeOutInMs : UInt32) (wakeOnExpire : Bool) :
    (world.newTimer client timeOutInMs wakeOnExpire).Fits := by
  have bound := timeOutInMs.toNat_lt
  have normal := world.clock.normal
  simp only [Delegate.Fits, TimerLives.newTimer, Timespec.after]
  split
  · simp only
    omega
  · simp only
    omega

theorem step_kept (world : TimerLives) (input : LivesInput) (wired : Wired world)
    (kept : Kept world) (early : world.clock.tv_sec + 4294968 < 2 ^ 31) :
    Kept (world.step input) := by
  unfold TimerLives.step
  split
  · exact kept
  cases input with
  | start client timeOutInMs wakeOnExpire container =>
    dsimp only
    split
    · rename_i alive
      rcases startTimer_cases world client timeOutInMs wakeOnExpire container with
        ⟨idle, -, starts⟩ | ⟨-, refused⟩
      · rw [starts]
        exact started_kept wired kept rfl idle alive (newTimer_fits early ..)
      · rw [refused, useLock_eq (lock_of_share wired kept (.inl alive)).2]
        exact kept
    · exact kept
  | stop client =>
    dsimp only
    split
    · rename_i alive
      exact stopByClient_kept wired kept alive
    · exact kept
  | destroy client =>
    dsimp only
    split
    · rename_i alive
      exact destroyTimer_kept wired kept alive
    · exact kept
  | tick time => exact clock_kept kept _
  | wake wakeOnExpire =>
    refine kept.frame rfl rfl rfl rfl rfl ⟨rfl, rfl, rfl⟩ ⟨fun timer => ?_, fun timer => ?_⟩ ?_
      fun timer isPopped => kept.undeleted timer (.inr (.inr isPopped))
    · simp
    · simp
    · refine List.pairwise_append.mpr ⟨kept.ordered, List.pairwise_singleton _ _, ?_⟩
      rintro earlier - later isLast other - rfl
      cases List.mem_singleton.mp isLast
  | task => exact taskStep_kept wired kept

end kept

/-- Somebody can still get at the delegate. -/
def TimerLives.Reaches (world : TimerLives) (timer : Delegate) : Prop :=
  (∃ client, world.mTimer client = some timer) ∨ .push timer ∈ world.queue ∨
    .remove timer ∈ world.queue ∨ (∃ wake, timer ∈ (world.mTree wake).toList) ∨
    world.task.timer = some timer

/-- As long as the clock leaves room below 2³¹ seconds, no delegate and no lock is used
after its deletion or deleted twice; a deleted delegate is out of reach, one that is not
is on its timer or has its deletion queued; and a lock is deleted exactly when its timer
and all the delegates of that are. A run ends where the message task uses a `LocTimer`
that its client has deleted. -/
theorem delegates_and_locks_are_deleted_once (clock : Timespec) (inputs : List LivesInput)
    (early : ∀ world ∈ states TimerLives.step (.start clock) inputs,
      world.clock.tv_sec + 4294968 < 2 ^ 31) :
    ∀ world ∈ states TimerLives.step (.start clock) inputs,
      world.misused = false ∧ world.deleted.Nodup ∧ world.deletedLocks.Nodup ∧
      (∀ timer ∈ world.deleted, ¬ world.Reaches timer) ∧
      (∀ timer ∈ world.created, timer ∉ world.deleted →
        world.mTimer timer.mLock = some timer ∨ .remove timer ∈ world.queue) ∧
      ∀ client, client ∈ world.deletedLocks ↔ world.alive client = false ∧
        ∀ timer ∈ world.created, timer.mLock = client → timer ∈ world.deleted := by
  intro world visited
  have keeps : ∀ world input, Wired world ∧ Kept world →
      world.clock.tv_sec + 4294968 < 2 ^ 31 →
      Wired (TimerLives.step world input) ∧ Kept (TimerLives.step world input) :=
    fun world input held early =>
      ⟨step_wired world input held.1, step_kept world input held.1 held.2 early⟩
  obtain ⟨wired, kept⟩ := invariant_while keeps inputs ⟨start_wired clock, start_kept clock⟩
    (fun taken member => early taken.1 (state_of_mem_steps member)) world visited
  obtain ⟨distinct, among⟩ := deleted_distinct wired kept
  refine ⟨kept.unused, distinct, ?_, ?_, ?_, fun client => ?_⟩
  · rw [List.nodup_iff_count_le_one]
    intro client
    rw [kept.locks client]
    split <;> omega
  · rintro timer gone (⟨client, attached⟩ | queued | removing | held)
    · obtain ⟨-, rfl, -⟩ := wired.attached client timer attached
      exact (undeleted_of_held wired kept (.inl attached)).1 gone
    · exact kept.undeleted timer (.inl queued) gone
    · exact (undeleted_of_held wired kept (.inr removing)).1 gone
    · exact kept.undeleted timer (.inr held) gone
  · intro timer member undeleted
    have settled := kept.settled timer
    have present := List.count_pos_iff.mpr member
    simp only [TimerLives.holds, List.count_eq_zero.mpr undeleted] at settled
    by_contra neither
    obtain ⟨detached, unqueued⟩ := not_or.mp neither
    have noTimer : (world.mTimer timer.mLock).toList.count timer = 0 :=
      List.count_eq_zero.mpr (by simpa using detached)
    rw [noTimer, List.count_eq_zero.mpr unqueued] at settled
    omega
  · constructor
    · intro gone
      by_contra still
      refine (lock_of_share wired kept ?_).2 gone
      by_cases alive : world.alive client = true
      · exact .inl alive
      · refine .inr ?_
        by_contra none
        refine still ⟨by simpa using alive, fun timer member isLock => ?_⟩
        by_contra undeleted
        exact none ⟨timer, member, isLock, undeleted⟩
    · rintro ⟨dead, allDeleted⟩
      have counted := kept.counted client
      have same : world.created.countP (·.mLock = client) ≤
          world.deleted.countP (·.mLock = client) := by
        rw [List.countP_eq_length_filter, List.countP_eq_length_filter]
        refine ((wired.distinct.filter _).subperm fun timer member => ?_).length_le
        obtain ⟨created, isLock⟩ := List.mem_filter.mp member
        exact List.mem_filter.mpr ⟨allDeleted timer created (by simpa using isLock), isLock⟩
      have zero : world.mRef client = 0 := by
        rw [if_neg (by simp [dead])] at counted
        omega
      have locks := kept.locks client
      rw [if_pos zero] at locks
      exact List.count_pos_iff.mp (by omega)

theorem called_back_timer_is_deleted :
    let last := calledBackTimer.foldl TimerLives.step (.start ⟨1, 0, by decide, by decide⟩)
    last.deleted = last.created ∧ last.deletedLocks.Nodup ∧ 0 ∈ last.deletedLocks := by
  have held := delegates_and_locks_are_deleted_once ⟨1, 0, by decide, by decide⟩ calledBackTimer
    (by decide) _ (end_mem_states _ _)
  exact ⟨by decide, held.2.2.1, (held.2.2.2.2.2 0).mpr (by decide)⟩

end Msm8917Common.Timer
