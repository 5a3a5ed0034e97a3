import Msm8917Common.Runs
import Msm8917Common.LocTimer

/-! The wake-ups of the timers: none is lost, whatever the threads do in between.
A callback can come early, and only through the pop that `MsgTimerExpire` makes
without looking at the time, or for a timer that was started again while the one
before it expired. -/
namespace Msm8917Common.Timer.TimerProofs
open Runs LocHeapNode

/-- The poll thread will be woken at that time or before. -/
def Timerfd.WakesBy (fd : Timerfd) (time : Timespec) : Prop :=
  fd.polled = true ∧ ∃ armed ∈ fd.armed, armed ≤ time

/-- A `MsgTimerExpire` is queued, or the poll thread is about to queue one. -/
def ExpireComing (world : TimerWorld) : Prop :=
  .expire ∈ world.queue ∨ world.pollTask ≠ .waiting

/-- The calls that the message task has still to make for its message, where the
loop of `MsgTimerExpire` would end now. -/
def toMake (world : TimerWorld) : List DeviceCall :=
  match world.msgTask with
  | .processing calls => calls
  | _ => updateSoonestTime world.mTree none

/-- A wake-up is on its way for the top of the heap. Between messages there is no
call to make, and during a message those to come are counted as made. -/
def NoLostWakeUp (world : TimerWorld) : Prop :=
  ∀ top ∈ world.mTree.peek, ExpireComing world ∨
    Timerfd.WakesBy ((toMake world).foldl Timerfd.call world.fd) top.mFutureTime

section WakeUp
variable {world : TimerWorld}

private theorem timespec_le_refl (time : Timespec) : time ≤ time := Nat.le_refl time.nanos

/-- An update for a top that is new to the kernel arms the timerfd for it. -/
private theorem updated_wakes {mTree : LocHeapNode LocTimerDelegate}
    {priorTop : Option LocTimerDelegate} {top : LocTimerDelegate} (fd : Timerfd)
    (held : mTree.peek = some top) (changed : mTree.peek ≠ priorTop)
    (sooner : priorTop.all top.outRanks = true) :
    Timerfd.WakesBy ((updateSoonestTime mTree priorTop).foldl Timerfd.call fd)
      top.mFutureTime := by
  rw [held] at changed
  simp only [updateSoonestTime, held, if_neg changed, sooner, if_true, List.foldl_cons,
    List.foldl_nil, Timerfd.call]
  exact ⟨rfl, top.mFutureTime, rfl, timespec_le_refl _⟩

private theorem refreshed_wakes {mTree : LocHeapNode LocTimerDelegate} {top : LocTimerDelegate}
    (fd : Timerfd) (held : mTree.peek = some top) :
    Timerfd.WakesBy ((updateSoonestTime mTree none).foldl Timerfd.call fd) top.mFutureTime :=
  updated_wakes fd held (by simp [held]) rfl

/-- What changes neither the heap nor the timerfd, and withdraws no message. -/
private theorem NoLostWakeUp.frame {after : TimerWorld} (kept : NoLostWakeUp world)
    (tree : after.mTree = world.mTree) (calls : toMake after = toMake world)
    (fd : after.fd = world.fd) (coming : ExpireComing world → ExpireComing after) :
    NoLostWakeUp after := by
  intro top held
  rw [tree] at held
  rw [calls, fd]
  exact (kept top held).imp_left coming

private theorem NoLostWakeUp.clock (clock : Timespec) (kept : NoLostWakeUp world) :
    NoLostWakeUp { world with clock := clock } :=
  kept.frame rfl rfl rfl id

/-- A message that is processed: the top of the heap is as it was, or the kernel
is told. -/
private theorem proc_keeps {msg : TimerMsg} {rest : List TimerMsg}
    (kept : NoLostWakeUp world) (idle : world.msgTask = .processing [])
    (first : world.queue = msg :: rest) :
    NoLostWakeUp ({ world with queue := rest }.proc msg) := by
  have same_top : ∀ top, world.mTree.peek = some top → msg ≠ .expire →
      ExpireComing { world with queue := rest } ∨ Timerfd.WakesBy world.fd top.mFutureTime := by
    intro top held other
    have before := kept top held
    simp only [toMake, idle, List.foldl_nil] at before
    refine before.imp_left fun coming => ?_
    rcases coming with queued | polling
    · rw [first] at queued
      exact .inl ((List.mem_cons.mp queued).resolve_left (Ne.symm other))
    · exact .inr polling
  cases msg with
  | push timer =>
    intro top pushed
    simp only [TimerWorld.proc] at pushed
    simp only [toMake, TimerWorld.proc]
    by_cases same : (push LocTimerDelegate.outRanks timer world.mTree).peek = world.mTree.peek
    · simp only [updateSoonestTime, if_pos same, List.foldl_nil]
      exact same_top top (same.symm.trans pushed) (by simp)
    · refine .inr (updated_wakes world.fd pushed same ?_)
      rw [peek_push] at pushed same
      cases prior : world.mTree.peek with
      | none => rfl
      | some old =>
        simp only [prior, Option.some.injEq] at pushed same
        split at pushed
        · next sooner =>
          cases pushed
          exact sooner
        · next later => exact absurd (if_neg later) same
  | remove timer =>
    intro top held
    simp only [TimerWorld.proc] at held
    simp only [toMake, TimerWorld.proc]
    by_cases gone : world.mTree.peek = if (remove LocTimerDelegate.outRanks timer
        world.mTree).isSome then some timer else none
    · rw [if_pos gone]
      exact .inr (refreshed_wakes world.fd held)
    · rw [if_neg gone, List.foldl_nil]
      cases removal : remove LocTimerDelegate.outRanks timer world.mTree with
      | none =>
        rw [removal] at held
        exact same_top top held (by simp)
      | some after =>
        rw [removal] at held gone
        exact same_top top ((peek_remove removal gone).symm.trans held) (by simp)
  | expire =>
    intro top held
    exact .inr (refreshed_wakes world.fd held)

private theorem coming_of_sent {sent : TimerMsg} (coming : ExpireComing world) :
    ExpireComing (world.sendMsg sent) :=
  coming.imp_left (List.mem_append_left [sent])

private theorem startTimer_keeps (client : Nat) (timeOutInMs : UInt32)
    (kept : NoLostWakeUp world) : NoLostWakeUp (world.startTimer client timeOutInMs) := by
  unfold TimerWorld.startTimer
  split
  · exact kept
  · exact kept.frame rfl rfl rfl coming_of_sent

private theorem stopTimer_keeps (client : Nat) (kept : NoLostWakeUp world) :
    NoLostWakeUp (world.stopTimer client).1 := by
  unfold TimerWorld.stopTimer
  split
  · exact kept
  · exact kept.frame rfl rfl rfl coming_of_sent

/-- The loop of `MsgTimerExpire` and the `expire` in it end with a refresh. -/
private theorem expiring_keeps (expiring : ∀ calls, world.msgTask ≠ .processing calls) :
    NoLostWakeUp world := by
  intro top held
  have refresh : toMake world = updateSoonestTime world.mTree none := by
    unfold toMake
    split
    · next calls processing => exact absurd processing (expiring calls)
    · rfl
  rw [refresh]
  exact .inr (refreshed_wakes world.fd held)

private theorem task_keeps (kept : NoLostWakeUp world) : NoLostWakeUp world.task := by
  unfold TimerWorld.task
  split
  · next idle =>
    split
    · exact kept
    · next first => exact proc_keeps kept idle first
  · next call calls processing =>
    intro top held
    have before := kept top held
    simp only [toMake, processing, List.foldl_cons] at before
    exact before
  · split
    · intro top held
      exact .inr (refreshed_wakes world.fd held)
    · exact expiring_keeps (by simp)
  · split <;> exact expiring_keeps (by simp)
  · split <;> exact expiring_keeps (by simp)
  · exact expiring_keeps (by simp)

/-- While the poll thread is not waiting, it is going to queue a `MsgTimerExpire`. -/
private theorem poll_keeps (kept : NoLostWakeUp world) : NoLostWakeUp world.poll := by
  unfold TimerWorld.poll
  split
  · exact kept
  · exact fun _ _ => .inl (.inr (by simp))
  · exact fun _ _ => .inl (.inr (by simp))
  · exact fun _ _ => .inl (.inl (by simp [TimerWorld.sendMsg]))

private theorem step_keeps (input : TimerInput) (kept : NoLostWakeUp world) :
    NoLostWakeUp (world.step input) := by
  cases input with
  | start client timeOutInMs => exact startTimer_keeps client timeOutInMs kept
  | stop client => exact stopTimer_keeps client kept
  | tick time => exact kept.clock _
  | wake =>
    simp only [TimerWorld.step, TimerWorld.wake]
    split
    · exact fun _ _ => .inl (.inr (by simp))
    · exact kept
  | poll => exact poll_keeps kept
  | task => exact task_keeps kept

end WakeUp

/-- No wake-up is lost, in any interleaving of the threads. -/
theorem no_wake_up_is_lost (clock : Timespec) (inputs : List TimerInput) :
    ∀ world ∈ states TimerWorld.step (.start clock) inputs, NoLostWakeUp world :=
  invariant_states (fun _ input kept => step_keeps input kept) inputs (fun _ held => by cases held)

/-- A timer that is started while the timer thread waits. -/
theorem started_timer_wakes_the_thread :
    NoLostWakeUp ([.poll, .start 1 5000, .task, .poll].foldl TimerWorld.step
      (.start ⟨1, 0, by decide, by decide⟩)) :=
  no_wake_up_is_lost ⟨1, 0, by decide, by decide⟩ _ _ (end_mem_states _ _)

/-- No client is called back before the future time of the timer that was taken off it
for that. -/
def NoEarlyCallback (world : TimerWorld) (input : TimerInput) : Prop :=
  ∀ client timer, world.callback input = some (client, timer) → timer.mFutureTime ≤ world.clock

/-- Where `MsgTimerExpire` makes its first pop, the top of the heap is due, unless
it is stopped already and only its removal is still queued. Where the client of a
popped timer is stopped, a timer that it runs by then instead of that one is due. -/
def DueWhenTaken (world : TimerWorld) : TimerInput → Prop
  | .task =>
    match world.msgTask with
    | .expiring _ true => ∀ top ∈ world.mTree.peek,
        (world.mClient top).isSome → top.mFutureTime ≤ world.clock
    | .stopping _ timer client => ∀ started ∈ world.mTimer client,
        started ≠ timer → started.mFutureTime ≤ world.clock
    | _ => True
  | _ => True

instance (world : TimerWorld) (input : TimerInput) : Decidable (DueWhenTaken world input) := by
  unfold DueWhenTaken
  split
  · split <;> infer_instance
  · infer_instance

/-- No timeout reaches further than an `unsigned int` of milliseconds. -/
def Near (time : Timespec) (timer : LocTimerDelegate) : Prop :=
  timer.mFutureTime.tv_sec ≤ time.tv_sec + 4294968

/-- What the loop of `MsgTimerExpire` compares with. -/
def timerOfNow : MsgTask → Option Timespec
  | .processing _ => none
  | .expiring now _ | .popped now _ | .stopping now _ _ | .calling now _ _ _ => some now

/-- What the message task has popped, and not yet gone on to stop. -/
def poppedTimer : MsgTask → Option LocTimerDelegate
  | .popped _ timer => some timer
  | _ => none

/-- A delegate that was created, and is no further off than an `int` can tell. -/
structure Known (world : TimerWorld) (timer : LocTimerDelegate) : Prop where
  created : timer.address < world.allocated
  near : Near world.clock timer

/-- What holds between the clients, the messages and the heap: a delegate that has
its client is the timer of that client, and what waits for its time is known. -/
structure Wired (world : TimerWorld) : Prop where
  named : ∀ timer client, world.mClient timer = some client → world.mTimer client = some timer
  held : ∀ timer ∈ world.mTree.toList, Known world timer
  queued : ∀ timer, .push timer ∈ world.queue → Known world timer
  popped : ∀ timer ∈ poppedTimer world.msgTask, Known world timer
  now_past : ∀ now ∈ timerOfNow world.msgTask,
    now ≤ world.clock ∧ ∀ timer ∈ world.mTree.toList, Near now timer

/-- What the message task is going to call back is due, if it is going to. -/
def TakenDue (world : TimerWorld) : Prop :=
  match world.msgTask with
  | .popped _ timer => (world.mClient timer).isSome → timer.mFutureTime ≤ world.clock
  | .stopping _ timer _ => timer.mFutureTime ≤ world.clock
  | .calling _ _ _ stopped => stopped.mFutureTime ≤ world.clock
  | _ => True

section Callback
variable {world : TimerWorld}

private theorem tv_sec_mono {one other : Timespec} (order : one ≤ other) :
    one.tv_sec ≤ other.tv_sec := by
  have nanos : one.nanos ≤ other.nanos := order
  have := one.normal
  have := other.normal
  simp only [Timespec.nanos] at nanos
  omega

private theorem toInt_of_small {difference : Int} (low : -2147483648 ≤ difference)
    (high : difference < 2147483648) : Timespec.toInt difference = difference := by
  apply Int.bmod_eq_of_le
  all_goals omega

/-- A pop that looks at the time pops nothing that is not due: the seconds that an
`int` cuts off are all on the side of what is overdue. -/
private theorem due_of_not_outRanks {time other : Timespec}
    (near : other.tv_sec ≤ time.tv_sec + 4294968) (passed : time.outRanks other = false) :
    other ≤ time := by
  have := time.normal
  have := other.normal
  have ranked : ¬ time.ranks other > 0 := of_decide_eq_false passed
  change other.nanos ≤ time.nanos
  simp only [Timespec.nanos]
  rcases Nat.lt_trichotomy other.tv_sec time.tv_sec with overdue | same | ahead
  · omega
  · have nsec : Timespec.toInt (other.tv_nsec - time.tv_nsec) = other.tv_nsec - time.tv_nsec :=
      toInt_of_small (by omega) (by omega)
    simp only [Timespec.ranks, same, Int.sub_self] at ranked
    rw [if_pos (by decide), nsec] at ranked
    omega
  · have sec : Timespec.toInt (other.tv_sec - time.tv_sec) = other.tv_sec - time.tv_sec :=
      toInt_of_small (by omega) (by omega)
    simp only [Timespec.ranks, sec] at ranked
    rw [if_neg (by omega)] at ranked
    omega

private theorem near_after (now : Timespec) (timeOutInMs : UInt32) (address : Nat) :
    Near now ⟨address, now.after timeOutInMs⟩ := by
  have bound := timeOutInMs.toNat_lt
  have := now.normal
  simp only [Near, Timespec.after]
  split
  · simp only
    omega
  · simp only
    omega

/-- A step that creates no timer and takes none off its client. -/
private theorem Wired.frame {next : TimerWorld} (wired : Wired world)
    (mTimer : next.mTimer = world.mTimer) (mClient : next.mClient = world.mClient)
    (allocated : next.allocated = world.allocated) (clock : next.clock = world.clock)
    (held : ∀ timer ∈ next.mTree.toList, Known world timer)
    (queued : ∀ timer, .push timer ∈ next.queue → Known world timer)
    (popped : ∀ timer ∈ poppedTimer next.msgTask, Known world timer)
    (now_past : ∀ now ∈ timerOfNow next.msgTask,
      now ≤ world.clock ∧ ∀ timer ∈ next.mTree.toList, Near now timer) : Wired next := by
  have known : ∀ timer, Known world timer → Known next timer := fun timer is =>
    ⟨allocated ▸ is.created, clock ▸ is.near⟩
  refine ⟨?_, fun timer member => known timer (held timer member),
    fun timer member => known timer (queued timer member),
    fun timer member => known timer (popped timer member), ?_⟩
  · rw [mTimer, mClient]
    exact wired.named
  · rw [clock]
    exact now_past

private theorem startTimer_wired (client : Nat) (timeOutInMs : UInt32) (wired : Wired world) :
    Wired (world.startTimer client timeOutInMs) := by
  unfold TimerWorld.startTimer
  split
  · exact wired
  · next idle =>
    have known : ∀ timer, Known world timer → timer.address < world.allocated + 1 ∧
        Near world.clock timer := fun timer is => ⟨Nat.lt_succ_of_lt is.created, is.near⟩
    refine ⟨fun timer other found => ?_, fun timer held => ?_, fun timer queued => ?_,
      fun timer popped => ?_, wired.now_past⟩
    · simp only [TimerWorld.sendMsg] at found ⊢
      by_cases isNew : timer = ⟨world.allocated, world.clock.after timeOutInMs⟩
      · rw [isNew, Function.update_self] at found
        cases found
        rw [Function.update_self, isNew]
      · rw [Function.update_of_ne isNew] at found
        have running := wired.named timer other found
        have apart : other ≠ client := by
          rintro rfl
          rw [idle] at running
          cases running
        rw [Function.update_of_ne apart, running]
    · obtain ⟨created, near⟩ := known timer (wired.held timer held)
      exact ⟨created, near⟩
    · simp only [TimerWorld.sendMsg, List.mem_append, List.mem_singleton] at queued
      rcases queued with earlier | now
      · obtain ⟨created, near⟩ := known timer (wired.queued timer earlier)
        exact ⟨created, near⟩
      · cases now
        exact ⟨Nat.lt_succ_self _, near_after world.clock timeOutInMs _⟩
    · obtain ⟨created, near⟩ := known timer (wired.popped timer popped)
      exact ⟨created, near⟩

private theorem stopTimer_wired (client : Nat) (wired : Wired world) :
    Wired (world.stopTimer client).1 := by
  unfold TimerWorld.stopTimer
  split
  · exact wired
  · next stopped running =>
    refine ⟨fun timer other found => ?_, fun timer held => ?_, fun timer queued => ?_,
      fun timer popped => ?_, wired.now_past⟩
    · simp only [TimerWorld.sendMsg] at found ⊢
      by_cases same : timer = stopped
      · rw [same, Function.update_self] at found
        cases found
      · rw [Function.update_of_ne same] at found
        have held := wired.named timer other found
        have apart : other ≠ client := by
          rintro rfl
          rw [running] at held
          exact same (Option.some.inj held).symm
        rw [Function.update_of_ne apart, held]
    · exact ⟨(wired.held timer held).created, (wired.held timer held).near⟩
    · simp only [TimerWorld.sendMsg, List.mem_append, List.mem_singleton, reduceCtorEq,
        or_false] at queued
      exact ⟨(wired.queued timer queued).created, (wired.queued timer queued).near⟩
    · exact ⟨(wired.popped timer popped).created, (wired.popped timer popped).near⟩

/-- What a message leaves in the heap was in it, or was on its way. -/
private theorem proc_wired {msg : TimerMsg} {rest : List TimerMsg} (wired : Wired world)
    (first : world.queue = msg :: rest) : Wired ({ world with queue := rest }.proc msg) := by
  have later : ∀ timer, .push timer ∈ rest → Known world timer := fun timer queued =>
    wired.queued timer (first ▸ List.mem_cons_of_mem msg queued)
  cases msg with
  | push timer =>
    refine wired.frame rfl rfl rfl rfl (fun other held => ?_) later (fun _ task => by cases task)
      fun _ task => by cases task
    have member := (push_perm timer world.mTree).mem_iff.mp held
    rcases List.mem_cons.mp member with rfl | before
    · exact wired.queued other (first ▸ List.mem_cons_self)
    · exact wired.held other before
  | remove timer =>
    refine wired.frame rfl rfl rfl rfl (fun other held => ?_) later (fun _ task => by cases task)
      fun _ task => by cases task
    simp only [TimerWorld.proc] at held
    cases removal : remove LocTimerDelegate.outRanks timer world.mTree with
    | none =>
      rw [removal] at held
      exact wired.held other held
    | some after =>
      rw [removal] at held
      exact wired.held other ((remove_perm removal).mem_iff.mp (List.mem_cons_of_mem timer held))
  | expire =>
    refine wired.frame rfl rfl rfl rfl wired.held later (fun _ task => by cases task) ?_
    rintro _ ⟨⟩
    exact ⟨timespec_le_refl _, fun timer held => (wired.held timer held).near⟩

private theorem task_wired (wired : Wired world) : Wired world.task := by
  unfold TimerWorld.task
  split
  · split
    · exact wired
    · next first => exact proc_wired wired first
  · exact wired.frame rfl rfl rfl rfl wired.held wired.queued (fun _ task => by cases task)
      fun _ task => by cases task
  · next expiring =>
    obtain ⟨past, near⟩ := wired.now_past _ (by rw [expiring]; rfl)
    split
    · exact wired.frame rfl rfl rfl rfl wired.held wired.queued (fun _ task => by cases task)
        fun _ task => by cases task
    · next timer popped =>
      have top : world.mTree.peek = some timer := (Option.filter_eq_some_iff.mp popped).1
      have left : ∀ other ∈ (pop LocTimerDelegate.outRanks world.mTree).toList,
          other ∈ world.mTree.toList := fun other held =>
        (pop_perm top).mem_iff.mp (List.mem_cons_of_mem timer held)
      refine wired.frame rfl rfl rfl rfl (fun other held => wired.held other (left other held))
        wired.queued ?_ ?_
      · rintro _ ⟨⟩
        exact wired.held timer (mem_of_peek top)
      · rintro _ ⟨⟩
        exact ⟨past, fun other held => near other (left other held)⟩
  · next reading =>
    have past := wired.now_past _ (by rw [reading]; rfl)
    split
    all_goals
      refine wired.frame rfl rfl rfl rfl wired.held wired.queued (fun _ task => by cases task) ?_
      rintro _ ⟨⟩
      exact past
  · next client stopping =>
    have stopped := stopTimer_wired client wired
    have past := wired.now_past _ (by rw [stopping]; rfl)
    have clock : (world.stopTimer client).1.clock = world.clock ∧
        (world.stopTimer client).1.mTree = world.mTree := by
      unfold TimerWorld.stopTimer
      split <;> exact ⟨rfl, rfl⟩
    rw [← clock.1, ← clock.2] at past
    split
    all_goals
      next isNext =>
      rw [isNext] at stopped past
      refine stopped.frame rfl rfl rfl rfl stopped.held stopped.queued
        (fun _ task => by cases task) ?_
      rintro _ ⟨⟩
      exact past
  · next calling =>
    refine wired.frame rfl rfl rfl rfl wired.held wired.queued (fun _ task => by cases task) ?_
    rintro _ ⟨⟩
    exact wired.now_past _ (by rw [calling]; rfl)

private theorem tick_wired {clock : Timespec} (wired : Wired world)
    (forward : world.clock ≤ clock) : Wired { world with clock := clock } := by
  have known : ∀ timer, Known world timer → Known { world with clock := clock } timer :=
    fun timer is => ⟨is.created, Nat.le_trans is.near (Nat.add_le_add_right (tv_sec_mono forward) _)⟩
  refine ⟨wired.named, fun timer held => known timer (wired.held timer held),
    fun timer queued => known timer (wired.queued timer queued),
    fun timer popped => known timer (wired.popped timer popped), fun now expiring => ?_⟩
  obtain ⟨past, near⟩ := wired.now_past now expiring
  exact ⟨Nat.le_trans past forward, near⟩

private theorem poll_wired (wired : Wired world) : Wired world.poll := by
  unfold TimerWorld.poll
  split
  · exact wired
  · exact wired.frame rfl rfl rfl rfl wired.held wired.queued wired.popped wired.now_past
  · exact wired.frame rfl rfl rfl rfl wired.held wired.queued wired.popped wired.now_past
  · refine wired.frame rfl rfl rfl rfl wired.held (fun timer queued => ?_) wired.popped
      wired.now_past
    simp only [TimerWorld.sendMsg, List.mem_append, List.mem_singleton, reduceCtorEq,
      or_false] at queued
    exact wired.queued timer queued

private theorem step_wired (input : TimerInput) (wired : Wired world) :
    Wired (world.step input) := by
  cases input with
  | start client timeOutInMs => exact startTimer_wired client timeOutInMs wired
  | stop client => exact stopTimer_wired client wired
  | tick time =>
    simp only [TimerWorld.step]
    split
    · next forward => exact tick_wired wired forward
    · exact tick_wired wired (timespec_le_refl _)
  | wake =>
    simp only [TimerWorld.step, TimerWorld.wake]
    split
    · exact wired.frame rfl rfl rfl rfl wired.held wired.queued wired.popped wired.now_past
    · exact wired
  | poll => exact poll_wired wired
  | task => exact task_wired wired

/-- What is popped stays due, whether or not it still has its client. -/
private theorem TakenDue.frame {next : TimerWorld} (due : TakenDue world)
    (msgTask : next.msgTask = world.msgTask) (clock : world.clock ≤ next.clock)
    (fewer : ∀ timer ∈ poppedTimer world.msgTask, (next.mClient timer).isSome →
      (world.mClient timer).isSome) : TakenDue next := by
  unfold TakenDue at due ⊢
  rw [msgTask]
  split
  · next timer isPopped =>
    simp only [isPopped] at due fewer
    exact fun named => Nat.le_trans (due (fewer timer rfl named)) clock
  · next isStopping =>
    simp only [isStopping] at due
    exact Nat.le_trans due clock
  · next isCalling =>
    simp only [isCalling] at due
    exact Nat.le_trans due clock
  · trivial

private theorem tick_takenDue {clock : Timespec} (due : TakenDue world)
    (forward : world.clock ≤ clock) : TakenDue { world with clock := clock } :=
  due.frame rfl forward fun _ _ => id

private theorem startTimer_takenDue (client : Nat) (timeOutInMs : UInt32) (wired : Wired world)
    (due : TakenDue world) : TakenDue (world.startTimer client timeOutInMs) := by
  unfold TimerWorld.startTimer
  split
  · exact due
  · refine due.frame rfl (timespec_le_refl _) fun timer popped named => ?_
    have created := (wired.popped timer popped).created
    have old : timer ≠ ⟨world.allocated, world.clock.after timeOutInMs⟩ := by
      rintro rfl
      exact Nat.lt_irrefl _ created
    simpa only [TimerWorld.sendMsg, Function.update_of_ne old] using named

private theorem stopTimer_takenDue (client : Nat) (due : TakenDue world) :
    TakenDue (world.stopTimer client).1 := by
  unfold TimerWorld.stopTimer
  split
  · exact due
  · next stopped running =>
    refine due.frame rfl (timespec_le_refl _) fun timer _ named => ?_
    simp only [TimerWorld.sendMsg] at named
    by_cases same : timer = stopped
    · rw [same, Function.update_self] at named
      cases named
    · rwa [Function.update_of_ne same] at named

/-- A later pop looks at the time, and the condition is about the first and about what
a client is started with in between. -/
private theorem task_takenDue (wired : Wired world) (due : TakenDue world)
    (met : DueWhenTaken world .task) : TakenDue world.task := by
  unfold TimerWorld.task
  unfold DueWhenTaken at met
  split
  · split
    · exact due
    · next msg rest first => cases msg <;> trivial
  · trivial
  · next now first expiring =>
    split
    · trivial
    · next timer popped =>
      obtain ⟨top, passed⟩ := Option.filter_eq_some_iff.mp popped
      intro named
      cases first with
      | true =>
        simp only [expiring] at met
        exact met timer top named
      | false =>
        obtain ⟨past, near⟩ := wired.now_past now (by rw [expiring]; rfl)
        have overdue : timer.mFutureTime ≤ now :=
          due_of_not_outRanks (near timer (mem_of_peek top)) (by simpa using passed)
        exact Nat.le_trans overdue past
  · next timer reading =>
    unfold TakenDue at due
    simp only [reading] at due
    split
    · trivial
    · next client named => exact due (by rw [named]; rfl)
  · next timer client stopping =>
    unfold TakenDue at due
    simp only [stopping] at due met
    unfold TimerWorld.stopTimer
    cases running : world.mTimer client with
    | none => trivial
    | some started =>
      change started.mFutureTime ≤ world.clock
      by_cases same : started = timer
      · exact same ▸ due
      · exact met started running same
  · trivial

private theorem step_takenDue (input : TimerInput) (wired : Wired world) (due : TakenDue world)
    (met : DueWhenTaken world input) : TakenDue (world.step input) := by
  cases input with
  | start client timeOutInMs => exact startTimer_takenDue client timeOutInMs wired due
  | stop client => exact stopTimer_takenDue client due
  | tick time =>
    simp only [TimerWorld.step]
    split
    · next forward => exact tick_takenDue due forward
    · exact tick_takenDue due (timespec_le_refl _)
  | wake =>
    simp only [TimerWorld.step, TimerWorld.wake]
    split
    · exact due.frame rfl (timespec_le_refl _) fun _ _ => id
    · exact due
  | poll =>
    simp only [TimerWorld.step, TimerWorld.poll]
    split
    · exact due
    all_goals exact due.frame rfl (timespec_le_refl _) fun _ _ => id
  | task => exact task_takenDue wired due met

private theorem no_early_of_takenDue (input : TimerInput) (due : TakenDue world) :
    NoEarlyCallback world input := by
  intro client timer called
  cases input with
  | task =>
    unfold TakenDue at due
    simp only [TimerWorld.callback] at called
    split at called
    · next isCalling =>
      cases called
      simpa only [isCalling] using due
    · cases called
  | _ => cases called

/-- What is taken too early is called back too early, where the message task goes on
before anyone else does. -/
private theorem early_of_not_due {input : TimerInput} (wired : Wired world)
    (early : ¬ DueWhenTaken world input) :
    ∃ more, ∃ late ∈ steps TimerWorld.step world (List.replicate more .task),
      ¬ NoEarlyCallback late.1 late.2 := by
  cases input with
  | task =>
    simp only [DueWhenTaken] at early
    split at early
    · next now expiring =>
      simp only [not_forall] at early
      obtain ⟨top, held, named, early⟩ := early
      obtain ⟨client, named⟩ := Option.isSome_iff_exists.mp named
      have popped : world.popped now true = some top := Option.filter_eq_some_iff.mpr ⟨held, rfl⟩
      have running := wired.named top client named
      have late := @last_mem_steps_replicate _ _ TimerWorld.step world .task 3
      generalize reached : (List.replicate 3 TimerInput.task).foldl TimerWorld.step world = last
        at late
      have last_is : last.callback .task = some (client, top) ∧ last.clock = world.clock := by
        simp [← reached, TimerWorld.step, TimerWorld.task, expiring, popped, named,
          TimerWorld.stopTimer, running, TimerWorld.callback, TimerWorld.sendMsg,
          List.replicate_succ]
      exact ⟨4, _, late, fun onTime => early (last_is.2 ▸ onTime client top last_is.1)⟩
    · next now timer client stopping =>
      simp only [not_forall] at early
      obtain ⟨started, running, other, early⟩ := early
      have late := @last_mem_steps_replicate _ _ TimerWorld.step world .task 1
      generalize reached : (List.replicate 1 TimerInput.task).foldl TimerWorld.step world = last
        at late
      have last_is : last.callback .task = some (client, started) ∧ last.clock = world.clock := by
        simp only [Option.mem_def] at running
        simp [← reached, TimerWorld.step, TimerWorld.task, stopping, TimerWorld.stopTimer, running,
          TimerWorld.callback, TimerWorld.sendMsg]
      exact ⟨2, _, late, fun onTime => early (last_is.2 ▸ onTime client started last_is.1)⟩
    · exact absurd trivial early
  | _ => exact absurd trivial early

end Callback

private theorem start_wired (clock : Timespec) : Wired (.start clock) where
  named _ _ found := by cases found
  held _ member := by cases member
  queued _ queued := by cases queued
  popped _ popped := by cases popped
  now_past _ expiring := by cases expiring

/-- In a run in which everything is due when it is taken, every callback comes at its
time or later. And wherever something is taken before, the message task alone can go on
to an early callback. -/
theorem callbacks_are_on_time_where_all_is_due (clock : Timespec) (inputs : List TimerInput) :
    ((∀ taken ∈ steps TimerWorld.step (.start clock) inputs, DueWhenTaken taken.1 taken.2) →
      ∀ taken ∈ steps TimerWorld.step (.start clock) inputs, NoEarlyCallback taken.1 taken.2) ∧
    ∀ taken ∈ steps TimerWorld.step (.start clock) inputs, DueWhenTaken taken.1 taken.2 ∨
      ∃ more, ∃ late ∈ steps TimerWorld.step taken.1 (List.replicate more .task),
        ¬ NoEarlyCallback late.1 late.2 := by
  constructor
  · intro met taken member
    have kept : ∀ world input, Wired world ∧ TakenDue world → DueWhenTaken world input →
        Wired (world.step input) ∧ TakenDue (world.step input) := fun world input held due =>
      ⟨step_wired input held.1, step_takenDue input held.1 held.2 due⟩
    have due := invariant_while kept inputs ⟨start_wired clock, trivial⟩ met taken.1
      (state_of_mem_steps member)
    exact no_early_of_takenDue taken.2 due.2
  · intro taken member
    have wired := invariant_states (fun _ input held => step_wired input held) inputs
      (start_wired clock) taken.1 (state_of_mem_steps member)
    exact or_iff_not_imp_left.mpr (early_of_not_due wired)

/-- A timer of 10 ms, its wake-up and its callback. -/
def timerOfTenMs : List TimerInput :=
  [.start 0 10, .task, .task, .task, .tick ⟨1, 10000000, by decide, by decide⟩, .wake, .poll, .poll,
    .poll, .task, .task, .task, .task]

theorem ten_ms_are_waited :
    (timerOfTenMs.foldl TimerWorld.step (.start ⟨1, 0, by decide, by decide⟩)).callback .task =
        some (0, ⟨0, ⟨1, 10000000, by decide, by decide⟩⟩) ∧
      NoEarlyCallback
        (timerOfTenMs.foldl TimerWorld.step (.start ⟨1, 0, by decide, by decide⟩)) .task := by
  constructor
  · decide
  have waited := (callbacks_are_on_time_where_all_is_due ⟨1, 0, by decide, by decide⟩
    (timerOfTenMs ++ [.task])).1 (by decide)
  have last := waited _ (last_mem_steps _ timerOfTenMs .task)
  exact last

/-- The wake-up for a timer of 10 ms is under way when that timer is stopped. The
message it leads to pops the timer of 100 ms, which is on top of the heap by then. -/
theorem stopped_timer_makes_the_next_one_early :
    ¬ ∀ clock inputs, ∀ taken ∈ steps TimerWorld.step (.start clock) inputs,
      NoEarlyCallback taken.1 taken.2 := by
  intro onTime
  have early := onTime ⟨1, 0, by decide, by decide⟩ _ _ (last_mem_steps _
    [.start 0 10, .start 1 100, .task, .task, .task, .task,
      .tick ⟨1, 10000000, by decide, by decide⟩, .wake, .poll, .stop 0, .poll, .poll,
      .task, .task, .task, .task, .task, .task, .task] .task)
  have due := early 1 ⟨1, ⟨1, 100000000, by decide, by decide⟩⟩ (by decide)
  exact absurd due (by decide)

end Msm8917Common.Timer.TimerProofs
