import Msm8917Common.LocHeapProofs
import Msm8917Common.Runs
import Msm8917Common.TimerLives

/-! Every delegate of a timer is deleted once and after its last use, every start of a
timer ends once, and the callback of a timer is for the timer that was popped exactly
when its client is not started before the message task stops it, and not deleted before
the message task calls it back. -/
namespace Msm8917Common.Timer
open Runs LocHeapNode

/-- The delegate that the message task has popped. -/
def ExpireTask.timer : ExpireTask → Option Delegate
  | .popped _ _ timer | .stopping _ _ timer _ | .calling _ _ timer _ _ => some timer
  | _ => none

/-- The timer that the message task is going to use. -/
def ExpireTask.client : ExpireTask → Option Nat
  | .stopping _ _ _ client | .calling _ _ _ client _ => some client
  | _ => none

/-- What the message task has taken off its timer, and not called back for yet. -/
def ExpireTask.stopped : ExpireTask → Option Delegate
  | .calling _ _ _ _ stopped => some stopped
  | _ => none

/-- What is created, and who knows whom. -/
structure Wired (world : TimerLives) : Prop where
  fresh : ∀ timer ∈ world.created, timer.address < world.created.length
  distinct : world.created.Nodup
  attached : ∀ client timer, world.mTimer client = some timer →
    timer ∈ world.created ∧ timer.mLock = client ∧ world.mClient timer = some client ∧
      world.mContainer timer = true ∧ world.alive client = true
  named : ∀ timer client, world.mClient timer = some client → world.mTimer client = some timer
  queued : ∀ timer, .push timer ∈ world.queue → timer ∈ world.created
  held : ∀ wakeOnExpire, ∀ timer ∈ (world.mTree wakeOnExpire).toList, timer ∈ world.created
  popped : ∀ timer, world.task.timer = some timer → timer ∈ world.created

theorem start_wired (clock : Timespec) : Wired (.start clock) := by
  constructor <;> simp [TimerLives.start, toList, ExpireTask.timer]

section wired

variable {world next : TimerLives}

/-- A step that neither starts nor stops a timer. -/
theorem Wired.frame (wired : Wired world) (created : next.created = world.created)
    (mTimer : next.mTimer = world.mTimer) (mClient : next.mClient = world.mClient)
    (mContainer : next.mContainer = world.mContainer) (alive : next.alive = world.alive)
    (queued : ∀ timer, .push timer ∈ next.queue → timer ∈ world.created)
    (held : ∀ wakeOnExpire, ∀ timer ∈ (next.mTree wakeOnExpire).toList, timer ∈ world.created)
    (popped : ∀ timer, next.task.timer = some timer → timer ∈ world.created) : Wired next := by
  constructor
  · rw [created]
    exact wired.fresh
  · rw [created]
    exact wired.distinct
  · rw [created, mTimer, mClient, mContainer, alive]
    exact wired.attached
  · rw [mTimer, mClient]
    exact wired.named
  · rw [created]
    exact queued
  · rw [created]
    exact held
  · rw [created]
    exact popped

/-- The delegate that a start creates. -/
def TimerLives.newTimer (world : TimerLives) (client : Nat) (timeOutInMs : UInt32)
    (wakeOnExpire : Bool) : Delegate :=
  ⟨⟨world.created.length, world.clock.after timeOutInMs⟩, client, wakeOnExpire⟩

theorem startTimer_cases (world : TimerLives) (client : Nat) (timeOutInMs : UInt32)
    (wakeOnExpire container : Bool) :
    (world.mTimer client = none ∧ container = true ∧
      world.startTimer client timeOutInMs wakeOnExpire container =
        world.started (world.newTimer client timeOutInMs wakeOnExpire)) ∨
    ((world.mTimer client ≠ none ∨ container = false) ∧
      world.startTimer client timeOutInMs wakeOnExpire container = world.useLock client) := by
  cases idle : world.mTimer client <;> cases container <;>
    simp [TimerLives.startTimer, idle, TimerLives.newTimer]

theorem not_created_of_new (wired : Wired world) {timer : Delegate}
    (isNew : timer.address = world.created.length) : timer ∉ world.created :=
  fun member => Nat.lt_irrefl _ (isNew ▸ wired.fresh timer member)

theorem started_wired (wired : Wired world) {timer : Delegate}
    (isNew : timer.address = world.created.length) (idle : world.mTimer timer.mLock = none)
    (alive : world.alive timer.mLock = true) : Wired (world.started timer) := by
  have unknown := not_created_of_new wired isNew
  constructor
  · intro other member
    rcases List.mem_cons.mp member with rfl | member
    · exact isNew ▸ Nat.lt_succ_self _
    · exact Nat.lt_succ_of_lt (wired.fresh other member)
  · exact List.nodup_cons.mpr ⟨unknown, wired.distinct⟩
  · intro other attached isAttached
    simp only [TimerLives.started] at isAttached ⊢
    by_cases same : other = timer.mLock
    · subst same
      simp only [Function.update_self, Option.some.injEq] at isAttached
      subst isAttached
      exact ⟨List.mem_cons_self, rfl, Function.update_self .., Function.update_self .., alive⟩
    · simp only [Function.update_of_ne same] at isAttached
      obtain ⟨member, isLock, named, inside, isAlive⟩ := wired.attached other attached isAttached
      have different : attached ≠ timer := fun isTimer => unknown (isTimer ▸ member)
      rw [Function.update_of_ne different, Function.update_of_ne different]
      exact ⟨List.mem_cons_of_mem _ member, isLock, named, inside, isAlive⟩
  · intro other named isNamed
    simp only [TimerLives.started] at isNamed ⊢
    by_cases same : other = timer
    · subst same
      simp only [Function.update_self, Option.some.injEq] at isNamed
      subst isNamed
      exact Function.update_self ..
    · simp only [Function.update_of_ne same] at isNamed
      have attached := wired.named other named isNamed
      have different : named ≠ timer.mLock := by
        rintro rfl
        exact absurd (idle.symm.trans attached) (by simp)
      rw [Function.update_of_ne different]
      exact attached
  · intro other queued
    rcases List.mem_append.mp queued with before | now
    · exact List.mem_cons_of_mem _ (wired.queued other before)
    · cases List.mem_singleton.mp now
      exact List.mem_cons_self
  · exact fun wake other member => List.mem_cons_of_mem _ (wired.held wake other member)
  · exact fun other popped => List.mem_cons_of_mem _ (wired.popped other popped)

theorem startTimer_wired (wired : Wired world) {client : Nat} (alive : world.alive client = true)
    (timeOutInMs : UInt32) (wakeOnExpire container : Bool) :
    Wired (world.startTimer client timeOutInMs wakeOnExpire container) := by
  rcases startTimer_cases world client timeOutInMs wakeOnExpire container with
    ⟨idle, -, starts⟩ | ⟨-, refused⟩
  · rw [starts]
    exact started_wired wired rfl idle alive
  · rw [refused]
    exact wired.frame rfl rfl rfl rfl rfl wired.queued wired.held wired.popped

/-- A `stop` that takes a delegate off its timer. -/
def TimerLives.takenOff (world : TimerLives) (timer : Delegate) : TimerLives :=
  { world with
    mTimer := Function.update world.mTimer timer.mLock none
    mClient := Function.update world.mClient timer none
    mContainer := Function.update world.mContainer timer false
    queue := world.queue ++ [.remove timer]
    misused := world.misused || world.deletedLocks.contains timer.mLock ||
      world.deleted.contains timer }

theorem stopTimer_of_idle {client : Nat} (idle : world.mTimer client = none) :
    world.stopTimer client = (world.useLock client, none) := by
  simp only [TimerLives.stopTimer, idle]

theorem stopTimer_of_attached (wired : Wired world) {client : Nat} {timer : Delegate}
    (attached : world.mTimer client = some timer) :
    world.stopTimer client = (world.takenOff timer, some timer) := by
  obtain ⟨-, rfl, -, inside, -⟩ := wired.attached client timer attached
  simp [TimerLives.stopTimer, attached, TimerLives.destroyLocked, TimerLives.use,
    TimerLives.useLock, inside, TimerLives.takenOff]

theorem takenOff_wired (wired : Wired world) {timer : Delegate}
    (isAttached : world.mTimer timer.mLock = some timer) : Wired (world.takenOff timer) := by
  refine ⟨wired.fresh, wired.distinct, ?_, ?_, ?_, wired.held, wired.popped⟩
  · intro other attached stillAttached
    simp only [TimerLives.takenOff] at stillAttached ⊢
    have elsewhere : other ≠ timer.mLock := by
      rintro rfl
      simp at stillAttached
    simp only [Function.update_of_ne elsewhere] at stillAttached
    obtain ⟨created, otherLock, named, inside, alive⟩ := wired.attached other attached stillAttached
    have different : attached ≠ timer := by
      rintro rfl
      exact elsewhere otherLock.symm
    simp only [Function.update_of_ne different]
    exact ⟨created, otherLock, named, inside, alive⟩
  · intro other otherClient isNamed
    simp only [TimerLives.takenOff] at isNamed ⊢
    have different : other ≠ timer := by
      rintro rfl
      simp at isNamed
    simp only [Function.update_of_ne different] at isNamed
    have attached := wired.named other otherClient isNamed
    have elsewhere : otherClient ≠ timer.mLock := by
      rintro rfl
      exact different (Option.some.inj (attached.symm.trans isAttached))
    rw [Function.update_of_ne elsewhere]
    exact attached
  · intro other queued
    exact wired.queued other (by simpa [TimerLives.takenOff] using queued)

/-- What `stop` leaves behind. -/
theorem stopTimer_wired (wired : Wired world) (client : Nat) :
    Wired (world.stopTimer client).1 ∧ (world.stopTimer client).1.mTimer client = none := by
  cases attached : world.mTimer client with
  | none =>
    rw [stopTimer_of_idle attached]
    exact ⟨wired.frame rfl rfl rfl rfl rfl wired.queued wired.held wired.popped, attached⟩
  | some timer =>
    obtain ⟨-, rfl, -⟩ := wired.attached client timer attached
    rw [stopTimer_of_attached wired attached]
    exact ⟨takenOff_wired wired attached, Function.update_self ..⟩

theorem stopByClient_wired (wired : Wired world) (client : Nat) :
    Wired (world.stopByClient client) ∧ (world.stopByClient client).mTimer client = none := by
  obtain ⟨stopped, idle⟩ := stopTimer_wired wired client
  generalize isNext : world.stopTimer client = left at stopped idle
  simp only [TimerLives.stopByClient, isNext]
  exact ⟨stopped.frame rfl rfl rfl rfl rfl stopped.queued stopped.held stopped.popped, idle⟩

theorem stopByClient_alive (world : TimerLives) (client : Nat) :
    (world.stopByClient client).alive = world.alive := by
  cases attached : world.mTimer client <;>
    simp [TimerLives.stopByClient, TimerLives.stopTimer, attached, TimerLives.useLock,
      TimerLives.destroyLocked, TimerLives.use]

theorem destroyTimer_wired (wired : Wired world) (client : Nat) :
    Wired (world.destroyTimer client) := by
  obtain ⟨stopped, idle⟩ := stopByClient_wired wired client
  have sameAlive := stopByClient_alive world client
  generalize isNext : world.stopByClient client = left at stopped idle sameAlive
  simp only [TimerLives.destroyTimer, isNext, ← sameAlive]
  refine ⟨stopped.fresh, stopped.distinct, fun other timer attached => ?_, stopped.named, stopped.queued,
    stopped.held, stopped.popped⟩
  obtain ⟨member, isLock, named, inside, alive⟩ := stopped.attached other timer attached
  have different : other ≠ client := by
    rintro rfl
    exact absurd (idle.symm.trans attached) (by simp)
  exact ⟨member, isLock, named, inside, (Function.update_of_ne different ..).trans alive⟩

theorem held_update {holds : Bool → Delegate → Prop} {mTree : Bool → LocHeapNode Delegate}
    (held : ∀ wake, ∀ timer ∈ (mTree wake).toList, holds wake timer) {changed : Bool}
    {tree : LocHeapNode Delegate} (inside : ∀ timer ∈ tree.toList, holds changed timer) :
    ∀ wake, ∀ timer ∈ (Function.update mTree changed tree wake).toList, holds wake timer := by
  intro wake timer member
  by_cases same : wake = changed
  · subst same
    rw [Function.update_self] at member
    exact inside timer member
  · rw [Function.update_of_ne same] at member
    exact held wake timer member

theorem mem_of_mem_remove {outRanks : Delegate → Delegate → Bool} {timer other : Delegate}
    {tree : LocHeapNode Delegate} (member : other ∈ ((tree.remove outRanks timer).getD tree).toList) :
    other ∈ tree.toList := by
  cases removed : tree.remove outRanks timer with
  | none => simpa [removed] using member
  | some after =>
    simp only [removed, Option.getD_some] at member
    exact (remove_perm removed).mem_iff.mp (List.mem_cons_of_mem _ member)

theorem taskStep_wired (wired : Wired world) : Wired world.taskStep := by
  unfold TimerLives.taskStep
  cases isAt : world.task with
  | idle =>
    dsimp only
    split
    · exact wired
    · rename_i msg rest first
      have queued : ∀ timer, .push timer ∈ rest → timer ∈ world.created :=
        fun timer member => wired.queued timer (first ▸ List.mem_cons_of_mem _ member)
      cases msg with
      | push timer =>
        have known := wired.queued timer (first ▸ List.mem_cons_self)
        refine wired.frame rfl rfl rfl rfl rfl queued (held_update wired.held ?_) nofun
        intro other member
        rcases List.mem_cons.mp ((push_perm timer _).mem_iff.mp member) with rfl | before
        · exact known
        · exact wired.held timer.wakeOnExpire other before
      | remove timer =>
        refine wired.frame rfl rfl rfl rfl rfl queued (held_update wired.held ?_) nofun
        exact fun other member => wired.held timer.wakeOnExpire other (mem_of_mem_remove member)
      | expire wake => exact wired.frame rfl rfl rfl rfl rfl queued wired.held nofun
  | expiring wake timerOfNow first =>
    dsimp only
    split
    · exact wired.frame rfl rfl rfl rfl rfl wired.queued wired.held nofun
    · rename_i timer popped
      have top := (Option.filter_eq_some_iff.mp popped).1
      refine wired.frame rfl rfl rfl rfl rfl wired.queued (held_update wired.held ?_) ?_
      · exact fun other member => wired.held wake other (mem_of_mem_pop member)
      · rintro _ ⟨⟩
        exact wired.held wake timer (mem_of_peek top)
  | popped wake timerOfNow timer =>
    have known := wired.popped timer (by rw [isAt]; rfl)
    dsimp only
    split
    · exact wired.frame rfl rfl rfl rfl rfl wired.queued wired.held nofun
    · refine wired.frame rfl rfl rfl rfl rfl wired.queued wired.held ?_
      rintro _ ⟨⟩
      exact known
  | stopping wake timerOfNow timer client =>
    have known := wired.popped timer (by rw [isAt]; rfl)
    dsimp only
    split
    · cases attached : world.mTimer client with
      | none =>
        rw [stopTimer_of_idle attached]
        exact wired.frame rfl rfl rfl rfl rfl wired.queued wired.held nofun
      | some stopped =>
        obtain ⟨-, rfl, -⟩ := wired.attached client stopped attached
        have left := takenOff_wired wired attached
        rw [stopTimer_of_attached wired attached]
        refine left.frame rfl rfl rfl rfl rfl left.queued left.held ?_
        rintro _ ⟨⟩
        exact known
    · refine wired.frame rfl rfl rfl rfl rfl wired.queued wired.held ?_
      rintro _ ⟨⟩
      exact known
  | calling wake timerOfNow timer client stopped =>
    have known := wired.popped timer (by rw [isAt]; rfl)
    dsimp only
    split
    · exact wired.frame rfl rfl rfl rfl rfl wired.queued wired.held nofun
    · refine wired.frame rfl rfl rfl rfl rfl wired.queued wired.held ?_
      rintro _ ⟨⟩
      exact known

theorem clock_wired (wired : Wired world) (clock : Timespec) :
    Wired { world with clock := clock } :=
  wired.frame rfl rfl rfl rfl rfl wired.queued wired.held wired.popped

theorem step_wired (world : TimerLives) (input : LivesInput) (wired : Wired world) :
    Wired (world.step input) := by
  unfold TimerLives.step
  split
  · exact wired
  cases input with
  | start client timeOutInMs wakeOnExpire container =>
    dsimp only
    split
    · rename_i alive
      exact startTimer_wired wired alive timeOutInMs wakeOnExpire container
    · exact wired
  | stop client =>
    dsimp only
    split
    · exact (stopByClient_wired wired client).1
    · exact wired
  | destroy client =>
    dsimp only
    split
    · exact destroyTimer_wired wired client
    · exact wired
  | tick time => exact clock_wired wired _
  | wake wakeOnExpire =>
    refine wired.frame rfl rfl rfl rfl rfl (fun timer queued => ?_) wired.held wired.popped
    rcases List.mem_append.mp queued with before | now
    · exact wired.queued timer before
    · cases List.mem_singleton.mp now
  | task => exact taskStep_wired wired

end wired

section aimed

variable {world next : TimerLives}

/-- The client that is stopped is there, and has the timer that was popped or none; the
client that is called back is there, and was stopped with the timer that was popped. -/
def ExpireTask.Aimed (alive : Nat → Bool) (mTimer : Nat → Option Delegate) : ExpireTask → Prop
  | .stopping _ _ timer client =>
    alive client = true ∧ ∀ other, mTimer client = some other → other = timer
  | .calling _ _ timer client stopped => alive client = true ∧ stopped = timer
  | _ => True

/-- No deleted timer was used, and every callback was for the timer that was popped. -/
structure WellAimed (world : TimerLives) : Prop where
  defined : world.deadClient = false
  behind : ∀ client popped stopped, .calledBack client popped stopped ∈ world.endings →
    stopped = popped

/-- And it is going to stay so, if the message task goes on alone. -/
structure Aimed (world : TimerLives) : Prop extends WellAimed world where
  ahead : world.task.Aimed world.alive world.mTimer

/-- The client that the message task has read from a popped timer is not started before
the message task stops it, and not deleted before it is called back. -/
def Unraced (world : TimerLives) : LivesInput → Prop
  | .start client _ _ container => ∀ wake timerOfNow timer,
    world.task = .stopping wake timerOfNow timer client →
      container = true → world.mTimer client ≠ none
  | .destroy client => world.task.client ≠ some client
  | _ => True

theorem start_aimed (clock : Timespec) : Aimed (.start clock) :=
  ⟨⟨rfl, fun _ _ _ called => absurd called List.not_mem_nil⟩, trivial⟩

/-- Fewer delegates on their timers make a task no worse. -/
theorem ExpireTask.Aimed.fewer {task : ExpireTask} {alive other : Nat → Bool}
    {mTimer left : Nat → Option Delegate} (aimed : task.Aimed alive mTimer)
    (still : ∀ client, task.client = some client → other client = alive client)
    (fewer : ∀ client timer, left client = some timer → mTimer client = some timer) :
    task.Aimed other left := by
  cases task with
  | stopping wake timerOfNow timer client =>
    exact ⟨(still client rfl).trans aimed.1,
      fun timer attached => aimed.2 timer (fewer client timer attached)⟩
  | calling wake timerOfNow timer client stopped =>
    exact ⟨(still client rfl).trans aimed.1, aimed.2⟩
  | _ => trivial

theorem alive_of_aimed (aimed : Aimed world) {client : Nat}
    (uses : world.task.client = some client) : world.alive client = true := by
  have ahead := aimed.ahead
  cases isAt : world.task with
  | stopping wake timerOfNow timer named =>
    rw [isAt] at ahead uses
    cases uses
    exact ahead.1
  | calling wake timerOfNow timer named stopped =>
    rw [isAt] at ahead uses
    cases uses
    exact ahead.1
  | _ =>
    rw [isAt] at uses
    cases uses

theorem started_aimed_iff (wired : Wired world) (aimed : Aimed world) {timer : Delegate}
    (isNew : timer.address = world.created.length) :
    Aimed (world.started timer) ↔
      ∀ wake timerOfNow popped, world.task ≠ .stopping wake timerOfNow popped timer.mLock := by
  constructor
  · intro next wake timerOfNow popped isAt
    have ahead : ExpireTask.Aimed world.alive
        (Function.update world.mTimer timer.mLock (some timer)) world.task := next.ahead
    rw [isAt] at ahead
    have same := ahead.2 timer (Function.update_self ..)
    exact not_created_of_new wired isNew
      (same ▸ wired.popped popped (by rw [isAt]; rfl))
  · intro elsewhere
    refine ⟨⟨aimed.defined, aimed.behind⟩, ?_⟩
    have ahead := aimed.ahead
    change ExpireTask.Aimed world.alive
      (Function.update world.mTimer timer.mLock (some timer)) world.task
    cases isAt : world.task with
    | stopping wake timerOfNow popped client =>
      rw [isAt] at ahead
      have other : client ≠ timer.mLock := by
        rintro rfl
        exact elsewhere wake timerOfNow popped isAt
      exact ⟨ahead.1, by rw [Function.update_of_ne other]; exact ahead.2⟩
    | calling wake timerOfNow popped client stopped =>
      rw [isAt] at ahead
      exact ahead
    | _ => trivial

theorem startTimer_aimed_iff (wired : Wired world) (aimed : Aimed world) (client : Nat)
    (timeOutInMs : UInt32) (wakeOnExpire container : Bool) :
    Aimed (world.startTimer client timeOutInMs wakeOnExpire container) ↔
      Unraced world (.start client timeOutInMs wakeOnExpire container) := by
  rcases startTimer_cases world client timeOutInMs wakeOnExpire container with
    ⟨idle, given, starts⟩ | ⟨taken, refused⟩
  · rw [starts, started_aimed_iff wired aimed rfl]
    constructor
    · intro elsewhere wake timerOfNow timer isAt
      exact absurd isAt (elsewhere wake timerOfNow timer)
    · intro unraced wake timerOfNow timer isAt
      exact unraced wake timerOfNow timer isAt given idle
  · rw [refused]
    refine iff_of_true ⟨⟨aimed.defined, aimed.behind⟩, aimed.ahead⟩ ?_
    rintro wake timerOfNow timer - given
    exact taken.resolve_right (by simp [given])

theorem stopTimer_fewer (wired : Wired world) (client : Nat) :
    ∀ other timer, (world.stopTimer client).1.mTimer other = some timer →
      world.mTimer other = some timer := by
  intro other timer attached
  cases isAttached : world.mTimer client with
  | none =>
    rw [stopTimer_of_idle isAttached] at attached
    exact attached
  | some taken =>
    obtain ⟨-, rfl, -⟩ := wired.attached client taken isAttached
    rw [stopTimer_of_attached wired isAttached] at attached
    simp only [TimerLives.takenOff] at attached
    by_cases same : other = taken.mLock
    · simp [same] at attached
    · rwa [Function.update_of_ne same] at attached

/-- What a client's `stop` leaves as it was. -/
theorem stopByClient_keeps (wired : Wired world) (client : Nat) :
    (world.stopByClient client).deadClient = world.deadClient ∧
      (world.stopByClient client).task = world.task ∧
      (world.stopByClient client).alive = world.alive ∧
      (∀ other timer, (world.stopByClient client).mTimer other = some timer →
        world.mTimer other = some timer) ∧
      ∀ other popped stopped, .calledBack other popped stopped ∈
        (world.stopByClient client).endings → .calledBack other popped stopped ∈ world.endings := by
  have fewer := stopTimer_fewer wired client
  cases attached : world.mTimer client with
  | none =>
    rw [stopTimer_of_idle attached] at fewer
    simp only [TimerLives.stopByClient, stopTimer_of_idle attached]
    exact ⟨rfl, rfl, rfl, fewer, by simp [TimerLives.useLock]⟩
  | some taken =>
    rw [stopTimer_of_attached wired attached] at fewer
    simp only [TimerLives.stopByClient, stopTimer_of_attached wired attached]
    exact ⟨rfl, rfl, rfl, fewer, by simp [TimerLives.takenOff]⟩

theorem stopByClient_aimed (wired : Wired world) (aimed : Aimed world) (client : Nat) :
    Aimed (world.stopByClient client) := by
  obtain ⟨dead, task, alive, fewer, endings⟩ := stopByClient_keeps wired client
  refine ⟨⟨dead.trans aimed.defined, fun other popped stopped called =>
    aimed.behind other popped stopped (endings other popped stopped called)⟩, ?_⟩
  rw [task, alive]
  exact aimed.ahead.fewer (fun _ _ => rfl) fewer

theorem destroyTimer_aimed_iff (wired : Wired world) (aimed : Aimed world) (client : Nat) :
    Aimed (world.destroyTimer client) ↔ world.task.client ≠ some client := by
  have stopped := stopByClient_aimed wired aimed client
  obtain ⟨-, task, alive, -⟩ := stopByClient_keeps wired client
  generalize isNext : world.stopByClient client = next at stopped task alive
  simp only [TimerLives.destroyTimer, isNext]
  constructor
  · intro after uses
    have gone := alive_of_aimed after (task ▸ uses)
    simp at gone
  · intro elsewhere
    refine ⟨⟨stopped.defined, stopped.behind⟩, ?_⟩
    refine stopped.ahead.fewer (fun other uses => ?_) fun _ _ attached => attached
    have different : other ≠ client := by
      rintro rfl
      exact elsewhere (task ▸ uses)
    rw [alive]
    exact Function.update_of_ne different ..

theorem taskStep_aimed (wired : Wired world) (aimed : Aimed world) : Aimed world.taskStep := by
  have ahead := aimed.ahead
  unfold TimerLives.taskStep
  cases isAt : world.task with
  | idle =>
    dsimp only
    split
    · exact aimed
    · rename_i msg rest first
      cases msg <;> exact ⟨⟨aimed.defined, aimed.behind⟩, trivial⟩
  | expiring wake timerOfNow first =>
    dsimp only
    split <;> exact ⟨⟨aimed.defined, aimed.behind⟩, trivial⟩
  | popped wake timerOfNow timer =>
    dsimp only
    split
    · exact ⟨⟨aimed.defined, aimed.behind⟩, trivial⟩
    · rename_i client named
      have attached := wired.named timer client named
      refine ⟨⟨aimed.defined, aimed.behind⟩, (wired.attached client timer attached).2.2.2.2, ?_⟩
      intro other isOther
      exact Option.some.inj (isOther.symm.trans attached)
  | stopping wake timerOfNow timer client =>
    rw [isAt] at ahead
    simp only [ahead.1, if_true]
    cases attached : world.mTimer client with
    | none =>
      rw [stopTimer_of_idle attached]
      exact ⟨⟨aimed.defined, aimed.behind⟩, trivial⟩
    | some stopped =>
      rw [stopTimer_of_attached wired attached]
      exact ⟨⟨aimed.defined, aimed.behind⟩, ahead.1, ahead.2 stopped attached⟩
  | calling wake timerOfNow timer client stopped =>
    rw [isAt] at ahead
    simp only [ahead.1, if_true]
    refine ⟨⟨aimed.defined, fun other popped late called => ?_⟩, trivial⟩
    rcases List.mem_append.mp called with before | now
    · exact aimed.behind other popped late before
    · cases List.mem_singleton.mp now
      exact ahead.2

theorem clock_aimed (aimed : Aimed world) (clock : Timespec) : Aimed { world with clock := clock } :=
  ⟨⟨aimed.defined, aimed.behind⟩, aimed.ahead⟩

theorem step_aimed_iff (world : TimerLives) (input : LivesInput) (wired : Wired world)
    (aimed : Aimed world) : Aimed (world.step input) ↔ Unraced world input := by
  unfold TimerLives.step
  rw [if_neg (by simp [aimed.defined])]
  cases input with
  | start client timeOutInMs wakeOnExpire container =>
    dsimp only
    split
    · exact startTimer_aimed_iff wired aimed client timeOutInMs wakeOnExpire container
    · rename_i gone
      refine iff_of_true aimed fun wake timerOfNow timer isAt => ?_
      exact absurd (alive_of_aimed aimed (by rw [isAt]; rfl)) gone
  | stop client =>
    dsimp only
    split
    · exact iff_of_true (stopByClient_aimed wired aimed client) trivial
    · exact iff_of_true aimed trivial
  | destroy client =>
    dsimp only
    split
    · exact destroyTimer_aimed_iff wired aimed client
    · rename_i gone
      exact iff_of_true aimed fun uses => gone (alive_of_aimed aimed uses)
  | tick time => exact iff_of_true (clock_aimed aimed _) trivial
  | wake wakeOnExpire => exact iff_of_true ⟨⟨aimed.defined, aimed.behind⟩, aimed.ahead⟩ trivial
  | task => exact iff_of_true (taskStep_aimed wired aimed) trivial

/-- The message task on its own, for a number of steps. -/
def TimerLives.alone (world : TimerLives) (more : ℕ) : TimerLives :=
  (List.replicate more LivesInput.task).foldl TimerLives.step world

theorem alone_aimed (wired : Wired world) (aimed : Aimed world) (more : ℕ) :
    Aimed (world.alone more) := by
  induction more generalizing world with
  | zero => exact aimed
  | succ more ih =>
    have running : world.step .task = world.taskStep := by
      simp [TimerLives.step, aimed.defined]
    have next := ih (taskStep_wired wired) (taskStep_aimed wired aimed)
    rwa [← running] at next

/-- What is aimed is what the message task alone cannot spoil. -/
theorem aimed_iff_alone (wired : Wired world) :
    Aimed world ↔ ∀ more, WellAimed (world.alone more) := by
  refine ⟨fun aimed more => (alone_aimed wired aimed more).toWellAimed, fun always => ?_⟩
  have now : WellAimed world := always 0
  have one : world.alone 1 = world.taskStep := by
    simp [TimerLives.alone, TimerLives.step, now.defined]
  have next : WellAimed world.taskStep := one ▸ always 1
  have two : world.alone 2 = world.taskStep.taskStep := by
    simp [TimerLives.alone, TimerLives.step, now.defined, next.defined, List.replicate_succ]
  have last : WellAimed world.taskStep.taskStep := two ▸ always 2
  refine ⟨now, ?_⟩
  cases isAt : world.task with
  | stopping wake timerOfNow timer client =>
    have alive : world.alive client = true := by
      by_contra gone
      have dead := next.defined
      simp [TimerLives.taskStep, isAt, gone] at dead
    refine ⟨alive, fun other attached => ?_⟩
    obtain ⟨-, rfl, -⟩ := wired.attached client other attached
    refine last.behind other.mLock timer other ?_
    simp [TimerLives.taskStep, isAt, alive, stopTimer_of_attached wired attached,
      TimerLives.takenOff]
  | calling wake timerOfNow timer client stopped =>
    have alive : world.alive client = true := by
      by_contra gone
      have dead := next.defined
      simp [TimerLives.taskStep, isAt, gone] at dead
    refine ⟨alive, next.behind client timer stopped ?_⟩
    simp [TimerLives.taskStep, isAt, alive]
  | _ => trivial

end aimed

/-- After every step, and however far the message task then goes on alone, it has used no
deleted timer and has called clients back only for what it had popped, exactly when no
step of the run starts such a client before the message task stops it, or deletes it
before the message task calls it back. -/
theorem callbacks_are_aimed_iff_unraced (clock : Timespec) (inputs : List LivesInput) :
    (∀ taken ∈ steps TimerLives.step (.start clock) inputs,
        ∀ more, WellAimed ((taken.1.step taken.2).alone more)) ↔
      ∀ taken ∈ steps TimerLives.step (.start clock) inputs, Unraced taken.1 taken.2 := by
  have each := always_iff_each_step step_wired step_aimed_iff inputs (start_wired clock)
    (start_aimed clock)
  rw [← each, forall_states_iff]
  have known := (forall_states_iff (TimerLives.start clock) inputs).mp
    (invariant_states step_wired inputs (start_wired clock))
  constructor
  · exact fun always => ⟨start_aimed clock, fun taken member =>
      (aimed_iff_alone (known.2 taken member)).mpr (always taken member)⟩
  · exact fun aimed taken member =>
      (aimed_iff_alone (known.2 taken member)).mp (aimed.2 taken member)

section ended

variable {world next : TimerLives}

def Ending.timer : Ending → Delegate
  | .stopped timer => timer
  | .calledBack _ _ taken => taken

/-- The ends that a start has had, or has still to come to. -/
def TimerLives.ends (world : TimerLives) (timer : Delegate) : Nat :=
  (world.endings.map Ending.timer).count timer + world.task.stopped.toList.count timer +
    (world.mTimer timer.mLock).toList.count timer

/-- Every start has one end, behind or ahead of it. -/
def EndsOnce (world : TimerLives) : Prop :=
  ∀ timer, world.ends timer = world.created.count timer

/-- A step that starts and ends nothing. -/
theorem EndsOnce.frame (once : EndsOnce world) (created : next.created = world.created)
    (mTimer : next.mTimer = world.mTimer) (endings : next.endings = world.endings)
    (stopped : next.task.stopped = world.task.stopped) : EndsOnce next := by
  intro timer
  simp only [TimerLives.ends, created, mTimer, endings, stopped]
  exact once timer

theorem count_toList_some (timer other : Delegate) :
    (some timer).toList.count other = if timer = other then 1 else 0 := by
  simp [List.count_singleton]

/-- What is created is on its timer. -/
theorem started_attached {timer : Delegate} (idle : world.mTimer timer.mLock = none)
    (other : Delegate) :
    ((world.started timer).mTimer other.mLock).toList.count other =
      (world.mTimer other.mLock).toList.count other + if timer = other then 1 else 0 := by
  simp only [TimerLives.started]
  by_cases lock : other.mLock = timer.mLock
  · rw [lock, idle, Function.update_self, count_toList_some]
    simp
  · have different : timer ≠ other := fun same => lock (same ▸ rfl)
    rw [Function.update_of_ne lock, if_neg different]
    rfl

theorem started_endsOnce (once : EndsOnce world) {timer : Delegate}
    (idle : world.mTimer timer.mLock = none) : EndsOnce (world.started timer) := by
  intro other
  have before := once other
  simp only [TimerLives.ends, started_attached idle]
  simp only [TimerLives.ends, TimerLives.started, TimerLives.useLock, List.count_cons,
    beq_iff_eq] at before ⊢
  omega

/-- What comes off its timer has its end ahead no more. -/
theorem takenOff_attached (world : TimerLives) {timer : Delegate}
    (isAttached : world.mTimer timer.mLock = some timer) (other : Delegate) :
    (world.mTimer other.mLock).toList.count other =
      ((world.takenOff timer).mTimer other.mLock).toList.count other +
        if timer = other then 1 else 0 := by
  simp only [TimerLives.takenOff]
  by_cases lock : other.mLock = timer.mLock
  · rw [lock, isAttached, Function.update_self, count_toList_some]
    simp
  · have different : timer ≠ other := fun same => lock (same ▸ rfl)
    rw [Function.update_of_ne lock, if_neg different]
    rfl

theorem stopByClient_endsOnce (wired : Wired world) (once : EndsOnce world) (client : Nat) :
    EndsOnce (world.stopByClient client) := by
  cases attached : world.mTimer client with
  | none =>
    simp only [TimerLives.stopByClient, stopTimer_of_idle attached]
    exact once.frame rfl rfl (by simp [TimerLives.useLock]) rfl
  | some timer =>
    obtain ⟨-, rfl, -⟩ := wired.attached client timer attached
    simp only [TimerLives.stopByClient, stopTimer_of_attached wired attached]
    intro other
    have before := once other
    simp only [TimerLives.ends, takenOff_attached world attached other] at before
    simp only [TimerLives.ends, Option.toList_some, List.map_append, List.map_cons, List.map_nil,
      List.count_append, List.count_singleton, Ending.timer, beq_iff_eq]
    simp only [TimerLives.takenOff] at before ⊢
    omega

theorem taskStep_endsOnce (wired : Wired world) (once : EndsOnce world) :
    EndsOnce world.taskStep := by
  unfold TimerLives.taskStep
  cases isAt : world.task with
  | idle =>
    have quiet : none = world.task.stopped := by rw [isAt]; rfl
    dsimp only
    split
    · exact once
    · rename_i msg rest first
      cases msg <;> exact once.frame rfl rfl rfl quiet
  | expiring wake timerOfNow first =>
    have quiet : none = world.task.stopped := by rw [isAt]; rfl
    dsimp only
    split <;> exact once.frame rfl rfl rfl quiet
  | popped wake timerOfNow timer =>
    have quiet : none = world.task.stopped := by rw [isAt]; rfl
    dsimp only
    split <;> exact once.frame rfl rfl rfl quiet
  | stopping wake timerOfNow timer client =>
    have quiet : none = world.task.stopped := by rw [isAt]; rfl
    dsimp only
    split
    · cases attached : world.mTimer client with
      | none =>
        rw [stopTimer_of_idle attached]
        exact once.frame rfl rfl rfl quiet
      | some stopped =>
        obtain ⟨-, rfl, -⟩ := wired.attached client stopped attached
        rw [stopTimer_of_attached wired attached]
        intro other
        have before := once other
        simp only [TimerLives.ends, ← quiet, takenOff_attached world attached other] at before
        simp only [TimerLives.ends, ExpireTask.stopped, count_toList_some]
        simp only [TimerLives.takenOff, Option.toList_none, List.count_nil] at before ⊢
        omega
    · exact once.frame rfl rfl rfl quiet
  | calling wake timerOfNow timer client stopped =>
    have pending : some stopped = world.task.stopped := by rw [isAt]; rfl
    dsimp only
    split
    · intro other
      have before := once other
      simp only [TimerLives.ends, ← pending, count_toList_some] at before
      simp only [TimerLives.ends, ExpireTask.stopped, List.map_append, List.map_cons, List.map_nil,
        List.count_append, List.count_singleton, Ending.timer, beq_iff_eq, Option.toList_none,
        List.count_nil]
      omega
    · exact once.frame rfl rfl rfl pending

theorem clock_endsOnce (once : EndsOnce world) (clock : Timespec) :
    EndsOnce { world with clock := clock } :=
  once.frame rfl rfl rfl rfl

theorem step_endsOnce (world : TimerLives) (input : LivesInput) (wired : Wired world)
    (once : EndsOnce world) : EndsOnce (world.step input) := by
  unfold TimerLives.step
  split
  · exact once
  cases input with
  | start client timeOutInMs wakeOnExpire container =>
    dsimp only
    split
    · rcases startTimer_cases world client timeOutInMs wakeOnExpire container with
        ⟨idle, -, starts⟩ | ⟨-, refused⟩
      · rw [starts]
        exact started_endsOnce once idle
      · rw [refused]
        exact once.frame rfl rfl rfl rfl
    · exact once
  | stop client =>
    dsimp only
    split
    · exact stopByClient_endsOnce wired once client
    · exact once
  | destroy client =>
    dsimp only
    split
    · exact (stopByClient_endsOnce wired once client).frame rfl rfl rfl rfl
    · exact once
  | tick time => exact clock_endsOnce once _
  | wake wakeOnExpire => exact once.frame rfl rfl rfl rfl
  | task => exact taskStep_endsOnce wired once

end ended

/-- Every timer that is started has one end: a `stop` of its client takes it off, or the
message task does and calls the client back. Until then it is on its timer. -/
theorem every_start_ends_once (clock : Timespec) (inputs : List LivesInput) :
    ∀ world ∈ states TimerLives.step (.start clock) inputs, world.created.Nodup ∧ ∀ timer,
      (world.endings.map Ending.timer).count timer + world.task.stopped.toList.count timer +
        (world.mTimer timer.mLock).toList.count timer = world.created.count timer := by
  intro world visited
  have keeps : ∀ world input, Wired world ∧ EndsOnce world →
      Wired (TimerLives.step world input) ∧ EndsOnce (TimerLives.step world input) :=
    fun world input held =>
      ⟨step_wired world input held.1, step_endsOnce world input held.1 held.2⟩
  have none : EndsOnce (TimerLives.start clock) := fun _ => rfl
  obtain ⟨wired, once⟩ := invariant_states keeps inputs ⟨start_wired clock, none⟩ world visited
  exact ⟨wired.distinct, once⟩

/-- A timer of one second is popped, stopped and called back, and its client deletes it. -/
def calledBackTimer : List LivesInput :=
  [.start 0 1000 false true, .task, .wake false, .task, .task, .task, .task, .task, .destroy 0,
    .task, .task]

theorem called_back_timer_ends_once :
    let last := calledBackTimer.foldl TimerLives.step (.start ⟨1, 0, by decide, by decide⟩)
    last.created.Nodup ∧ last.created.length = 1 ∧
      last.endings.map Ending.timer = last.created :=
  ⟨(every_start_ends_once ⟨1, 0, by decide, by decide⟩ _ _ (end_mem_states _ _)).1, by decide,
    by decide⟩

end Msm8917Common.Timer
