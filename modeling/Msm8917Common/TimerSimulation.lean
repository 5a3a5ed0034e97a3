import Msm8917Common.TimerLivesProofs

/-! The two models of `LocTimer.cpp` run alike. One has the kernel calls and the poll
thread, for one container; the other has the locks and what is deleted. Whatever the
first does, the second does with the same timers and the same callbacks, while no client
deletes its timer. -/
namespace Msm8917Common.Timer
open Runs LocHeapNode

def ContainerMsg.timerMsg : ContainerMsg → TimerMsg
  | .push timer => .push timer.toLocTimerDelegate
  | .remove timer => .remove timer.toLocTimerDelegate
  | .expire _ => .expire

/-- Where the message task is, if it has these calls to make between two messages. -/
def ExpireTask.msgTask (calls : List DeviceCall) : ExpireTask → MsgTask
  | .idle => .processing calls
  | .expiring _ timerOfNow first => .expiring timerOfNow first
  | .popped _ timerOfNow timer => .popped timerOfNow timer.toLocTimerDelegate
  | .stopping _ timerOfNow timer client => .stopping timerOfNow timer.toLocTimerDelegate client
  | .calling _ timerOfNow timer client stopped =>
    .calling timerOfNow timer.toLocTimerDelegate client stopped.toLocTimerDelegate

/-- The container whose timers the message task pops. -/
def ExpireTask.container : ExpireTask → Option Bool
  | .idle => none
  | .expiring wakeOnExpire _ _ | .popped wakeOnExpire _ _ | .stopping wakeOnExpire _ _ _
  | .calling wakeOnExpire _ _ _ _ => some wakeOnExpire

/-- What a callback calls, and with which timer. -/
def Ending.callback : Ending → Option (Nat × LocTimerDelegate)
  | .stopped _ => none
  | .calledBack client _ timer => some (client, timer.toLocTimerDelegate)

/-- An input that is about this container, and deletes no timer. -/
def LivesInput.Within (wakeOnExpire : Bool) : LivesInput → Prop
  | .start _ _ ofTimer container => ofTimer = wakeOnExpire ∧ container = true
  | .destroy _ => False
  | .wake ofPoll => ofPoll = wakeOnExpire
  | _ => True

/-- Only this container has timers, every address is given out once, and no timer of a
client is deleted. -/
structure OnlyOf (wakeOnExpire : Bool) (lives : TimerLives) : Prop where
  alive : ∀ client, lives.alive client = true
  defined : lives.deadClient = false
  created : ∀ timer ∈ lives.created, timer.wakeOnExpire = wakeOnExpire
  apart : ∀ one ∈ lives.created, ∀ other ∈ lives.created, one.address = other.address → one = other
  removed : ∀ timer, .remove timer ∈ lives.queue → timer ∈ lives.created
  expire : ∀ wake, .expire wake ∈ lives.queue → wake = wakeOnExpire
  container : ∀ wake, lives.task.container = some wake → wake = wakeOnExpire

/-- The same timers, in the same heap, with the same messages to come. -/
structure Mirrors (wakeOnExpire : Bool) (world : TimerWorld) (lives : TimerLives) : Prop where
  clock : world.clock = lives.clock
  mTree : world.mTree = (lives.mTree wakeOnExpire).map Delegate.toLocTimerDelegate
  mTimer : ∀ client, world.mTimer client = (lives.mTimer client).map Delegate.toLocTimerDelegate
  mClient : ∀ timer ∈ lives.created, world.mClient timer.toLocTimerDelegate = lives.mClient timer
  allocated : world.allocated = lives.created.length
  queue : world.queue = lives.queue.map ContainerMsg.timerMsg
  msgTask : ∃ calls, world.msgTask = lives.task.msgTask calls

/-- What the message task calls back next. -/
def ExpireTask.callback : ExpireTask → Option (Nat × LocTimerDelegate)
  | .calling _ _ _ client timer => some (client, timer.toLocTimerDelegate)
  | _ => none

def TimerLives.callbacks (lives : TimerLives) : List (Nat × LocTimerDelegate) :=
  lives.endings.filterMap Ending.callback

/-- What a step does to the timers. A call to the kernel does nothing to them. -/
def TimerWorld.livesInputs (wakeOnExpire : Bool) (world : TimerWorld) : TimerInput → List LivesInput
  | .start client timeOutInMs => [.start client timeOutInMs wakeOnExpire true]
  | .stop client => [.stop client]
  | .tick time => [.tick time]
  | .wake => []
  | .poll => if world.pollTask = .removed then [.wake wakeOnExpire] else []
  | .task =>
    match world.msgTask with
    | .processing (_ :: _) => []
    | _ => [.task]

section OnlyOf
variable {wakeOnExpire : Bool} {lives next : TimerLives}

/-- A step that creates no delegate. -/
theorem OnlyOf.frame (only : OnlyOf wakeOnExpire lives) (alive : next.alive = lives.alive)
    (defined : next.deadClient = false) (created : next.created = lives.created)
    (removed : ∀ timer, .remove timer ∈ next.queue → timer ∈ lives.created)
    (expire : ∀ wake, .expire wake ∈ next.queue → wake = wakeOnExpire)
    (container : ∀ wake, next.task.container = some wake → wake = wakeOnExpire) :
    OnlyOf wakeOnExpire next := by
  refine ⟨?_, defined, ?_, ?_, ?_, expire, container⟩
  · rw [alive]
    exact only.alive
  · rw [created]
    exact only.created
  · rw [created]
    exact only.apart
  · rw [created]
    exact removed

theorem start_onlyOf (wakeOnExpire : Bool) (clock : Timespec) :
    OnlyOf wakeOnExpire (.start clock) := by
  constructor <;> simp [TimerLives.start, ExpireTask.container]

theorem started_onlyOf (wired : Wired lives) (only : OnlyOf wakeOnExpire lives) {timer : Delegate}
    (isNew : timer.address = lives.created.length) (own : timer.wakeOnExpire = wakeOnExpire) :
    OnlyOf wakeOnExpire (lives.started timer) := by
  have older : ∀ other ∈ lives.created, other.address ≠ timer.address := fun other member same =>
    Nat.lt_irrefl _ (isNew ▸ same ▸ wired.fresh other member)
  refine ⟨only.alive, only.defined, List.forall_mem_cons.mpr ⟨own, only.created⟩, ?_, ?_, ?_,
    only.container⟩
  · intro one first other second same
    rcases List.mem_cons.mp first with isNew | before
    · rcases List.mem_cons.mp second with alsoNew | alsoBefore
      · rw [isNew, alsoNew]
      · exact absurd same.symm (isNew ▸ older other alsoBefore)
    · rcases List.mem_cons.mp second with alsoNew | alsoBefore
      · exact absurd same (alsoNew ▸ older one before)
      · exact only.apart one before other alsoBefore same
  · intro other queued
    rcases List.mem_append.mp queued with before | now
    · exact List.mem_cons_of_mem _ (only.removed other before)
    · cases List.mem_singleton.mp now
  · intro wake queued
    rcases List.mem_append.mp queued with before | now
    · exact only.expire wake before
    · cases List.mem_singleton.mp now

theorem takenOff_onlyOf (wired : Wired lives) (only : OnlyOf wakeOnExpire lives) {client : Nat}
    {timer : Delegate} (attached : lives.mTimer client = some timer) :
    OnlyOf wakeOnExpire (lives.takenOff timer) := by
  refine only.frame rfl only.defined rfl ?_ ?_ only.container
  · intro other queued
    rcases List.mem_append.mp queued with before | now
    · exact only.removed other before
    · cases List.mem_singleton.mp now
      exact (wired.attached client timer attached).1
  · intro wake queued
    rcases List.mem_append.mp queued with before | now
    · exact only.expire wake before
    · cases List.mem_singleton.mp now

theorem stopTimer_onlyOf (wired : Wired lives) (only : OnlyOf wakeOnExpire lives) (client : Nat) :
    OnlyOf wakeOnExpire (lives.stopTimer client).1 := by
  cases attached : lives.mTimer client with
  | none =>
    rw [stopTimer_of_idle attached]
    exact only.frame rfl only.defined rfl only.removed only.expire only.container
  | some timer =>
    rw [stopTimer_of_attached wired attached]
    exact takenOff_onlyOf wired only attached

theorem taskStep_onlyOf (wired : Wired lives) (only : OnlyOf wakeOnExpire lives) :
    OnlyOf wakeOnExpire lives.taskStep := by
  have container := only.container
  unfold TimerLives.taskStep
  cases isAt : lives.task with
  | idle =>
    dsimp only
    split
    · exact only
    · rename_i msg rest first
      have removed : ∀ timer, .remove timer ∈ rest → timer ∈ lives.created :=
        fun timer member => only.removed timer (first ▸ List.mem_cons_of_mem _ member)
      have expire : ∀ wake, .expire wake ∈ rest → wake = wakeOnExpire :=
        fun wake member => only.expire wake (first ▸ List.mem_cons_of_mem _ member)
      cases msg with
      | push | remove =>
        exact only.frame rfl only.defined rfl removed expire (fun _ none => by cases none)
      | expire wake =>
        refine only.frame rfl only.defined rfl removed expire ?_
        rintro _ ⟨⟩
        exact only.expire wake (first ▸ List.mem_cons_self)
  | expiring wake timerOfNow first =>
    rw [isAt] at container
    dsimp only
    split
    · exact only.frame rfl only.defined rfl only.removed only.expire (fun _ none => by cases none)
    · exact only.frame rfl only.defined rfl only.removed only.expire container
  | popped wake timerOfNow timer =>
    rw [isAt] at container
    dsimp only
    split <;> exact only.frame rfl only.defined rfl only.removed only.expire container
  | stopping wake timerOfNow timer client =>
    rw [isAt] at container
    dsimp only
    rw [if_pos (only.alive client)]
    cases attached : lives.mTimer client with
    | none =>
      rw [stopTimer_of_idle attached]
      exact only.frame rfl only.defined rfl only.removed only.expire container
    | some stopped =>
      have left := takenOff_onlyOf wired only attached
      rw [stopTimer_of_attached wired attached]
      exact left.frame rfl left.defined rfl left.removed left.expire container
  | calling wake timerOfNow timer client stopped =>
    rw [isAt] at container
    simp only [only.alive client, if_true]
    exact only.frame rfl only.defined rfl only.removed only.expire container

/-! While no timer is deleted, each input does what it is there for. -/

theorem OnlyOf.step_start (only : OnlyOf wakeOnExpire lives) (client : Nat) (timeOutInMs : UInt32)
    (wake container : Bool) : lives.step (.start client timeOutInMs wake container) =
      lives.startTimer client timeOutInMs wake container := by
  simp [TimerLives.step, only.defined, only.alive client]

theorem OnlyOf.step_stop (only : OnlyOf wakeOnExpire lives) (client : Nat) :
    lives.step (.stop client) = lives.stopByClient client := by
  simp [TimerLives.step, only.defined, only.alive client]

theorem OnlyOf.step_tick (only : OnlyOf wakeOnExpire lives) (time : Timespec) :
    lives.step (.tick time) =
      { lives with clock := if lives.clock ≤ time then time else lives.clock } := by
  simp [TimerLives.step, only.defined]

theorem OnlyOf.step_wake (only : OnlyOf wakeOnExpire lives) (wake : Bool) :
    lives.step (.wake wake) = { lives with queue := lives.queue ++ [.expire wake] } := by
  simp [TimerLives.step, only.defined]

theorem OnlyOf.step_task (only : OnlyOf wakeOnExpire lives) :
    lives.step .task = lives.taskStep := by
  simp [TimerLives.step, only.defined]

theorem step_onlyOf (wired : Wired lives) (only : OnlyOf wakeOnExpire lives) {input : LivesInput}
    (within : input.Within wakeOnExpire) : OnlyOf wakeOnExpire (lives.step input) := by
  cases input with
  | start client timeOutInMs wake container =>
    obtain ⟨rfl, rfl⟩ := within
    rw [only.step_start]
    rcases startTimer_cases lives client timeOutInMs wake true with
      ⟨-, -, starts⟩ | ⟨-, refused⟩
    · rw [starts]
      exact started_onlyOf wired only rfl rfl
    · rw [refused]
      exact only.frame rfl only.defined rfl only.removed only.expire only.container
  | stop client =>
    have left := stopTimer_onlyOf wired only client
    rw [only.step_stop]
    exact left.frame rfl left.defined rfl left.removed left.expire left.container
  | destroy client => exact within.elim
  | tick time =>
    rw [only.step_tick]
    exact only.frame rfl only.defined rfl only.removed only.expire only.container
  | wake wake =>
    rw [only.step_wake]
    refine only.frame rfl only.defined rfl ?_ ?_ only.container
    · intro timer queued
      rcases List.mem_append.mp queued with before | now
      · exact only.removed timer before
      · cases List.mem_singleton.mp now
    · intro other queued
      rcases List.mem_append.mp queued with before | now
      · exact only.expire other before
      · cases List.mem_singleton.mp now
        exact within
  | task =>
    rw [only.step_task]
    exact taskStep_onlyOf wired only

end OnlyOf

section Mirrors
variable {wakeOnExpire : Bool} {world : TimerWorld} {lives next : TimerLives}

theorem start_mirrors (wakeOnExpire : Bool) (clock : Timespec) :
    Mirrors wakeOnExpire (.start clock) (.start clock) :=
  ⟨rfl, rfl, fun _ => rfl, fun _ _ => rfl, rfl, rfl, [], rfl⟩

/-- The message tasks go on to the same place. -/
theorem Mirrors.goesTo (mirrors : Mirrors wakeOnExpire world lives) {task : ExpireTask}
    {msgTask : MsgTask} {endings : List Ending} {misused : Bool} (calls : List DeviceCall)
    (same : msgTask = task.msgTask calls) :
    Mirrors wakeOnExpire { world with msgTask := msgTask }
      { lives with task := task, endings := endings, misused := misused } :=
  ⟨mirrors.clock, mirrors.mTree, mirrors.mTimer, mirrors.mClient, mirrors.allocated,
    mirrors.queue, calls, same⟩

/-- Delegates that were created are told apart by what both models have of them. -/
theorem OnlyOf.eq_of_toLocTimerDelegate (only : OnlyOf wakeOnExpire lives) {one other : Delegate}
    (first : one ∈ lives.created) (second : other ∈ lives.created)
    (same : one.toLocTimerDelegate = other.toLocTimerDelegate) : one = other :=
  only.apart one first other second (congrArg LocTimerDelegate.address same)

theorem started_mirrors (wired : Wired lives) (mirrors : Mirrors wakeOnExpire world lives)
    {client : Nat} {timeOutInMs : UInt32} (idle : lives.mTimer client = none) :
    Mirrors wakeOnExpire (world.startTimer client timeOutInMs)
      (lives.started (lives.newTimer client timeOutInMs wakeOnExpire)) := by
  have idle' : world.mTimer client = none := by rw [mirrors.mTimer client, idle, Option.map_none]
  let timer := lives.newTimer client timeOutInMs wakeOnExpire
  have same : (⟨world.allocated, world.clock.after timeOutInMs⟩ : LocTimerDelegate) =
      timer.toLocTimerDelegate := by
    rw [mirrors.allocated, mirrors.clock]
    rfl
  simp only [TimerWorld.startTimer, idle', same]
  refine ⟨mirrors.clock, mirrors.mTree, ?_, ?_, congrArg (· + 1) mirrors.allocated, ?_,
    mirrors.msgTask⟩
  · intro other
    change Function.update world.mTimer client _ other =
      (Function.update lives.mTimer client (some timer) other).map _
    simp only [Function.update_apply]
    split
    · rfl
    · exact mirrors.mTimer other
  · intro other member
    change Function.update world.mClient _ _ _ =
      Function.update lives.mClient timer (some client) other
    rcases List.mem_cons.mp member with isNew | before
    · have isNew : other = timer := isNew
      simp only [isNew, Function.update_self]
    · have older : other ≠ timer := fun isNew =>
        not_created_of_new wired rfl (isNew ▸ before : timer ∈ lives.created)
      have older' : other.toLocTimerDelegate ≠ timer.toLocTimerDelegate := fun isNew =>
        not_created_of_new wired (congrArg LocTimerDelegate.address isNew) before
      exact ((Function.update_of_ne older' ..).trans (mirrors.mClient other before)).trans
        (Function.update_of_ne older ..).symm
  · change world.queue ++ [_] = List.map _ (lives.queue ++ [_])
    rw [mirrors.queue, List.map_append]
    rfl

theorem startTimer_mirrors (wired : Wired lives) (mirrors : Mirrors wakeOnExpire world lives)
    (client : Nat) (timeOutInMs : UInt32) :
    Mirrors wakeOnExpire (world.startTimer client timeOutInMs)
      (lives.startTimer client timeOutInMs wakeOnExpire true) := by
  rcases startTimer_cases lives client timeOutInMs wakeOnExpire true with
    ⟨idle, -, starts⟩ | ⟨taken, refused⟩
  · rw [starts]
    exact started_mirrors wired mirrors idle
  · obtain ⟨timer, attached⟩ := Option.ne_none_iff_exists'.mp (taken.resolve_right (by simp))
    have attached' : world.mTimer client = some timer.toLocTimerDelegate := by
      rw [mirrors.mTimer client, attached, Option.map_some]
    rw [refused]
    simp only [TimerWorld.startTimer, attached']
    exact ⟨mirrors.clock, mirrors.mTree, mirrors.mTimer, mirrors.mClient, mirrors.allocated,
      mirrors.queue, mirrors.msgTask⟩

theorem stopTimer_mirrors (wired : Wired lives) (only : OnlyOf wakeOnExpire lives)
    (mirrors : Mirrors wakeOnExpire world lives) (client : Nat) :
    Mirrors wakeOnExpire (world.stopTimer client).1 (lives.stopTimer client).1 ∧
      (world.stopTimer client).2 = (lives.stopTimer client).2.map Delegate.toLocTimerDelegate := by
  cases attached : lives.mTimer client with
  | none =>
    have idle : world.mTimer client = none := by
      rw [mirrors.mTimer client, attached, Option.map_none]
    rw [stopTimer_of_idle attached]
    simp only [TimerWorld.stopTimer, idle]
    exact ⟨⟨mirrors.clock, mirrors.mTree, mirrors.mTimer, mirrors.mClient, mirrors.allocated,
      mirrors.queue, mirrors.msgTask⟩, rfl⟩
  | some timer =>
    have attached' : world.mTimer client = some timer.toLocTimerDelegate := by
      rw [mirrors.mTimer client, attached, Option.map_some]
    obtain ⟨created, rfl, -⟩ := wired.attached client timer attached
    rw [stopTimer_of_attached wired attached]
    simp only [TimerWorld.stopTimer, attached']
    refine ⟨⟨mirrors.clock, mirrors.mTree, ?_, ?_, mirrors.allocated, ?_, mirrors.msgTask⟩, rfl⟩
    · intro other
      change Function.update world.mTimer timer.mLock _ other =
        (Function.update lives.mTimer timer.mLock none other).map _
      simp only [Function.update_apply]
      split
      · rfl
      · exact mirrors.mTimer other
    · intro other member
      change Function.update world.mClient _ _ _ = Function.update lives.mClient _ _ _
      simp only [Function.update_apply]
      by_cases same : other = timer
      · rw [same, if_pos rfl, if_pos rfl]
      · have apart : other.toLocTimerDelegate ≠ timer.toLocTimerDelegate := fun alike =>
          same (only.eq_of_toLocTimerDelegate member created alike)
        rw [if_neg same, if_neg apart]
        exact mirrors.mClient other member
    · change world.queue ++ [_] = List.map _ (lives.queue ++ [_])
      rw [mirrors.queue, List.map_append]
      rfl

theorem clock_mirrors (mirrors : Mirrors wakeOnExpire world lives) (clock : Timespec) :
    Mirrors wakeOnExpire { world with clock := clock } { lives with clock := clock } :=
  ⟨rfl, mirrors.mTree, mirrors.mTimer, mirrors.mClient, mirrors.allocated, mirrors.queue,
    mirrors.msgTask⟩

/-- Both heaps rank the delegates by their times. -/
theorem outRanks_toLocTimerDelegate (timer other : Delegate) :
    LocTimerDelegate.outRanks timer.toLocTimerDelegate other.toLocTimerDelegate =
      timer.outRanks other := rfl

theorem proc_mirrors (wired : Wired lives) (only : OnlyOf wakeOnExpire lives)
    (mirrors : Mirrors wakeOnExpire world lives) {msg : ContainerMsg} {rest : List ContainerMsg}
    (first : lives.queue = msg :: rest) (idle : lives.task = .idle) :
    Mirrors wakeOnExpire
      ({ world with queue := rest.map ContainerMsg.timerMsg }.proc msg.timerMsg)
      ({ lives with queue := rest }.proc msg) := by
  have member : msg ∈ lives.queue := first ▸ List.mem_cons_self
  have mTree := mirrors.mTree
  cases msg with
  | push timer =>
    have own : timer.wakeOnExpire = wakeOnExpire := only.created timer (wired.queued timer member)
    refine ⟨mirrors.clock, ?_, mirrors.mTimer, mirrors.mClient, mirrors.allocated, rfl, ?_⟩
    · subst own
      change push _ _ world.mTree = LocHeapNode.map _ (Function.update lives.mTree _ _ _)
      rw [Function.update_self, mTree]
      exact push_map outRanks_toLocTimerDelegate timer _
    · exact ⟨_, by rw [show TimerLives.task _ = .idle from idle]; rfl⟩
  | remove timer =>
    have created := only.removed timer member
    have own : timer.wakeOnExpire = wakeOnExpire := only.created timer created
    refine ⟨mirrors.clock, ?_, mirrors.mTimer, mirrors.mClient, mirrors.allocated, rfl, ?_⟩
    · subst own
      have removed := remove_map outRanks_toLocTimerDelegate fun other
        (held : other ∈ (lives.mTree timer.wakeOnExpire).toList) =>
          only.eq_of_toLocTimerDelegate created (wired.held _ other held)
      change (remove _ _ world.mTree).getD world.mTree =
        LocHeapNode.map _ (Function.update lives.mTree _ _ _)
      rw [Function.update_self, mTree, removed]
      cases remove Delegate.outRanks timer (lives.mTree timer.wakeOnExpire) <;> rfl
    · exact ⟨_, by rw [show TimerLives.task _ = .idle from idle]; rfl⟩
  | expire wake =>
    refine ⟨mirrors.clock, mTree, mirrors.mTimer, mirrors.mClient, mirrors.allocated, rfl, [], ?_⟩
    exact congrArg (MsgTask.expiring · true) mirrors.clock

theorem nextPopped_mirrors (mirrors : Mirrors wakeOnExpire world lives) (timerOfNow : Timespec)
    (first : Bool) : world.popped timerOfNow first =
      (lives.nextPopped wakeOnExpire timerOfNow first).map Delegate.toLocTimerDelegate := by
  rw [TimerWorld.popped, TimerLives.nextPopped, mirrors.mTree, peek_map, Option.filter_map]
  rfl

private theorem task_of_message {msg : TimerMsg} {rest : List TimerMsg}
    (idle : world.msgTask = .processing []) (first : world.queue = msg :: rest) :
    world.task = { world with queue := rest }.proc msg := by
  cases world
  simp only at idle first
  subst idle first
  rfl

private theorem taskStep_of_message {msg : ContainerMsg} {rest : List ContainerMsg}
    (idle : lives.task = .idle) (first : lives.queue = msg :: rest) :
    lives.taskStep = { lives with queue := rest }.proc msg := by
  cases lives
  simp only at idle first
  subst idle first
  rfl

/-- The message task, where it has no call to make. -/
theorem task_mirrors (wired : Wired lives) (only : OnlyOf wakeOnExpire lives)
    (mirrors : Mirrors wakeOnExpire world lives)
    (quiet : ∀ call calls, world.msgTask ≠ .processing (call :: calls)) :
    Mirrors wakeOnExpire world.task lives.taskStep := by
  obtain ⟨calls, isAt'⟩ := mirrors.msgTask
  have own := only.container
  cases isAt : lives.task with
  | idle =>
    rw [isAt] at isAt'
    have none : calls = [] := by
      cases calls with
      | nil => rfl
      | cons call calls => exact absurd isAt' (quiet call calls)
    rw [none] at isAt'
    have idle : world.msgTask = .processing [] := isAt'
    have queue := mirrors.queue
    cases first : lives.queue with
    | nil =>
      rw [first] at queue
      have still : world.task = world := by
        unfold TimerWorld.task
        rw [idle]
        dsimp only
        rw [queue]
        rfl
      have still' : lives.taskStep = lives := by
        unfold TimerLives.taskStep
        rw [isAt]
        dsimp only
        rw [first]
      rw [still, still']
      exact mirrors
    | cons msg rest =>
      rw [first] at queue
      rw [task_of_message idle queue, taskStep_of_message isAt first]
      exact proc_mirrors wired only mirrors first isAt
  | expiring wake timerOfNow first =>
    rw [isAt] at isAt' own
    obtain rfl := own wake rfl
    have popped := nextPopped_mirrors mirrors timerOfNow first
    have isAt' : world.msgTask = .expiring timerOfNow first := isAt'
    simp only [TimerWorld.task, isAt', popped, TimerLives.taskStep, isAt]
    cases lives.nextPopped wake timerOfNow first with
    | none => exact mirrors.goesTo _ rfl
    | some timer =>
      refine ⟨mirrors.clock, ?_, mirrors.mTimer, mirrors.mClient, mirrors.allocated,
        mirrors.queue, [], rfl⟩
      change pop _ world.mTree = LocHeapNode.map _ (Function.update lives.mTree _ _ _)
      rw [Function.update_self, mirrors.mTree]
      exact pop_map outRanks_toLocTimerDelegate _
  | popped wake timerOfNow timer =>
    rw [isAt] at isAt'
    have named := mirrors.mClient timer (wired.popped timer (by rw [isAt]; rfl))
    have isAt' : world.msgTask = .popped timerOfNow timer.toLocTimerDelegate := isAt'
    simp only [TimerWorld.task, isAt', named, TimerLives.taskStep, isAt]
    cases lives.mClient timer with
    | none => exact mirrors.goesTo [] rfl
    | some client => exact mirrors.goesTo [] rfl
  | stopping wake timerOfNow timer client =>
    rw [isAt] at isAt'
    have isAt' : world.msgTask = .stopping timerOfNow timer.toLocTimerDelegate client := isAt'
    obtain ⟨left, taken⟩ := stopTimer_mirrors wired only mirrors client
    simp only [TimerWorld.task, isAt', TimerLives.taskStep, isAt, only.alive client, if_true]
    generalize world.stopTimer client = after' at left taken
    generalize lives.stopTimer client = after at left taken
    obtain ⟨next', stopped'⟩ := after'
    obtain ⟨next, stopped⟩ := after
    cases taken
    cases stopped with
    | none => exact left.goesTo [] rfl
    | some stopped => exact left.goesTo [] rfl
  | calling wake timerOfNow timer client stopped =>
    rw [isAt] at isAt'
    have isAt' : world.msgTask = .calling timerOfNow timer.toLocTimerDelegate client
      stopped.toLocTimerDelegate := isAt'
    simp only [TimerWorld.task, isAt', TimerLives.taskStep, isAt, only.alive client, if_true]
    exact mirrors.goesTo [] rfl

/-! Callbacks -/

theorem startTimer_endings (lives : TimerLives) (client : Nat) (timeOutInMs : UInt32)
    (wake container : Bool) :
    (lives.startTimer client timeOutInMs wake container).endings = lives.endings := by
  rcases startTimer_cases lives client timeOutInMs wake container with
    ⟨-, -, starts⟩ | ⟨-, refused⟩
  · rw [starts]
    rfl
  · rw [refused]
    rfl

theorem stopTimer_endings (lives : TimerLives) (client : Nat) :
    (lives.stopTimer client).1.endings = lives.endings := by
  unfold TimerLives.stopTimer
  split <;> rfl

theorem stopByClient_callbacks (lives : TimerLives) (client : Nat) :
    (lives.stopByClient client).callbacks = lives.callbacks := by
  have none : (fun timer => Ending.callback (.stopped timer)) = fun _ => none := rfl
  simp only [TimerLives.callbacks, TimerLives.stopByClient, stopTimer_endings,
    List.filterMap_append, List.filterMap_map, Function.comp_def, none, List.filterMap_none,
    List.append_nil]

theorem taskStep_callbacks (only : OnlyOf wakeOnExpire lives) :
    lives.taskStep.callbacks = lives.callbacks ++ lives.task.callback.toList := by
  unfold TimerLives.taskStep
  cases isAt : lives.task with
  | idle =>
    refine Eq.trans ?_ (List.append_nil _).symm
    dsimp only
    split
    · rfl
    · rename_i msg rest first
      cases msg <;> rfl
  | expiring wake timerOfNow first =>
    refine Eq.trans ?_ (List.append_nil _).symm
    dsimp only
    split <;> rfl
  | popped wake timerOfNow timer =>
    refine Eq.trans ?_ (List.append_nil _).symm
    dsimp only
    split <;> rfl
  | stopping wake timerOfNow timer client =>
    have same := stopTimer_endings lives client
    refine Eq.trans ?_ (List.append_nil _).symm
    dsimp only
    rw [if_pos (only.alive client)]
    generalize lives.stopTimer client = after at same
    obtain ⟨next, stopped⟩ := after
    cases stopped <;> exact congrArg (List.filterMap Ending.callback) same
  | calling wake timerOfNow timer client stopped =>
    dsimp only
    rw [if_pos (only.alive client)]
    exact List.filterMap_append

theorem callback_mirrors (mirrors : Mirrors wakeOnExpire world lives) :
    world.callback .task = lives.task.callback := by
  obtain ⟨calls, isAt'⟩ := mirrors.msgTask
  rw [TimerWorld.callback, isAt']
  cases lives.task <;> rfl

end Mirrors

/-! Runs -/

/-- One run of each model, with the same callbacks so far. -/
structure RunsAlike (wakeOnExpire : Bool) (world : TimerWorld) (lives : TimerLives) : Prop
    extends Mirrors wakeOnExpire world lives where
  wired : Wired lives
  only : OnlyOf wakeOnExpire lives

section Runs
variable {wakeOnExpire : Bool} {world : TimerWorld} {lives : TimerLives}

theorem RunsAlike.next (alike : RunsAlike wakeOnExpire world lives) {after : TimerWorld}
    (input : LivesInput) (within : input.Within wakeOnExpire)
    (mirrors : Mirrors wakeOnExpire after (lives.step input)) :
    RunsAlike wakeOnExpire after (lives.step input) :=
  ⟨mirrors, step_wired lives input alike.wired, step_onlyOf alike.wired alike.only within⟩

/-- A step that leaves the timers alone. -/
theorem RunsAlike.still (alike : RunsAlike wakeOnExpire world lives) {after : TimerWorld}
    (clock : after.clock = world.clock) (mTree : after.mTree = world.mTree)
    (mTimer : after.mTimer = world.mTimer) (mClient : after.mClient = world.mClient)
    (allocated : after.allocated = world.allocated) (queue : after.queue = world.queue)
    (msgTask : ∃ calls, after.msgTask = lives.task.msgTask calls) :
    RunsAlike wakeOnExpire after lives := by
  refine ⟨⟨clock.trans alike.clock, mTree.trans alike.mTree, ?_, ?_,
    allocated.trans alike.allocated, queue.trans alike.queue, msgTask⟩, alike.wired, alike.only⟩
  · rw [mTimer]
    exact alike.mTimer
  · rw [mClient]
    exact alike.mClient

theorem step_alike (alike : RunsAlike wakeOnExpire world lives) (input : TimerInput) :
    RunsAlike wakeOnExpire (world.step input)
        ((world.livesInputs wakeOnExpire input).foldl TimerLives.step lives) ∧
      ((world.livesInputs wakeOnExpire input).foldl TimerLives.step lives).callbacks =
        lives.callbacks ++ (world.callback input).toList := by
  have mirrors := alike.toMirrors
  have silent : lives.callbacks = lives.callbacks ++ [] := (List.append_nil _).symm
  cases input with
  | start client timeOutInMs =>
    have started := startTimer_mirrors alike.wired mirrors client timeOutInMs
    have stepped := alike.only.step_start client timeOutInMs wakeOnExpire true
    refine ⟨alike.next (.start client timeOutInMs wakeOnExpire true) ⟨rfl, rfl⟩ ?_, ?_⟩
    · rw [stepped]
      exact started
    refine Eq.trans ?_ silent
    change (lives.step (.start client timeOutInMs wakeOnExpire true)).callbacks = _
    rw [stepped, TimerLives.callbacks, startTimer_endings, TimerLives.callbacks]
  | stop client =>
    have stopped := (stopTimer_mirrors alike.wired alike.only mirrors client).1
    have stepped := alike.only.step_stop client
    refine ⟨alike.next (.stop client) trivial ?_, ?_⟩
    · rw [stepped]
      exact ⟨stopped.clock, stopped.mTree, stopped.mTimer, stopped.mClient, stopped.allocated,
        stopped.queue, stopped.msgTask⟩
    · refine Eq.trans ?_ silent
      change (lives.step (.stop client)).callbacks = _
      rw [stepped, stopByClient_callbacks]
  | tick time =>
    have stepped := alike.only.step_tick time
    have ticked : world.step (.tick time) =
        { world with clock := if lives.clock ≤ time then time else lives.clock } := by
      rw [← mirrors.clock]
      rfl
    refine ⟨alike.next (.tick time) trivial ?_, ?_⟩
    · rw [stepped, ticked]
      exact clock_mirrors mirrors _
    · refine Eq.trans ?_ silent
      change (lives.step (.tick time)).callbacks = _
      rw [stepped, TimerLives.callbacks, TimerLives.callbacks]
  | wake =>
    refine ⟨?_, silent⟩
    simp only [TimerWorld.step, TimerWorld.wake]
    split
    · exact alike.still rfl rfl rfl rfl rfl rfl mirrors.msgTask
    · exact alike
  | poll =>
    simp only [TimerWorld.step, TimerWorld.poll, TimerWorld.livesInputs]
    cases world.pollTask with
    | waiting => exact ⟨alike, silent⟩
    | woken => exact ⟨alike.still rfl rfl rfl rfl rfl rfl mirrors.msgTask, silent⟩
    | disarmed => exact ⟨alike.still rfl rfl rfl rfl rfl rfl mirrors.msgTask, silent⟩
    | removed =>
      have stepped := alike.only.step_wake wakeOnExpire
      refine ⟨alike.next (.wake wakeOnExpire) rfl ?_, ?_⟩
      · rw [stepped]
        refine ⟨mirrors.clock, mirrors.mTree, mirrors.mTimer, mirrors.mClient, mirrors.allocated,
          ?_, mirrors.msgTask⟩
        change world.queue ++ [_] = List.map _ (lives.queue ++ [_])
        rw [mirrors.queue, List.map_append]
        rfl
      · refine Eq.trans ?_ silent
        change (lives.step (.wake wakeOnExpire)).callbacks = _
        rw [stepped]
        rfl
  | task =>
    obtain ⟨calls, isAt'⟩ := mirrors.msgTask
    by_cases calling : ∃ call calls, world.msgTask = .processing (call :: calls)
    · obtain ⟨call, calls, processing⟩ := calling
      have idle : lives.task = .idle := by
        rw [processing] at isAt'
        cases isAt : lives.task with
        | idle => rfl
        | expiring | popped | stopping | calling =>
          rw [isAt] at isAt'
          cases isAt'
      simp only [TimerWorld.step, TimerWorld.task, TimerWorld.livesInputs, TimerWorld.callback,
        processing]
      exact ⟨alike.still rfl rfl rfl rfl rfl rfl ⟨calls, by rw [idle]; rfl⟩, silent⟩
    · have quiet : ∀ call calls, world.msgTask ≠ .processing (call :: calls) :=
        fun call calls processing => calling ⟨call, calls, processing⟩
      have stepped := alike.only.step_task
      have only : world.livesInputs wakeOnExpire .task = [.task] := by
        simp only [TimerWorld.livesInputs]
      rw [only]
      refine ⟨alike.next .task trivial ?_, ?_⟩
      · rw [stepped]
        exact task_mirrors alike.wired alike.only mirrors quiet
      · change (lives.step .task).callbacks = _
        rw [stepped, taskStep_callbacks alike.only, callback_mirrors mirrors]

/-- Whatever the timers of one container do, its delegates do, with the same callbacks. -/
theorem run_alike (alike : RunsAlike wakeOnExpire world lives) (inputs : List TimerInput) :
    let taken := steps TimerWorld.step world inputs
    let left := (taken.flatMap fun step => step.1.livesInputs wakeOnExpire step.2).foldl
      TimerLives.step lives
    RunsAlike wakeOnExpire (inputs.foldl TimerWorld.step world) left ∧
      left.callbacks = lives.callbacks ++ taken.filterMap fun step => step.1.callback step.2 := by
  induction inputs generalizing world lives with
  | nil => exact ⟨alike, (List.append_nil _).symm⟩
  | cons input rest ih =>
    obtain ⟨next, called⟩ := step_alike alike input
    obtain ⟨left, all⟩ := ih next
    simp only [steps, List.foldl_cons, List.flatMap_cons, List.foldl_append] at left all ⊢
    refine ⟨left, ?_⟩
    rw [all, called, List.append_assoc, List.filterMap_cons]
    cases world.callback input <;> rfl

/-- Every run of the timers of one container is a run of its delegates. -/
theorem timers_live_as_they_run (wakeOnExpire : Bool) (clock : Timespec)
    (inputs : List TimerInput) :
    let taken := steps TimerWorld.step (.start clock) inputs
    let lives := (taken.flatMap fun step => step.1.livesInputs wakeOnExpire step.2).foldl
      TimerLives.step (.start clock)
    Mirrors wakeOnExpire (inputs.foldl TimerWorld.step (.start clock)) lives ∧
      lives.callbacks = taken.filterMap fun step => step.1.callback step.2 := by
  obtain ⟨alike, called⟩ := run_alike ⟨start_mirrors wakeOnExpire clock, start_wired clock,
    start_onlyOf wakeOnExpire clock⟩ inputs
  exact ⟨alike.toMirrors, called⟩

end Runs

end Msm8917Common.Timer
