import Msm8917Common.LocTimer

/-! `LocTimer.cpp`, for what is allocated: the delegates of both containers, the timers
that they call back, and the lock that each timer shares with its delegates. A timer's
client can come in wherever the message task does not hold that lock. When the poll
thread queues a wake-up is left open. -/
namespace Msm8917Common.Timer

/-- What does not change in a `LocTimerDelegate`. A timer and its lock have one number. -/
structure Delegate extends LocTimerDelegate where
  mLock : Nat
  wakeOnExpire : Bool
  deriving DecidableEq

def Delegate.outRanks (timer other : Delegate) : Bool :=
  timer.toLocTimerDelegate.outRanks other.toLocTimerDelegate

inductive ContainerMsg where
  | push (timer : Delegate)
  | remove (timer : Delegate)
  | expire (wakeOnExpire : Bool)
  deriving DecidableEq

/-- Where the message task is in `MsgTimerExpire`: in its loop, or in the `expire` of what
it has popped, before it reads `mClient`, before it stops that client, and before it
calls it back. -/
inductive ExpireTask where
  | idle
  | expiring (wakeOnExpire : Bool) (timerOfNow : Timespec) (first : Bool)
  | popped (wakeOnExpire : Bool) (timerOfNow : Timespec) (timer : Delegate)
  | stopping (wakeOnExpire : Bool) (timerOfNow : Timespec) (timer : Delegate) (client : Nat)
  | calling (wakeOnExpire : Bool) (timerOfNow : Timespec) (timer : Delegate) (client : Nat)
      (stopped : Delegate)
  deriving DecidableEq

/-- How a delegate has come off its timer: by a `stop` of the client, or for a callback. -/
inductive Ending where
  | stopped (timer : Delegate)
  | calledBack (client : Nat) (popped stopped : Delegate)
  deriving DecidableEq

structure TimerLives where
  clock : Timespec
  mTree : Bool → LocHeapNode Delegate
  queue : List ContainerMsg
  task : ExpireTask
  /-- The `LocTimer`s that are not deleted. -/
  alive : Nat → Bool
  mTimer : Nat → Option Delegate
  mRef : Nat → Nat
  mClient : Delegate → Option Nat
  /-- Whether `mContainer` is still set. -/
  mContainer : Delegate → Bool
  created : List Delegate
  deleted : List Delegate
  deletedLocks : List Nat
  endings : List Ending
  /-- A delegate or a lock was used after its deletion. -/
  misused : Bool
  /-- The message task has used a timer after its deletion. -/
  deadClient : Bool

namespace TimerLives

/-- Every timer there is going to be has its lock, and nobody else has it. -/
def start (clock : Timespec) : TimerLives where
  clock := clock
  mTree := fun _ => .null
  queue := []
  task := .idle
  alive := fun _ => true
  mTimer := fun _ => none
  mRef := fun _ => 1
  mClient := fun _ => none
  mContainer := fun _ => false
  created := []
  deleted := []
  deletedLocks := []
  endings := []
  misused := false
  deadClient := false

variable (world : TimerLives)

def use (timers : List Delegate) : TimerLives :=
  { world with misused := world.misused || timers.any (world.deleted.contains ·) }

def useLock (lock : Nat) : TimerLives :=
  { world with misused := world.misused || world.deletedLocks.contains lock }

/-- `LocSharedLock::drop`. -/
def drop (lock : Nat) : TimerLives :=
  { world.useLock lock with
    mRef := Function.update world.mRef lock (world.mRef lock - 1)
    deletedLocks := if world.mRef lock = 1 then lock :: world.deletedLocks
      else world.deletedLocks }

/-- The constructor of `LocTimerDelegate`, in `LocTimer::start`. -/
def started (timer : Delegate) : TimerLives :=
  { world.useLock timer.mLock with
    mTimer := Function.update world.mTimer timer.mLock (some timer)
    mRef := Function.update world.mRef timer.mLock (world.mRef timer.mLock + 1)
    mClient := Function.update world.mClient timer (some timer.mLock)
    mContainer := Function.update world.mContainer timer true
    created := timer :: world.created
    queue := world.queue ++ [.push timer] }

/-- `LocTimer::start`, where a container may be missing. -/
def startTimer (client : Nat) (timeOutInMs : UInt32) (wakeOnExpire container : Bool) :
    TimerLives :=
  match world.mTimer client, container with
  | none, true => world.started
      ⟨⟨world.created.length, world.clock.after timeOutInMs⟩, client, wakeOnExpire⟩
  | _, _ => world.useLock client

/-- `LocTimerDelegate::destroyLocked`. -/
def destroyLocked (timer : Delegate) : TimerLives :=
  { world.use [timer] with
    mClient := Function.update world.mClient timer none
    mContainer := Function.update world.mContainer timer false
    queue := world.queue ++ bif world.mContainer timer then [.remove timer] else [] }

/-- `LocTimer::stop`, with the delegate that it took off. -/
def stopTimer (client : Nat) : TimerLives × Option Delegate :=
  match world.mTimer client with
  | none => (world.useLock client, none)
  | some timer =>
    ({ world.useLock client with
      mTimer := Function.update world.mTimer client none }.destroyLocked timer, some timer)

/-- `stop` as a client calls it. -/
def stopByClient (client : Nat) : TimerLives :=
  let next := world.stopTimer client
  { next.1 with endings := next.1.endings ++ next.2.toList.map .stopped }

/-- `~LocTimer`. -/
def destroyTimer (client : Nat) : TimerLives :=
  { (world.stopByClient client).drop client with
    alive := Function.update world.alive client false }

/-- The `proc` of each message. A change of a tree compares delegates that are in it. -/
def proc : ContainerMsg → TimerLives
  | .push timer =>
    let tree := world.mTree timer.wakeOnExpire
    { world.use (timer :: tree.toList) with
      mTree := Function.update world.mTree timer.wakeOnExpire
        (tree.push Delegate.outRanks timer) }
  | .remove timer =>
    let tree := world.mTree timer.wakeOnExpire
    { (world.use (timer :: tree.toList)).drop timer.mLock with
      mTree := Function.update world.mTree timer.wakeOnExpire
        ((tree.remove Delegate.outRanks timer).getD tree)
      deleted := timer :: world.deleted }
  | .expire wakeOnExpire => { world with task := .expiring wakeOnExpire world.clock true }

/-- What the loop of `MsgTimerExpire` pops next. -/
def nextPopped (wakeOnExpire : Bool) (timerOfNow : Timespec) (first : Bool) : Option Delegate :=
  (world.mTree wakeOnExpire).peek.filter fun top =>
    first || !timerOfNow.outRanks top.mFutureTime

/-- One step of the message task. -/
def taskStep : TimerLives :=
  match world.task with
  | .idle =>
    match world.queue with
    | [] => world
    | msg :: rest => { world with queue := rest }.proc msg
  | .expiring wakeOnExpire timerOfNow first =>
    let tree := world.mTree wakeOnExpire
    match world.nextPopped wakeOnExpire timerOfNow first with
    | none => { world.use tree.toList with task := .idle }
    | some timer =>
      { world.use tree.toList with
        mTree := Function.update world.mTree wakeOnExpire (tree.pop Delegate.outRanks)
        task := .popped wakeOnExpire timerOfNow timer }
  | .popped wakeOnExpire timerOfNow timer =>
    match world.mClient timer with
    | none => { world.use [timer] with task := .expiring wakeOnExpire timerOfNow false }
    | some client =>
      { world.use [timer] with task := .stopping wakeOnExpire timerOfNow timer client }
  | .stopping wakeOnExpire timerOfNow timer client =>
    if world.alive client then
      match world.stopTimer client with
      | (next, none) => { next with task := .expiring wakeOnExpire timerOfNow false }
      | (next, some stopped) =>
        { next with task := .calling wakeOnExpire timerOfNow timer client stopped }
    else { world with deadClient := true }
  | .calling wakeOnExpire timerOfNow timer client stopped =>
    if world.alive client then
      { world with
        endings := world.endings ++ [.calledBack client timer stopped]
        task := .expiring wakeOnExpire timerOfNow false }
    else { world with deadClient := true }

end TimerLives

/-- What happens next. A callback's own calls are those of a client. -/
inductive LivesInput where
  | start (client : Nat) (timeOutInMs : UInt32) (wakeOnExpire container : Bool)
  | stop (client : Nat)
  | destroy (client : Nat)
  | tick (time : Timespec)
  | wake (wakeOnExpire : Bool)
  | task
  deriving DecidableEq

/-- A client does not use a timer that it has deleted. What comes after the message task
has done so is open. -/
def TimerLives.step (world : TimerLives) (input : LivesInput) : TimerLives :=
  if world.deadClient then world
  else match input with
    | .start client timeOutInMs wakeOnExpire container =>
      if world.alive client then world.startTimer client timeOutInMs wakeOnExpire container
      else world
    | .stop client => if world.alive client then world.stopByClient client else world
    | .destroy client => if world.alive client then world.destroyTimer client else world
    | .tick time => { world with clock := if world.clock ≤ time then time else world.clock }
    | .wake wakeOnExpire => { world with queue := world.queue ++ [.expire wakeOnExpire] }
    | .task => world.taskStep

end Msm8917Common.Timer
