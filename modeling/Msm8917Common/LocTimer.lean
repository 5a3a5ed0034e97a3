import Mathlib.Algebra.Group.Nat.Defs
import Msm8917Common.LocHeap
import Mathlib.Logic.Function.Basic

/-! `LocTimer.cpp`: the timers of one `LocTimerContainer`. The clients start and
stop timers, which only queues messages; the message task keeps the heap and sets
the timerfd; the poll thread turns a wake-up into a message. Every call that one
of the two threads makes to the kernel is a step of its own. -/
namespace Msm8917Common.Timer

/-- `struct timespec`, as the kernel and `LocTimer::start` fill it in: a time after
the boot, so never the zero that disarms a timerfd. -/
structure Timespec where
  tv_sec : Nat
  tv_nsec : Nat
  normal : tv_nsec < 1000000000
  booted : 0 < tv_sec + tv_nsec
  deriving DecidableEq

namespace Timespec

def nanos (time : Timespec) : Nat := time.tv_sec * 1000000000 + time.tv_nsec

instance : LE Timespec := ⟨fun one other => one.nanos ≤ other.nanos⟩

instance (one other : Timespec) : Decidable (one ≤ other) :=
  inferInstanceAs (Decidable (one.nanos ≤ other.nanos))

/-- The future time that `LocTimer::start` works out. -/
def after (now : Timespec) (timeOutInMs : UInt32) : Timespec :=
  let tv_sec := now.tv_sec + timeOutInMs.toNat / 1000
  let tv_nsec := now.tv_nsec + timeOutInMs.toNat % 1000 * 1000000
  have booted := now.booted
  if large : tv_nsec ≥ 1000000000 then
    ⟨tv_sec + tv_nsec / 1000000000, tv_nsec % 1000000000, by omega, by omega⟩
  else ⟨tv_sec, tv_nsec, by omega, by omega⟩

/-- A difference stored in an `int`. -/
def toInt (difference : Int) : Int := difference.bmod (2 ^ 32)

/-- `LocTimerDelegate::ranks`, which looks at the future times only. -/
def ranks (time other : Timespec) : Int :=
  let rank := toInt (other.tv_sec - time.tv_sec)
  if rank = 0 then toInt (other.tv_nsec - time.tv_nsec) else rank

def outRanks (time other : Timespec) : Bool := time.ranks other > 0

end Timespec

/-- `LocTimerDelegate`, without `mClient`, which changes. -/
structure LocTimerDelegate where
  address : Nat
  mFutureTime : Timespec
  deriving DecidableEq

def LocTimerDelegate.outRanks (timer other : LocTimerDelegate) : Bool :=
  timer.mFutureTime.outRanks other.mFutureTime

inductive TimerMsg where
  | push (timer : LocTimerDelegate)
  | remove (timer : LocTimerDelegate)
  | expire
  deriving DecidableEq

/-- A call to the kernel. A zero time, which disarms the timerfd, is `none`. -/
inductive DeviceCall where
  | addPoll
  | removePoll
  | settime (time : Option Timespec)
  deriving DecidableEq

/-- The timerfd of the container, and whether the poll thread polls it. -/
structure Timerfd where
  armed : Option Timespec
  polled : Bool
  deriving DecidableEq

def Timerfd.call (fd : Timerfd) : DeviceCall → Timerfd
  | .addPoll => { fd with polled := true }
  | .removePoll => { fd with polled := false }
  | .settime time => { fd with armed := time }

/-- Where the message task is: it has calls to make before it takes its next
message; or is in the loop of `MsgTimerExpire`, before the first pop or a later
one; or in the `expire` of what it has popped, before it reads `mClient`, before it
stops that client, and before it calls it back. -/
inductive MsgTask where
  | processing (calls : List DeviceCall)
  | expiring (timerOfNow : Timespec) (first : Bool)
  | popped (timerOfNow : Timespec) (timer : LocTimerDelegate)
  | stopping (timerOfNow : Timespec) (timer : LocTimerDelegate) (client : Nat)
  | calling (timerOfNow : Timespec) (timer : LocTimerDelegate) (client : Nat)
      (stopped : LocTimerDelegate)
  deriving DecidableEq

/-- Where the poll thread is: in `epoll_wait`, or in `LocTimerContainer::expire`,
before each of its three calls. -/
inductive PollTask where
  | waiting | woken | disarmed | removed
  deriving DecidableEq

structure TimerWorld where
  clock : Timespec
  mTree : LocHeapNode LocTimerDelegate
  /-- `mTimer` of each `LocTimer`. -/
  mTimer : Nat → Option LocTimerDelegate
  mClient : LocTimerDelegate → Option Nat
  allocated : Nat
  queue : List TimerMsg
  msgTask : MsgTask
  fd : Timerfd
  pollTask : PollTask

/-- `LocTimerContainer::updateSoonestTime`: the calls it makes. -/
def updateSoonestTime (mTree : LocHeapNode LocTimerDelegate)
    (priorTop : Option LocTimerDelegate) : List DeviceCall :=
  if mTree.peek = priorTop then []
  else
    match mTree.peek with
    | none => [.removePoll, .settime none]
    | some curTop =>
      if priorTop.all curTop.outRanks then [.addPoll, .settime (some curTop.mFutureTime)] else []

namespace TimerWorld
variable (world : TimerWorld)

/-- Nothing is started yet; the clock counts since boot. -/
def start (clock : Timespec) : TimerWorld where
  clock := clock
  mTree := .null
  mTimer := fun _ => none
  mClient := fun _ => none
  allocated := 0
  queue := []
  msgTask := .processing []
  fd := ⟨none, false⟩
  pollTask := .waiting

def sendMsg (msg : TimerMsg) : TimerWorld := { world with queue := world.queue ++ [msg] }

/-- `LocTimer::start`. A timer that runs is left alone. -/
def startTimer (client : Nat) (timeOutInMs : UInt32) : TimerWorld :=
  match world.mTimer client with
  | some _ => world
  | none =>
    let timer : LocTimerDelegate := ⟨world.allocated, world.clock.after timeOutInMs⟩
    { world with
      mTimer := Function.update world.mTimer client (some timer)
      mClient := Function.update world.mClient timer (some client)
      allocated := world.allocated + 1 }.sendMsg (.push timer)

/-- `LocTimer::stop`, with the delegate that it took off. It returns true where there
is one. -/
def stopTimer (client : Nat) : TimerWorld × Option LocTimerDelegate :=
  match world.mTimer client with
  | none => (world, none)
  | some timer =>
    ({ world with
        mTimer := Function.update world.mTimer client none
        mClient := Function.update world.mClient timer none }.sendMsg (.remove timer), some timer)

/-- The `proc` of each message; that of `MsgTimerExpire` only starts here. The
delegate that `MsgTimerRemove` deletes has had its `mClient` cleared before. -/
def proc : TimerMsg → TimerWorld
  | .push timer =>
    let priorTop := world.mTree.peek
    let mTree := world.mTree.push LocTimerDelegate.outRanks timer
    { world with mTree := mTree, msgTask := .processing (updateSoonestTime mTree priorTop) }
  | .remove timer =>
    let priorTop := world.mTree.peek
    let mTree := world.mTree.remove LocTimerDelegate.outRanks timer
    let removed := if mTree.isSome then some timer else none
    { world with
      mTree := mTree.getD world.mTree
      msgTask := .processing (if priorTop = removed then
        updateSoonestTime (mTree.getD world.mTree) none else []) }
  | .expire => { world with msgTask := .expiring world.clock true }

/-- What the loop of `MsgTimerExpire` pops next. The first pop looks at no time. -/
def popped (timerOfNow : Timespec) (first : Bool) : Option LocTimerDelegate :=
  world.mTree.peek.filter fun top => first || !timerOfNow.outRanks top.mFutureTime

/-- One step of the message task. `LocTimerDelegate::expire` reads `mClient` without the
lock of its timer, and stops whatever timer that client has by then. -/
def task : TimerWorld :=
  match world.msgTask with
  | .processing [] =>
    match world.queue with
    | [] => world
    | msg :: rest => { world with queue := rest }.proc msg
  | .processing (call :: calls) =>
    { world with fd := world.fd.call call, msgTask := .processing calls }
  | .expiring timerOfNow first =>
    match world.popped timerOfNow first with
    | none => { world with msgTask := .processing (updateSoonestTime world.mTree none) }
    | some timer =>
      { world with
        mTree := world.mTree.pop LocTimerDelegate.outRanks
        msgTask := .popped timerOfNow timer }
  | .popped timerOfNow timer =>
    match world.mClient timer with
    | none => { world with msgTask := .expiring timerOfNow false }
    | some client => { world with msgTask := .stopping timerOfNow timer client }
  | .stopping timerOfNow timer client =>
    match world.stopTimer client with
    | (next, none) => { next with msgTask := .expiring timerOfNow false }
    | (next, some stopped) => { next with msgTask := .calling timerOfNow timer client stopped }
  | .calling timerOfNow _ _ _ => { world with msgTask := .expiring timerOfNow false }

/-- `epoll_wait` returns if the timerfd is polled and has expired. -/
def wake : TimerWorld :=
  if world.pollTask = .waiting ∧ world.fd.polled = true ∧
      ∃ time ∈ world.fd.armed, time ≤ world.clock then
    { world with pollTask := .woken }
  else world

/-- One step of `LocTimerContainer::expire` in the poll thread. -/
def poll : TimerWorld :=
  match world.pollTask with
  | .waiting => world
  | .woken => { world with fd := world.fd.call (.settime none), pollTask := .disarmed }
  | .disarmed => { world with fd := world.fd.call .removePoll, pollTask := .removed }
  | .removed => { world.sendMsg .expire with pollTask := .waiting }

end TimerWorld

/-- What happens next, in any of the threads. -/
inductive TimerInput where
  | start (client : Nat) (timeOutInMs : UInt32)
  | stop (client : Nat)
  | tick (time : Timespec)
  | wake
  | poll
  | task
  deriving DecidableEq

namespace TimerWorld

/-- The clock does not go back. -/
def step (world : TimerWorld) : TimerInput → TimerWorld
  | .start client timeOutInMs => world.startTimer client timeOutInMs
  | .stop client => (world.stopTimer client).1
  | .tick time => { world with clock := if world.clock ≤ time then time else world.clock }
  | .wake => world.wake
  | .poll => world.poll
  | .task => world.task

/-- The client that a step calls back, and the timer that was taken off it for that. -/
def callback (world : TimerWorld) : TimerInput → Option (Nat × LocTimerDelegate)
  | .task =>
    match world.msgTask with
    | .calling _ _ client stopped => some (client, stopped)
    | _ => none
  | _ => none

end TimerWorld
end Msm8917Common.Timer
