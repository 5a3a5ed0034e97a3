import Mathlib.Data.List.Basic

/-! `LocThread.cpp`: one thread with the delegate that it shares with its parent. Each
access to the delegate is a step of its own, so a list of steps is one way in which the
two threads interleave. -/
namespace Msm8917Common.LocThread

/-- Where a thread is in `destroy`. -/
inductive DestroyPc where
  | check | decrement | delete
  deriving DecidableEq

/-- Where the parent is. `holds`: the `LocThread` has its delegate. `gone`: it has given
it up. -/
inductive ParentPc where
  | construct | checkRunning | holds | readJoinable | stopRunnable | stopJoinable | join
  | destroy (pc : DestroyPc)
  | gone
  deriving DecidableEq

/-- Where `threadMain` is. `never`: the thread was not created. -/
inductive SpawnedPc where
  | never | load | checkPrerun | prerun | checkLoop | run | checkPostrun | postrun
  | nullRunnable | deleteRunnable
  | destroy (pc : DestroyPc)
  | done
  deriving DecidableEq

/-- The delegate's fields; its deletions and the runnable's; an access to either after it
was deleted; what `start` has returned; and whether `stop` cleared the runnable before
the thread had read it. -/
structure ThreadState where
  mRunnable : Bool
  mJoinable : Bool
  mRefCount : Nat
  parent : ParentPc
  spawned : SpawnedPc
  deleted : Nat
  runnableDeleted : Nat
  touchedDeleted : Bool
  usedDeleted : Bool
  started : Option Bool
  stoppedFirst : Bool

/-- The constructor's values are those of a thread that runs. -/
def ThreadState.start (joinable : Bool) : ThreadState where
  mRunnable := true
  mJoinable := joinable
  mRefCount := 2
  parent := .construct
  spawned := .never
  deleted := 0
  runnableDeleted := 0
  touchedDeleted := false
  usedDeleted := false
  started := none
  stoppedFirst := false

inductive ThreadEvent where
  | created (succeeds : Bool)
  | stop
  | release
  | parent
  | spawned (runReturns : Bool)
  deriving DecidableEq

namespace ThreadState

/-- An access to the delegate. -/
def touch (state : ThreadState) : ThreadState :=
  { state with touchedDeleted := state.touchedDeleted || decide (0 < state.deleted) }

/-- A call of a method of the runnable. -/
def use (state : ThreadState) : ThreadState :=
  { state with usedDeleted := state.usedDeleted || decide (0 < state.runnableDeleted) }

/-- A step of `destroy`: where it goes on, or that it is left. -/
def destroy (pc : DestroyPc) (state : ThreadState) : ThreadState × Option DestroyPc :=
  match pc with
  | .check => (state.touch, if 0 < state.mRefCount then some .decrement else none)
  | .decrement =>
    ({ state.touch with mRefCount := state.mRefCount - 1 },
      if state.mRefCount = 1 then some .delete else none)
  | .delete => ({ state.touch with deleted := state.deleted + 1 }, none)

/-- The end of the constructor. -/
def construct (succeeds : Bool) (state : ThreadState) : ThreadState :=
  if succeeds then { state with parent := .checkRunning, spawned := .load }
  else { state with
    mRunnable := false
    mJoinable := false
    mRefCount := 1
    parent := .checkRunning }

/-- A step of the parent behind the constructor, besides the calls of its client. -/
def parentStep (state : ThreadState) : ThreadState :=
  match state.parent with
  | .construct => state
  | .checkRunning =>
    if state.mRunnable then { state.touch with parent := .holds, started := some true }
    else { state.touch with parent := .destroy .check, started := some false }
  | .holds => state
  | .readJoinable =>
    if state.mJoinable then { state.touch with parent := .stopRunnable }
    else { state.touch with parent := .destroy .check }
  | .stopRunnable => { state.touch with
      mRunnable := false
      stoppedFirst := state.stoppedFirst || decide (state.spawned = .load)
      parent := .stopJoinable }
  | .stopJoinable =>
    if state.mJoinable then { state.touch with mJoinable := false, parent := .join }
    else { state.touch with parent := .destroy .check }
  -- `pthread_join` waits for the other thread
  | .join => if state.spawned = .done then { state with parent := .destroy .check } else state
  | .destroy pc =>
    match state.destroy pc with
    | (state, some pc) => { state with parent := .destroy pc }
    | (state, none) => { state with parent := .gone }
  | .gone => state

/-- A step of `threadMain`. -/
def spawnedStep (runReturns : Bool) (state : ThreadState) : ThreadState :=
  match state.spawned with
  | .never => state
  | .load =>
    if state.mRunnable then { state.touch with spawned := .checkPrerun }
    else { state.touch with spawned := .destroy .check }
  | .checkPrerun =>
    if state.mRunnable then { state.touch with spawned := .prerun }
    else { state.touch with spawned := .checkLoop }
  | .prerun => { state.use with spawned := .checkLoop }
  | .checkLoop =>
    if state.mRunnable then { state.touch with spawned := .run }
    else { state.touch with spawned := .checkPostrun }
  | .run =>
    if runReturns then { state.use with spawned := .checkLoop }
    else { state.use with spawned := .checkPostrun }
  | .checkPostrun =>
    if state.mRunnable then { state.touch with spawned := .postrun }
    else { state.touch with spawned := .nullRunnable }
  | .postrun => { state.use with spawned := .nullRunnable }
  | .nullRunnable => { state.touch with mRunnable := false, spawned := .deleteRunnable }
  | .deleteRunnable => { state.use with
      runnableDeleted := state.runnableDeleted + 1
      spawned := .destroy .check }
  | .destroy pc =>
    match state.destroy pc with
    | (state, some pc) => { state with spawned := .destroy pc }
    | (state, none) => { state with spawned := .done }
  | .done => state

/-- The client may stop or release its thread as long as it has the delegate. -/
def step (state : ThreadState) : ThreadEvent → ThreadState
  | .created succeeds => if state.parent = .construct then state.construct succeeds else state
  | .stop => if state.parent = .holds then { state with parent := .stopRunnable } else state
  | .release => if state.parent = .holds then { state with parent := .readJoinable } else state
  | .parent => state.parentStep
  | .spawned runReturns => state.spawnedStep runReturns

end ThreadState

end Msm8917Common.LocThread
