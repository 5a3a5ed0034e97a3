import Mathlib.Data.Finset.Card
import Mathlib.Data.Finset.Filter
import Mathlib.Logic.Function.Basic

/-! The event loop of `ril_event.cpp`, pointer by pointer: the circular timer and
pending lists, the watch table, and a loop that keeps pointers in local variables
while calls come in between and inside callbacks. Nothing keeps an event from being
added twice, so no list is assumed to be well formed. -/
namespace Msm8917Common.Ril.Event

def MAX_FD_EVENTS : Nat := 8

structure Timeval where
  tv_sec : Int
  tv_usec : Int
  deriving DecidableEq

/-- `timercmp(a, b, <)`. -/
def Timeval.before (a b : Timeval) : Bool :=
  if a.tv_sec = b.tv_sec then a.tv_usec < b.tv_usec else a.tv_sec < b.tv_sec

def timeradd (a b : Timeval) : Timeval :=
  let tv_sec := a.tv_sec + b.tv_sec
  let tv_usec := a.tv_usec + b.tv_usec
  if 1000000 ≤ tv_usec then ⟨tv_sec + 1, tv_usec - 1000000⟩ else ⟨tv_sec, tv_usec⟩

/-- What a `struct ril_event *` may point to: a list head or an event of a caller. -/
inductive Node where
  | timer_list
  | pending_list
  | event (ev : Nat)
  deriving DecidableEq

/-- The callback and its parameter are those of the event itself. -/
structure RilEvent where
  next : Option Node
  prev : Option Node
  fd : Int
  index : Int
  persist : Bool
  timeout : Timeval

abbrev Memory := Node → RilEvent

/-- Where the loop thread stands, with its local variables. The mutex is held in
`timeouts` and in `readies` only. `ready` is before `firePending` reads the list. -/
inductive Control where
  | top
  | polling (rfds : Finset Int) (nfds : Int)
  | selected (rfds : Finset Int) (n : Nat)
  | timeouts (rfds : Finset Int) (n : Nat) (now : Timeval) (tev : Option Node)
  | timedOut (rfds : Finset Int) (n : Nat)
  | readies (rfds : Finset Int) (n i : Nat)
  | ready
  | firing (ev : Option Node)
  | returned
  | crashed
  deriving DecidableEq

/-- `seeking` holds the `ev` and the `list` of a `ril_timer_add` that walks the timer
list. `deleted` records which events were deleted and not added since. -/
structure State where
  node : Memory
  watch_table : Nat → Option Nat
  readFds : Finset Int
  nfds : Int
  control : Control
  seeking : Option (Nat × Option Node)
  deleted : Finset Nat

/-! The lists -/

def setNext (ev : Node) (next : Option Node) (node : Memory) : Memory :=
  Function.update node ev { node ev with next }

def setPrev (ev : Node) (prev : Option Node) (node : Memory) : Memory :=
  Function.update node ev { node ev with prev }

/-- `none` where a null pointer is followed. -/
def addToList (ev list : Node) (node : Memory) : Option Memory :=
  let node := setNext ev (some list) node
  let node := setPrev ev (node list).prev node
  match (node ev).prev with
  | none => none
  | some prev => some (setPrev list (some ev) (setNext prev (some ev) node))

def removeFromList (ev : Node) (node : Memory) : Option Memory :=
  match (node ev).next with
  | none => none
  | some next =>
    let node := setPrev next (node ev).prev node
    match (node ev).prev with
    | none => none
    | some prev =>
      let node := setNext prev (node ev).next node
      some (setPrev ev none (setNext ev none node))

namespace State

def crash (state : State) : State := { state with control := .crashed }

/-! The watch table -/

/-- The largest descriptor in the table, and 0 if there is none above it. -/
def largestFd (node : Memory) (watch_table : Nat → Option Nat) : Int :=
  (List.range MAX_FD_EVENTS).foldl (fun n i =>
    match watch_table i with
    | some rev => if n < (node (.event rev)).fd then (node (.event rev)).fd else n
    | none => n) 0

/-- A descriptor outside of an `fd_set` is kept in the set like any other. -/
def removeWatch (ev : Nat) (index : Nat) (state : State) : State :=
  let watch_table := Function.update state.watch_table index none
  let node := Function.update state.node (.event ev) { state.node (.event ev) with index := -1 }
  let fd := (node (.event ev)).fd
  { state with
    node, watch_table
    readFds := state.readFds.erase fd
    nfds := if fd + 1 = state.nfds then largestFd node watch_table + 1 else state.nfds }

/-! The calls -/

def freeSlot (state : State) : Option Nat :=
  (List.range MAX_FD_EVENTS).find? fun i => (state.watch_table i).isNone

/-- With the table full nothing is added. -/
def ril_event_add (ev : Nat) (state : State) : State :=
  match state.freeSlot with
  | none => state
  | some i =>
    let fd := (state.node (.event ev)).fd
    { state with
      watch_table := Function.update state.watch_table i (some ev)
      node := Function.update state.node (.event ev) { state.node (.event ev) with index := i }
      readFds := insert fd state.readFds
      nfds := if state.nfds ≤ fd then fd + 1 else state.nfds
      deleted := state.deleted.erase ev }

/-- `ril_timer_add` up to its walk along the list. -/
def ril_timer_add (ev : Nat) (tv : Option Timeval) (now : Timeval) (state : State) : State :=
  match tv with
  | none => state
  | some tv =>
    { state with
      node := Function.update state.node (.event ev)
        { state.node (.event ev) with fd := -1, timeout := timeradd now tv }
      seeking := some (ev, (state.node .timer_list).next)
      deleted := state.deleted.erase ev }

/-- One turn of that walk, and the insertion at its end. -/
def walk (state : State) : State :=
  match state.seeking with
  | none => state
  | some (_, none) => state.crash
  | some (ev, some list) =>
    if (state.node list).timeout.before (state.node (.event ev)).timeout ∧ list ≠ .timer_list then
      { state with seeking := some (ev, (state.node list).next) }
    else
      match addToList (.event ev) list state.node with
      | none => state.crash
      | some node => { state with node, seeking := none }

def ril_event_del (ev : Nat) (state : State) : State :=
  let index := (state.node (.event ev)).index
  let deleted := insert ev state.deleted
  if index < 0 ∨ MAX_FD_EVENTS ≤ index then { state with deleted }
  else { removeWatch ev index.toNat state with deleted }

/-! The loop -/

/-- One turn of the loop of `processTimeouts`. -/
def processTimeouts (rfds : Finset Int) (n : Nat) (now : Timeval) (tev : Option Node)
    (state : State) : State :=
  match tev with
  | none => state.crash
  | some tev =>
    if tev ≠ .timer_list ∧ (state.node tev).timeout.before now then
      let next := (state.node tev).next
      match (removeFromList tev state.node).bind (addToList tev .pending_list) with
      | none => state.crash
      | some node => { state with node, control := .timeouts rfds n now next }
    else { state with control := .timedOut rfds n }

/-- One turn of the loop of `processReadReadies`. -/
def processReadReadies (rfds : Finset Int) (n i : Nat) (state : State) : State :=
  if i < MAX_FD_EVENTS ∧ 0 < n then
    match state.watch_table i with
    | none => { state with control := .readies rfds n (i + 1) }
    | some rev =>
      if (state.node (.event rev)).fd ∈ rfds then
        match addToList (.event rev) .pending_list state.node with
        | none => state.crash
        | some node =>
          let state := { state with node, control := .readies rfds (n - 1) (i + 1) }
          if (state.node (.event rev)).persist then state else removeWatch rev i state
      else { state with control := .readies rfds n (i + 1) }
  else { state with control := .ready }

/-- One turn of the loop of `firePending`, up to the callback. The timer list's own
callback is null. -/
def firePending (ev : Option Node) (state : State) : State :=
  match ev with
  | none => state.crash
  | some .pending_list => { state with control := .top }
  | some ev =>
    let next := (state.node ev).next
    match removeFromList ev state.node with
    | none => state.crash
    | some node =>
      if ev = .timer_list then state.crash else { state with node, control := .firing next }

/-- What `ril_event_loop` does next without an answer from outside. -/
def loopStep (state : State) : State :=
  match state.control with
  | .top =>
    -- `calcNextTimeout` looks at the first timer.
    match (state.node .timer_list).next with
    | none => state.crash
    | some _ => { state with control := .polling state.readFds state.nfds }
  | .timeouts rfds n now tev => processTimeouts rfds n now tev state
  | .timedOut rfds n => { state with control := .readies rfds n 0 }
  | .readies rfds n i => processReadReadies rfds n i state
  | .ready => { state with control := .firing (state.node .pending_list).next }
  | .firing ev => firePending ev state
  | .polling .. | .selected .. | .returned | .crashed => state

/-- Whether the mutex is free for a call. -/
def callable (state : State) : Bool :=
  match state.control with
  | .timeouts .. | .readies .. | .crashed => false
  | _ => state.seeking.isNone

end State

/-- What happens next: a turn of the loop, an answer of `select` (the descriptors
that are ready, an interruption, another error) or of the clock, a call, or a turn
of `ril_timer_add`. -/
inductive Input where
  | loop
  | select (ready : Finset Int)
  | interrupted
  | failed
  | getNow (now : Timeval)
  | ril_event_add (ev : Nat)
  | ril_timer_add (ev : Nat) (tv : Option Timeval) (now : Timeval)
  | walk
  | ril_event_del (ev : Nat)
  deriving DecidableEq

namespace State

/-- While `ril_timer_add` walks, it is inside a call and nothing else goes on. -/
def step (state : State) (input : Input) : State :=
  match input, state.control, state.seeking with
  | _, .crashed, _ => state
  | .walk, _, some _ => state.walk
  | _, _, some _ => state
  | .loop, _, none => state.loopStep
  | .select ready, .polling rfds nfds, none =>
    let rfds := rfds.filter fun fd => fd ∈ ready ∧ fd < nfds
    { state with control := .selected rfds rfds.card }
  | .interrupted, .polling _ _, none => { state with control := .top }
  | .failed, .polling _ _, none => { state with control := .returned }
  | .getNow now, .selected rfds n, none =>
    { state with control := .timeouts rfds n now (state.node .timer_list).next }
  | .ril_event_add ev, _, none => if state.callable then state.ril_event_add ev else state
  | .ril_timer_add ev tv now, _, none =>
    if state.callable then state.ril_timer_add ev tv now else state
  | .ril_event_del ev, _, none => if state.callable then state.ril_event_del ev else state
  | _, _, none => state

/-- The event whose callback the step invokes. -/
def fired (state : State) (input : Input) : Option Nat :=
  match input, state.control, state.seeking with
  | .loop, .firing (some (.event ev)), none =>
    (removeFromList (.event ev) state.node).map fun _ => ev
  | _, _, _ => none

end State

/-- A head after `init_list`, and an event after `ril_event_set` with a descriptor
and `persist`. -/
def initialNode (fd : Nat → Int) (persist : Nat → Bool) : Memory
  | .event ev => ⟨none, none, fd ev, -1, persist ev, ⟨0, 0⟩⟩
  | head => ⟨some head, some head, -1, 0, false, ⟨0, 0⟩⟩

/-- After `ril_event_init`. -/
def initial (fd : Nat → Int) (persist : Nat → Bool) : State :=
  ⟨initialNode fd persist, fun _ => none, ∅, 0, .top, none, ∅⟩

end Msm8917Common.Ril.Event
