import Mathlib.Data.BitVec
import Mathlib.Logic.Function.Basic
import Msm8917Common.RwLock

/-! The callback objects of the radio service and the lock around them:
`setResponseFunctions`, `checkReturnStatus` and the callers of the callbacks in
`ril_service.cpp` and `ril.cpp`. Each thread takes one step at a time, so a list of
steps is one way in which the threads interleave. -/
namespace Msm8917Common.RilCallbacks
open RwLocks

/-- The radio service of a slot, or its OEM hook. -/
structure Service where
  slotId : Nat
  isRadioService : Bool
  deriving DecidableEq

/-- `mRadioResponse` and `mRadioIndication`, or those of the OEM hook. -/
structure Callbacks where
  response : Option Nat
  indication : Option Nat
  deriving DecidableEq

def Callbacks.null : Callbacks := ⟨none, none⟩

def Callbacks.used (callbacks : Callbacks) (indication : Bool) : Option Nat :=
  if indication then callbacks.indication else callbacks.response

/-- What a thread has still to do. `failed` are the callbacks that a call failed on,
and `noted` is how often they had been set when the counter was noted. -/
inductive Action where
  | rdlock (slotId : Nat)
  | wrlock (slotId : Nat)
  | unlock (slotId : Nat)
  | setCallbacks (service : Service) (callbacks : Callbacks)
  | call (service : Service) (indication : Bool)
  | nitzTimeReceivedInd (service : Service)
  | noteCounter (service : Service) (failed : Callbacks)
  | resetCallbacks (service : Service) (counter : BitVec 32) (failed : Callbacks) (noted : Nat)
  | ifNitz (slotId : Nat)
  | checkNitz (slotId : Nat)
  | resendNitz (service : Service)
  | freeNitz
  | storeNitz
  deriving DecidableEq

/-- One reset: the callbacks that a call failed on, those that were cleared, and how
often they had been set at the two times. -/
structure Reset where
  failed : Callbacks
  cleared : Callbacks
  noted : Nat
  now : Nat

/-- `updates` counts what `mCounter` counts, without an end. `lastNitz` says whether
`s_lastNITZTimeData` is set. `undefined`: a lock was released by a thread without it. -/
structure ServiceState where
  locks : Nat → RwLock Nat
  callbacks : Service → Callbacks
  mCounter : Service → BitVec 32
  updates : Service → Nat
  lastNitz : Bool
  threads : Nat → List Action
  resets : List Reset
  undefined : Bool

def ServiceState.start : ServiceState :=
  ⟨fun _ => .free, fun _ => .null, fun _ => 0, fun _ => 0, false, fun _ => [], [], false⟩

/-- The lock of a slot: slots count from 0, and the comparisons from 2. -/
def getRadioServiceRwlock (simCount slotId : Nat) : Nat :=
  if 2 ≤ simCount ∧ slotId = 2 then 2
  else if 3 ≤ simCount ∧ slotId = 3 then 3
  else if 4 ≤ simCount ∧ slotId = 4 then 4
  else 0

/-- What a thread is about to do, from its first lock to its last. -/
inductive Entry where
  | setResponseFunctions (service : Service) (callbacks : Callbacks)
  | onRequestComplete (service : Service)
  | onUnsolicitedResponse (service : Service)
  | onNitzTimeReceived (slotId : Nat)
  | sendErrorResponse (service : Service)

/-- `onNewCommandConnect`: two indications, and the time that nobody heard. -/
def onNewCommandConnect (slotId : Nat) : List Action :=
  [.rdlock slotId, .call ⟨slotId, true⟩ true, .unlock slotId,
    .rdlock slotId, .call ⟨slotId, true⟩ true, .unlock slotId, .ifNitz slotId]

def resendLastNITZTimeData (slotId : Nat) : List Action :=
  [.rdlock slotId, .checkNitz slotId, .resendNitz ⟨slotId, true⟩, .unlock slotId]

def Entry.actions : Entry → List Action
  | .setResponseFunctions service callbacks =>
    [.wrlock service.slotId, .setCallbacks service callbacks, .unlock service.slotId] ++
      if service.isRadioService then onNewCommandConnect service.slotId else []
  | .onRequestComplete service =>
    [.rdlock service.slotId, .call service false, .unlock service.slotId]
  | .onUnsolicitedResponse service =>
    [.rdlock service.slotId, .call service true, .unlock service.slotId]
  | .onNitzTimeReceived slotId =>
    [.wrlock slotId, .nitzTimeReceivedInd ⟨slotId, true⟩, .unlock slotId]
  -- a dispatcher answers without the lock
  | .sendErrorResponse service => [.call service false]

/-- `checkReturnStatus` begins with the note of the counter, for a call that failed. -/
def checkReturnStatus (service : Service) (failed : Callbacks) : List Action :=
  [.noteCounter service failed]

/-- The rest of `checkReturnStatus`, with the counter that was noted. -/
def afterNote (service : Service) (counter : BitVec 32) (failed : Callbacks) (noted : Nat) :
    List Action :=
  [.unlock service.slotId, .wrlock service.slotId, .resetCallbacks service counter failed noted,
    .unlock service.slotId, .rdlock service.slotId]

namespace ServiceState

def setLock (simCount slotId : Nat) (lock : RwLock Nat) (state : ServiceState) : ServiceState :=
  { state with
    locks := Function.update state.locks (getRadioServiceRwlock simCount slotId) lock }

def setThread (thread : Nat) (actions : List Action) (state : ServiceState) : ServiceState :=
  { state with threads := Function.update state.threads thread actions }

/-- Sets the callbacks and counts it. -/
def update (service : Service) (callbacks : Callbacks) (state : ServiceState) : ServiceState :=
  { state with
    callbacks := Function.update state.callbacks service callbacks
    mCounter := Function.update state.mCounter service (state.mCounter service + 1)
    updates := Function.update state.updates service (state.updates service + 1) }

/-- One action of a thread that has `rest` to do afterwards. `fails`: whether the other
side of a callback is dead, or an allocation fails. -/
def act (simCount thread : Nat) (fails : Bool) (rest : List Action) (state : ServiceState) :
    Action → ServiceState
  | .rdlock slotId =>
    match (state.locks (getRadioServiceRwlock simCount slotId)).rdlock thread with
    | some lock => (state.setLock simCount slotId lock).setThread thread rest
    | none => state
  | .wrlock slotId =>
    match (state.locks (getRadioServiceRwlock simCount slotId)).wrlock thread with
    | some lock => (state.setLock simCount slotId lock).setThread thread rest
    | none => state
  | .unlock slotId =>
    match (state.locks (getRadioServiceRwlock simCount slotId)).unlock thread with
    | some lock => (state.setLock simCount slotId lock).setThread thread rest
    | none => { state with undefined := true }
  | .setCallbacks service callbacks => (state.update service callbacks).setThread thread rest
  | .call service indication =>
    if ((state.callbacks service).used indication).isSome ∧ fails then
      state.setThread thread (checkReturnStatus service (state.callbacks service) ++ rest)
    else state.setThread thread rest
  | .nitzTimeReceivedInd service =>
    match (state.callbacks service).used true with
    | none => state.setThread thread (rest ++ [.storeNitz])
    | some _ =>
      if fails then
        state.setThread thread (checkReturnStatus service (state.callbacks service) ++ rest)
      else state.setThread thread rest
  | .noteCounter service failed =>
    state.setThread thread
      (afterNote service (state.mCounter service) failed (state.updates service) ++ rest)
  | .resetCallbacks service counter failed noted =>
    if counter = state.mCounter service then
      { (state.update service .null).setThread thread rest with
        resets := state.resets ++
          [⟨failed, state.callbacks service, noted, state.updates service⟩] }
    else state.setThread thread rest
  | .ifNitz slotId =>
    if state.lastNitz then state.setThread thread (resendLastNITZTimeData slotId ++ rest)
    else state.setThread thread rest
  -- the `unlock` stands inside the `if`
  | .checkNitz _ =>
    if state.lastNitz then state.setThread thread rest else state.setThread thread []
  -- `nitzTimeReceivedInd` returns -1 where nobody is registered, and the time is kept; a
  -- time that is gone by now is not reported
  | .resendNitz service =>
    match (state.callbacks service).used true with
    | none => state.setThread thread rest
    | some _ =>
      if state.lastNitz ∧ fails then
        state.setThread thread
          (checkReturnStatus service (state.callbacks service) ++ .freeNitz :: rest)
      else state.setThread thread (.freeNitz :: rest)
  | .freeNitz => { state.setThread thread rest with lastNitz := false }
  | .storeNitz => { state.setThread thread rest with lastNitz := !fails }

end ServiceState

/-- A thread that has nothing to do enters a function, or a thread takes a step. -/
inductive ServiceEvent where
  | enter (thread : Nat) (entry : Entry)
  | run (thread : Nat) (fails : Bool)

def ServiceState.step (simCount : Nat) (state : ServiceState) (event : ServiceEvent) :
    ServiceState :=
  if state.undefined then state
  else match event with
    | .enter thread entry =>
      if state.threads thread = [] then state.setThread thread entry.actions else state
    | .run thread fails =>
      match state.threads thread with
      | [] => state
      | action :: rest => state.act simCount thread fails rest action

end Msm8917Common.RilCallbacks
