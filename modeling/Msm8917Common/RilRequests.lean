import Mathlib.Logic.Function.Basic
import Msm8917Common.FirstMatch
import Msm8917Common.RilWakeLock

/-! The pending requests of `ril.cpp`: `addRequestToList`, `RIL_onRequestAck` and
`RIL_onRequestComplete`. Every socket has a singly linked list of the requests that
wait for the vendor library, which names a request by its address. -/
namespace Msm8917Common.Ril
open FirstMatch

/-- `responseFunction` says which function it is; the tables have null ones. -/
structure CommandInfo where
  requestNumber : Nat
  responseFunction : Option Nat

/-- A `RequestInfo` and where it is allocated. `p_next` is the rest of its list. -/
structure RequestInfo where
  address : Nat
  token : Int
  pCI : Option CommandInfo
  cancelled : Nat
  isLocal : Nat
  socket_id : Int
  wasAckSent : Nat

/-- `s_pendingRequests` and its siblings for the other sockets. -/
inductive PendingHook where
  | socket1 | socket2 | socket3 | socket4
  deriving DecidableEq

/-- What the library is built and registered with. -/
structure RilBuild where
  simCount : Nat
  version : Int
  s_commands : List CommandInfo
  s_commands_v : List CommandInfo

/-- The calls into the radio service. `request` is the address of the request that
the response function is called for. -/
inductive RadioCall where
  | acknowledgeRequest (slotId token : Int)
  | responseFunction (request : Nat) (function : Nat) (slotId responseType token e : Int)
      (response : Option (List UInt8))
  deriving DecidableEq

/-- A null pointer that is followed ends the process: it has `crashed`. -/
structure RilState where
  pending : PendingHook → List RequestInfo
  wakeLock : WakeLock
  calls : List RadioCall
  nextAddress : Nat
  crashed : Bool

def RilState.start : RilState := ⟨fun _ => [], .start, [], 1, false⟩

def RIL_OEM_REQUEST_BASE : Nat := 10000

def RESPONSE_SOLICITED : Int := 0

def RESPONSE_SOLICITED_ACK_EXP : Int := 3

/-- The list that `addRequestToList` picks. `RIL_SOCKET_2` is 1. -/
def addHook (simCount : Nat) (socket_id : Int) : PendingHook :=
  if 2 ≤ simCount then
    if socket_id = 1 then .socket2
    else if 3 ≤ simCount ∧ socket_id = 2 then .socket3
    else if 4 ≤ simCount ∧ socket_id = 3 then .socket4
    else .socket1
  else .socket1

/-- The list that `checkAndDequeueRequestInfoIfAck` picks, one `if` after the other. -/
def dequeueHook (simCount : Nat) (socket_id : Int) : PendingHook :=
  let hook := PendingHook.socket1
  if 2 ≤ simCount then
    let hook := if socket_id = 1 then .socket2 else hook
    let hook := if 3 ≤ simCount ∧ socket_id = 2 then .socket3 else hook
    if 4 ≤ simCount ∧ socket_id = 3 then .socket4 else hook
  else hook

/-- `pCI`: the entry of the table for the request, null behind its end. -/
def commandInfo (build : RilBuild) (request : Nat) : Option CommandInfo :=
  if request > RIL_OEM_REQUEST_BASE then build.s_commands_v[request - RIL_OEM_REQUEST_BASE]?
  else build.s_commands[request]?

namespace RilState

def addRequestToList (build : RilBuild) (serial slotId : Int) (request : Nat) (allocated : Bool)
    (state : RilState) : RilState :=
  if allocated then
    let hook := addHook build.simCount slotId
    let pRI : RequestInfo := ⟨state.nextAddress, serial, commandInfo build request, 0, 0, slotId, 0⟩
    { state with
      pending := Function.update state.pending hook (pRI :: state.pending hook)
      nextAddress := state.nextAddress + 1 }
  else state

/-- The socket id that stands at an address: that of the live request there, or
whatever freed memory holds. -/
def socketIdAt (state : RilState) (address : Nat) (garbage : Int) : Int :=
  match [PendingHook.socket1, .socket2, .socket3, .socket4].findSome? fun hook =>
      (state.pending hook).find? (·.address = address) with
  | some pRI => pRI.socket_id
  | none => garbage

/-- An ack marks the request, a completion unlinks it. -/
def dequeueOrAck (isAck : Bool) (cur : RequestInfo) : Option RequestInfo :=
  if isAck then some (if cur.wasAckSent = 1 then cur else { cur with wasAckSent := 1 }) else none

/-- The request is returned as it was found. -/
def checkAndDequeueRequestInfoIfAck (build : RilBuild) (pRI : Option Nat) (garbage : Int)
    (isAck : Bool) (state : RilState) : RilState × Option RequestInfo :=
  match pRI with
  | none => (state, none)
  | some address =>
    let hook := dequeueHook build.simCount (state.socketIdAt address garbage)
    let walk := onFirst (·.address = address) (dequeueOrAck isAck) (state.pending hook)
    ({ state with pending := Function.update state.pending hook walk.2 }, walk.1)

/-- A second ack logs the request's number. -/
def RIL_onRequestAck (build : RilBuild) (t : Option Nat) (garbage : Int) (state : RilState) :
    RilState :=
  match state.checkAndDequeueRequestInfoIfAck build t garbage true with
  | (state, none) => state
  | (state, some pRI) =>
    if pRI.wasAckSent = 1 ∧ pRI.pCI.isNone then { state with crashed := true }
    else if pRI.cancelled = 0 then
      { state with calls := state.calls ++ [.acknowledgeRequest pRI.socket_id pRI.token] }
    else state

def RIL_onRequestComplete (build : RilBuild) (t : Option Nat) (garbage e : Int)
    (response : Option (List UInt8)) (timeoutAllocated : Bool) (state : RilState) : RilState :=
  match state.checkAndDequeueRequestInfoIfAck build t garbage false with
  | (state, none) => state
  | (state, some pRI) =>
    if pRI.isLocal > 0 then
      if pRI.pCI.isNone then { state with crashed := true } else state
    else if pRI.cancelled = 0 then
      let acked := build.version ≥ 13 ∧ pRI.wasAckSent = 1
      let responseType := if acked then RESPONSE_SOLICITED_ACK_EXP else RESPONSE_SOLICITED
      let wakeLock := if acked then
          state.wakeLock.grabPartialWakeLock build.version timeoutAllocated
        else state.wakeLock
      match pRI.pCI.bind (·.responseFunction) with
      | none => { state with wakeLock := wakeLock, crashed := true }
      | some function => { state with
          wakeLock := wakeLock
          calls := state.calls ++ [.responseFunction pRI.address function pRI.socket_id
            responseType pRI.token e response] }
    else state

end RilState

/-- `garbage` is the socket id read from a token that is no live request. -/
inductive RilEvent where
  | addRequestToList (serial slotId : Int) (request : Nat) (allocated : Bool)
  | ack (t : Option Nat) (garbage : Int)
  | complete (t : Option Nat) (garbage e : Int) (response : Option (List UInt8))
      (timeoutAllocated : Bool)
  | wake (event : WakeEvent)

def RilState.step (build : RilBuild) (state : RilState) (event : RilEvent) : RilState :=
  if state.crashed then state
  else match event with
    | .addRequestToList serial slotId request allocated =>
      state.addRequestToList build serial slotId request allocated
    | .ack t garbage => state.RIL_onRequestAck build t garbage
    | .complete t garbage e response timeoutAllocated =>
      state.RIL_onRequestComplete build t garbage e response timeoutAllocated
    | .wake event => { state with wakeLock := state.wakeLock.step build.version event }

end Msm8917Common.Ril
