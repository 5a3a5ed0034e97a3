import Mathlib.Data.List.Basic
import Mathlib.Logic.Function.Basic

/-! `GnssAdapter.cpp`: requests of the network to notify the user, and the answers.
Two sessions are used again and again: the message task saves a request in one, a
thread of the request's own waits there for a response and takes the request out,
and clears the rest of the session later, without the lock. Each locked section and
each unlocked check or write is one step. -/
namespace Msm8917Common.Gnss.Ni

inductive GnssNiType where
  | voice | supl | controlPlane | emergencySupl
  deriving DecidableEq, Repr

/-- `GnssNiResponse`; `unset` is the zero that a session starts with. -/
inductive GnssNiResponse where
  | unset | accept | deny | noResponse | ignore
  deriving DecidableEq, Repr

/-- `GnssNiNotification`, as far as it decides anything. -/
structure GnssNiNotification where
  type : GnssNiType
  /-- In seconds. -/
  timeout : UInt32
  deriving DecidableEq

def locNiNoResponseTime : UInt32 := 20

/-- The two sessions of `NiData`. -/
inductive Slot where
  | session | sessionEs
  deriving DecidableEq, Repr

/-- `NiSession`. A raw request is its number among all that came. -/
structure NiSession where
  respTimeLeft : UInt32
  respRecvd : Bool
  rawRequest : Option Nat
  reqID : UInt32
  resp : GnssNiResponse
  deriving DecidableEq

namespace NiSession

/-- What a thread that has its response is going to send. -/
def answer (session : NiSession) : Option (GnssNiResponse × Nat) :=
  session.rawRequest.bind fun request =>
    if session.resp ≠ .ignore then some (session.resp, request) else none

/-- What such a thread frees instead. -/
def freed (session : NiSession) : List Nat :=
  if session.resp ≠ .ignore then [] else session.rawRequest.toList

end NiSession

/-- Where a thread in `niThreadProc` is: before the lock; in the wait; or behind the
lock, with what it has to send, before each of its last three steps. -/
inductive Stage where
  | locking
  | waiting (expire : Nat)
  | clearingTime (answer : Option (GnssNiResponse × Nat))
  | clearingId (answer : Option (GnssNiResponse × Nat))
  | sending (answer : Option (GnssNiResponse × Nat))
  | finished
  deriving DecidableEq

structure Worker where
  slot : Slot
  stage : Stage
  deriving DecidableEq

/-- Where the message task is: between messages, or in the `MsgGnssNiResponse` of a
client. The requests are those that the checks of `rawRequest` saw. -/
inductive Task where
  | idle
  | missedEs (sessionId : UInt32) (response : GnssNiResponse)
  | acceptedEs (sessionId : UInt32) (seenEs : Nat)
  | ignoring (sessionId : UInt32) (seenEs seen : Nat)
  | responding (slot : Slot) (sessionId : UInt32) (response : GnssNiResponse) (seen : Nat)
  deriving DecidableEq

inductive NiMsg where
  | reportNiNotify (notify : GnssNiNotification) (data : Nat)
  | clientResponse (client : Nat) (sessionId : UInt32) (response : GnssNiResponse)
  | informNiResponse (response : GnssNiResponse) (payload : Nat)
  deriving DecidableEq

/-- A call of `gnssNiCb`, with when the time-out of the request is over. -/
structure Notified where
  sessionId : UInt32
  request : Nat
  emergency : Bool
  deadline : Nat
  deriving DecidableEq

structure NiWorld where
  /-- In seconds. -/
  now : Nat
  niData : Slot → NiSession
  reqIDCounter : UInt32
  workers : List Worker
  task : Task
  queue : List NiMsg
  /-- How many requests came. -/
  came : Nat
  notified : List Notified
  /-- What clients responded to which id. -/
  given : List (UInt32 × GnssNiResponse)
  /-- An accepted emergency, with the other request that was in progress. -/
  overruled : List (Nat × Nat)
  /-- A request that was freed on arrival, with one that was in progress. -/
  refused : List (Nat × Nat)
  /-- The requests that a thread freed. -/
  ignored : List Nat
  /-- What the engine was told about which request. -/
  answered : List (GnssNiResponse × Nat)

inductive NiInput where
  | requestNiNotifyEvent (notify : GnssNiNotification)
  | gnssNiResponseCommand (client : Nat) (sessionId : UInt32) (response : GnssNiResponse)
  | tick (seconds : Nat)
  | task (hasNiNotifyCallback : Bool)
  | thread (index : Nat)
  | timeOut (index : Nat)
  deriving DecidableEq

namespace NiWorld
variable (world : NiWorld)

def start : NiWorld where
  now := 0
  niData := fun _ => ⟨0, false, none, 0, .unset⟩
  reqIDCounter := 0
  workers := []
  task := .idle
  queue := []
  came := 0
  notified := []
  given := []
  overruled := []
  refused := []
  ignored := []
  answered := []

def sendMsg (msg : NiMsg) : NiWorld := { world with queue := world.queue ++ [msg] }

def save (slot : Slot) (session : NiSession) : NiWorld :=
  { world with niData := Function.update world.niData slot session }

def free (requests : List Nat) : NiWorld := { world with ignored := requests ++ world.ignored }

def goTo (index : Nat) (worker : Worker) : NiWorld :=
  { world with workers := world.workers.set index worker }

/-- The session `requestNiNotify` takes, or a request that is in progress. -/
def chosen (type : GnssNiType) : Slot ⊕ Nat :=
  if type = .emergencySupl then
    match (world.niData .sessionEs).rawRequest with
    | some request => .inr request
    | none => .inl .sessionEs
  else
    match (world.niData .session).rawRequest, (world.niData .sessionEs).rawRequest with
    | some request, _ => .inr request
    | none, some request => .inr request
    | none, none => .inl .session

/-- `requestNiNotify`, where some client has a `gnssNiCb`. -/
def requestNiNotify (notify : GnssNiNotification) (data : Nat) : NiWorld :=
  match world.chosen notify.type with
  | .inr request => { world with refused := (data, request) :: world.refused }
  | .inl slot =>
    let reqID := world.reqIDCounter + 1
    let respTimeLeft := 5 + if notify.timeout ≠ 0 then notify.timeout else locNiNoResponseTime
    { world.save slot { world.niData slot with
          rawRequest := some data
          reqID := reqID
          respTimeLeft := respTimeLeft } with
      reqIDCounter := reqID
      workers := world.workers ++ [⟨slot, .locking⟩]
      notified := ⟨reqID, data, notify.type = .emergencySupl,
        world.now + respTimeLeft.toNat⟩ :: world.notified }

/-- A check of a session in the `MsgGnssNiResponse` of a client. -/
def matched (slot : Slot) (sessionId : UInt32) : Option Nat :=
  if sessionId = (world.niData slot).reqID then (world.niData slot).rawRequest else none

/-- The locked write of a response into a session. -/
def respond (slot : Slot) (response : GnssNiResponse) : NiWorld :=
  world.save slot { world.niData slot with resp := response, respRecvd := true }

/-- The `proc` of a message, or its first step. -/
def process (hasNiNotifyCallback : Bool) : NiMsg → NiWorld
  | .reportNiNotify notify data => world.requestNiNotify notify data
  | .informNiResponse response payload =>
    { world with answered := (response, payload) :: world.answered }
  | .clientResponse _ sessionId response =>
    if !hasNiNotifyCallback then world
    else
      match world.matched .sessionEs sessionId with
      | none => { world with task := .missedEs sessionId response }
      | some seenEs =>
        { world with task := if response = .accept then .acceptedEs sessionId seenEs
            else .responding .sessionEs sessionId response seenEs }

/-- One step of the message task. -/
def runTask (hasNiNotifyCallback : Bool) : NiWorld :=
  match world.task with
  | .idle =>
    match world.queue with
    | [] => world
    | msg :: rest => { world with queue := rest }.process hasNiNotifyCallback msg
  | .missedEs sessionId response =>
    { world with task := match world.matched .session sessionId with
        | none => .idle
        | some seen => .responding .session sessionId response seen }
  | .acceptedEs sessionId seenEs =>
    match (world.niData .session).rawRequest with
    | none => { world with task := .responding .sessionEs sessionId .accept seenEs }
    | some seen =>
      { world with
        task := .ignoring sessionId seenEs seen
        overruled := (seenEs, seen) :: world.overruled }
  | .ignoring sessionId seenEs _ =>
    { world.respond .session .ignore with
      task := .responding .sessionEs sessionId .accept seenEs }
  | .responding slot _ response _ => { world.respond slot response with task := .idle }

/-- The end of the locked section of `niThreadProc`. -/
def take (index : Nat) (slot : Slot) : NiWorld :=
  let session := world.niData slot
  ((world.save slot { session with respRecvd := false, rawRequest := none }).goTo index
    ⟨slot, .clearingTime session.answer⟩).free session.freed

/-- One step of a thread that does not wait in vain. -/
def runThread (index : Nat) : NiWorld :=
  match world.workers[index]? with
  | none => world
  | some ⟨slot, stage⟩ =>
    let session := world.niData slot
    match stage with
    | .locking =>
      if session.respRecvd then world.take index slot
      else world.goTo index ⟨slot, .waiting (world.now + session.respTimeLeft.toNat)⟩
    | .waiting _ => if session.respRecvd then world.take index slot else world
    | .clearingTime answer =>
      (world.save slot { session with respTimeLeft := 0 }).goTo index ⟨slot, .clearingId answer⟩
    | .clearingId answer =>
      (world.save slot { session with reqID := 0 }).goTo index ⟨slot, .sending answer⟩
    | .sending answer =>
      let world := world.goTo index ⟨slot, .finished⟩
      match answer with
      | none => world
      | some (response, request) => world.sendMsg (.informNiResponse response request)
    | .finished => world

/-- The wait of a thread times out, whether or not a response is there by now. -/
def timeOut (index : Nat) : NiWorld :=
  match world.workers[index]? with
  | some ⟨slot, .waiting expire⟩ =>
    if expire ≤ world.now then
      (world.save slot { world.niData slot with resp := .noResponse }).take index slot
    else world
  | _ => world

def step : NiInput → NiWorld
  | .requestNiNotifyEvent notify =>
    { world.sendMsg (.reportNiNotify notify world.came) with came := world.came + 1 }
  | .gnssNiResponseCommand client sessionId response =>
    { world.sendMsg (.clientResponse client sessionId response) with
      given := (sessionId, response) :: world.given }
  | .tick seconds => { world with now := world.now + seconds }
  | .task hasNiNotifyCallback => world.runTask hasNiNotifyCallback
  | .thread index => world.runThread index
  | .timeOut index => world.timeOut index

end NiWorld
end Msm8917Common.Gnss.Ni
