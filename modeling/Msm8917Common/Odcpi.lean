import Mathlib.Data.List.Basic

/-! `GnssAdapter.cpp`: requests of the modem for a position on demand, passed on to
the framework. A timer keeps two of them apart; when it expires it only queues a
message, so other messages may run between the two. -/
namespace Msm8917Common.Gnss.Odcpi

inductive OdcpiRequestType where
  | start | stop
  deriving DecidableEq, Repr

structure OdcpiRequestInfo where
  type : OdcpiRequestType
  tbfMillis : Nat
  isEmergencyMode : Bool
  deriving DecidableEq, Repr

/-- `ODCPI_EXPECTED_INJECTION_TIME_MS`. -/
def odcpiExpectedInjectionTimeMs : Nat := 10000

/-- `OdcpiTimer`. Its flag says that it was started and not stopped; whether the
`LocTimer` below it still runs is another matter. -/
structure OdcpiTimer where
  mActive : Bool
  /-- When the `LocTimer` expires, while it runs. -/
  deadline : Option Nat
  /-- The deadline of the `LocTimer` that was stopped last, until the next start. No
  code reads it. -/
  cut : Option Nat
  deriving DecidableEq, Repr

namespace OdcpiTimer
variable (timer : OdcpiTimer)

/-- A `LocTimer` that runs already is left alone. -/
def start (now : Nat) : OdcpiTimer where
  mActive := true
  deadline := some (timer.deadline.getD (now + odcpiExpectedInjectionTimeMs))
  cut := none

def stop : OdcpiTimer where
  mActive := false
  deadline := none
  cut := timer.deadline.or timer.cut

def restart (now : Nat) : OdcpiTimer := timer.stop.start now

def isActive : Bool := timer.mActive

end OdcpiTimer

structure GnssAdapter where
  /-- Whether the framework has given its callback. -/
  mOdcpiRequestCb : Bool
  mOdcpiRequestActive : Bool
  mOdcpiTimer : OdcpiTimer
  mOdcpiRequest : OdcpiRequestInfo
  deriving DecidableEq, Repr

namespace GnssAdapter
variable (adapter : GnssAdapter)

/-- `reportOdcpiRequest`, with the request that `mOdcpiRequestCb` is called with. -/
def reportOdcpiRequest (now : Nat) (request : OdcpiRequestInfo) :
    GnssAdapter × Option OdcpiRequestInfo :=
  if adapter.mOdcpiRequestCb then
    if request.type = .start then
      let (adapter, called) :=
        if adapter.mOdcpiRequestActive = false ∧ adapter.mOdcpiTimer.isActive = false then
          ({ adapter with
              mOdcpiRequestActive := true
              mOdcpiTimer := adapter.mOdcpiTimer.start now }, some request)
        -- An emergency takes the place of a request that is none.
        else if adapter.mOdcpiRequest.isEmergencyMode = false ∧ request.isEmergencyMode = true then
          ({ adapter with
              mOdcpiRequestActive := true
              mOdcpiTimer := if adapter.mOdcpiTimer.isActive then
                adapter.mOdcpiTimer.restart now else adapter.mOdcpiTimer.start now }, some request)
        else if adapter.mOdcpiRequestActive = false ∧ adapter.mOdcpiTimer.isActive = true then
          ({ adapter with mOdcpiRequestActive := true }, none)
        else (adapter, none)
      ({ adapter with mOdcpiRequest := request }, called)
    else ({ adapter with mOdcpiRequestActive := false }, none)
  else (adapter, none)

def odcpiTimerExpire (now : Nat) : GnssAdapter × Option OdcpiRequestInfo :=
  if adapter.mOdcpiRequestActive then
    ({ adapter with mOdcpiTimer := adapter.mOdcpiTimer.restart now }, some adapter.mOdcpiRequest)
  else ({ adapter with mOdcpiTimer := adapter.mOdcpiTimer.stop }, none)

/-- `restartSessions`, as far as it has to do with these requests. -/
def restartSessions : GnssAdapter := { adapter with mOdcpiRequestActive := false }

end GnssAdapter

inductive AdapterMsg where
  | reportOdcpiRequest (request : OdcpiRequestInfo)
  | odcpiTimerExpire
  | restartSessions
  deriving DecidableEq, Repr

def AdapterMsg.proc (adapter : GnssAdapter) (now : Nat) :
    AdapterMsg → GnssAdapter × Option OdcpiRequestInfo
  | .reportOdcpiRequest request => adapter.reportOdcpiRequest now request
  | .odcpiTimerExpire => adapter.odcpiTimerExpire now
  | .restartSessions => (adapter.restartSessions, none)

/-- A call of `mOdcpiRequestCb`. -/
structure Call where
  time : Nat
  request : OdcpiRequestInfo
  deriving DecidableEq, Repr

structure OdcpiWorld where
  /-- In milliseconds. -/
  now : Nat
  adapter : GnssAdapter
  /-- The timer thread has stopped the `LocTimer` that expired, and has still to call
  `timeOutCallback`. -/
  expiring : Bool
  queue : List AdapterMsg
  /-- The last one first. -/
  calls : List Call
  deriving DecidableEq, Repr

inductive OdcpiInput where
  | reportOdcpiRequestEvent (request : OdcpiRequestInfo)
  | handleEngineUpEvent
  | tick (millis : Nat)
  | expire
  | timeOutCallback
  | proc
  deriving DecidableEq, Repr

namespace OdcpiWorld

/-- A new adapter, with or without the callback of the framework. -/
def start (mOdcpiRequestCb : Bool) : OdcpiWorld where
  now := 0
  adapter := ⟨mOdcpiRequestCb, false, ⟨false, none, none⟩, ⟨.start, 0, false⟩⟩
  expiring := false
  queue := []
  calls := []

def sendMsg (world : OdcpiWorld) (msg : AdapterMsg) : OdcpiWorld :=
  { world with queue := world.queue ++ [msg] }

/-- The `LocTimer` may expire once its time has come, never before. -/
def expire (world : OdcpiWorld) : OdcpiWorld :=
  if world.expiring = false ∧ ∃ deadline ∈ world.adapter.mOdcpiTimer.deadline,
      deadline ≤ world.now then
    { world with
      adapter.mOdcpiTimer := { world.adapter.mOdcpiTimer with deadline := none }
      expiring := true }
  else world

/-- `OdcpiTimer::timeOutCallback`. -/
def timeOutCallback (world : OdcpiWorld) : OdcpiWorld :=
  if world.expiring then { world.sendMsg .odcpiTimerExpire with expiring := false } else world

/-- A message is processed. -/
def process (world : OdcpiWorld) (msg : AdapterMsg) : OdcpiWorld :=
  let (adapter, called) := msg.proc world.adapter world.now
  { world with
    adapter := adapter
    calls := match called with
      | none => world.calls
      | some request => ⟨world.now, request⟩ :: world.calls }

def step (world : OdcpiWorld) : OdcpiInput → OdcpiWorld
  | .reportOdcpiRequestEvent request => world.sendMsg (.reportOdcpiRequest request)
  | .handleEngineUpEvent => world.sendMsg .restartSessions
  | .tick millis => { world with now := world.now + millis }
  | .expire => world.expire
  | .timeOutCallback => world.timeOutCallback
  | .proc =>
    match world.queue with
    | [] => world
    | msg :: rest => { world with queue := rest }.process msg

end OdcpiWorld
end Msm8917Common.Gnss.Odcpi
