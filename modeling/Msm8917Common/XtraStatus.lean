import Msm8917Common.TextLines

/-! `XtraSystemStatusObserver.cpp`: what the observer remembers of the system, and
what it tells the Xtra daemon. Before the first `requestStatus` an update is only
remembered; a `requestStatus` is answered with one message of several lines, and
from then on every update goes out in a message of its own. -/
namespace Msm8917Common.Xtra
open TextLines

/-- A `std::string`, which may hold any character. -/
abbrev Text := List Char

structure XtraSystemStatusObserver where
  mGpsLock : Int32
  mConnections : UInt64
  mTac : Text
  mMccmnc : Text
  mXtraThrottle : Bool
  mReqStatusReceived : Bool
  mIsConnectivityStatusKnown : Bool

namespace XtraSystemStatusObserver

def initial : XtraSystemStatusObserver := ⟨-1, 0, [], [], true, false, false⟩

/-- `c_str()` ends at the first zero. -/
def c_str (text : Text) : Text := text.takeWhile (· ≠ '\x00')

/-- A message of one field: its name, a blank, its value. -/
def field (name : String) (value : Text) : Text := name.toList ++ ' ' :: value

def statusHeader : Text := "respondStatus".toList

/-- The observer as the call leaves it, and the message it sends, if any. -/
abbrev Told := XtraSystemStatusObserver × Option Text

variable (observer : XtraSystemStatusObserver)

/-- The way out of every update: nothing is sent before the first request. -/
def tellDaemon (message : Text) : Told :=
  (observer, if observer.mReqStatusReceived then some message else none)

def updateLockStatus (lock : UInt32) : Told :=
  tellDaemon { observer with mGpsLock := lock.toInt32 } (field "gpslock" (printNat lock.toNat))

def updateConnections (allConnections : UInt64) : Told :=
  tellDaemon { observer with mIsConnectivityStatusKnown := true, mConnections := allConnections }
    (field "connection" (printNat allConnections.toNat))

def updateTac (tac : Text) : Told :=
  tellDaemon { observer with mTac := tac } (field "tac" (c_str tac))

def updateMccMnc (mccmnc : Text) : Told :=
  tellDaemon { observer with mMccmnc := mccmnc } (field "mncmcc" (c_str mccmnc))

def updateXtraThrottle (enabled : Bool) : Told :=
  tellDaemon { observer with mXtraThrottle := enabled }
    (field "xtrathrottle" (printNat (if enabled then 1 else 0)))

def printLock (lock : Int32) : Text := if lock = -1 then [] else printInt lock.toInt

/-- The answer to a request, line by line. -/
def respondStatus : Text :=
  statusHeader ++ '\n' :: (printLock observer.mGpsLock ++ '\n' ::
    (printNat observer.mConnections.toNat ++ '\n' :: (observer.mTac ++ '\n' ::
      (observer.mMccmnc ++ '\n' ::
        printNat (if observer.mIsConnectivityStatusKnown then 1 else 0)))))

def onStatusRequested (xtraStatusUpdated : Int) : Told :=
  let observer := { observer with mReqStatusReceived := true }
  if xtraStatusUpdated ≠ 0 then (observer, none) else (observer, some observer.respondStatus)

end XtraSystemStatusObserver

/-- The latest value that the daemon got for each field. -/
structure DaemonView where
  gpsLock : Option Int32
  connections : Option UInt64
  tac : Option Text
  mccmnc : Option Text
  xtraThrottle : Option Bool

namespace DaemonView

/-- A blank lock is the unknown one. -/
def readLock (text : Text) : Int32 := if text = [] then -1 else Int32.ofInt (readInt text)

def readConnections (text : Text) : UInt64 := UInt64.ofNat (readNat text)

variable (view : DaemonView)

/-- A message of one field, split at its first blank. -/
def receiveField (name value : Text) : DaemonView :=
  if name = "gpslock".toList then { view with gpsLock := some (readLock value) }
  else if name = "connection".toList then
    { view with connections := some (readConnections value) }
  else if name = "tac".toList then { view with tac := some value }
  else if name = "mncmcc".toList then { view with mccmnc := some value }
  else if name = "xtrathrottle".toList then { view with xtraThrottle := some (readNat value ≠ 0) }
  else view

/-- The lines of an answer after its first, by their places. -/
def receiveStatus : List Text → DaemonView
  | lock :: connections :: tac :: mccmnc :: _ => { view with
      gpsLock := some (readLock lock)
      connections := some (readConnections connections)
      tac := some tac
      mccmnc := some mccmnc }
  | _ => view

/-- What the daemon reads from a message. -/
def receive (message : Text) : DaemonView :=
  if (lines message).head? = some XtraSystemStatusObserver.statusHeader then
    view.receiveStatus (lines message).tail
  else view.receiveField (message.takeWhile (· ≠ ' ')) ((message.dropWhile (· ≠ ' ')).drop 1)

end DaemonView

/-- The observer and the daemon, with an IPC between them that loses nothing and
keeps the order. -/
structure XtraWorld where
  observer : XtraSystemStatusObserver
  view : DaemonView

inductive XtraInput where
  | updateLockStatus (lock : UInt32)
  | updateConnections (allConnections : UInt64)
  | updateTac (tac : Text)
  | updateMccMnc (mccmnc : Text)
  | updateXtraThrottle (enabled : Bool)
  | requestStatus

namespace XtraWorld

def start (view : DaemonView) : XtraWorld := ⟨.initial, view⟩

def deliver (world : XtraWorld) (told : XtraSystemStatusObserver.Told) : XtraWorld :=
  ⟨told.1, told.2.elim world.view world.view.receive⟩

/-- A `requestStatus` has the argument 0: the daemon wants an answer. -/
def call (observer : XtraSystemStatusObserver) : XtraInput → XtraSystemStatusObserver.Told
  | .updateLockStatus lock => observer.updateLockStatus lock
  | .updateConnections allConnections => observer.updateConnections allConnections
  | .updateTac tac => observer.updateTac tac
  | .updateMccMnc mccmnc => observer.updateMccMnc mccmnc
  | .updateXtraThrottle enabled => observer.updateXtraThrottle enabled
  | .requestStatus => observer.onStatusRequested 0

def step (world : XtraWorld) (input : XtraInput) : XtraWorld :=
  world.deliver (call world.observer input)

end XtraWorld

end Msm8917Common.Xtra
