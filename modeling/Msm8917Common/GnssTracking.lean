import Msm8917Common.LocationSessions

/-! `GnssAdapter.cpp`: how the tracking sessions of all clients share the one fix
of the engine. The commands of the clients only queue messages; the messages are
processed one at a time. -/
namespace Msm8917Common.Gnss

/-- The modes of `LocPositionMode` that options convert to. -/
inductive LocPositionMode where
  | standalone | msBased | msAssisted
  deriving DecidableEq, Repr

inductive LocGpsPositionRecurrence where
  | periodic | single
  deriving DecidableEq, Repr

structure LocPosMode where
  mode : LocPositionMode
  recurrence : LocGpsPositionRecurrence
  min_interval : Nat
  preferred_accuracy : Nat
  preferred_time : Nat
  share_position : Bool
  credentials : List UInt8
  provider : List UInt8
  deriving DecidableEq, Repr

/-- `LocPosMode` as its default constructor makes it. -/
def LocPosMode.new : LocPosMode where
  mode := .msBased
  recurrence := .periodic
  min_interval := 1000
  preferred_accuracy := 50
  preferred_time := 120000
  share_position := true
  credentials := List.replicate 14 0
  provider := List.replicate 8 0

/-- `GnssAdapter::convertOptions` on a new `LocPosMode`. -/
def convertOptions (options : LocationOptions) : LocPosMode :=
  { LocPosMode.new with
    mode := match options.mode with
      | .msb => .msBased
      | .msa => .msAssisted
      | .standalone => .standalone
    share_position := true
    min_interval := options.minInterval }

/-- `LocationError`, as far as a tracking session meets it. -/
inductive LocationError where
  | success | generalFailure | callbackMissing | invalidParameter
  deriving DecidableEq, Repr

/-- The engine behind `LocApiBase`: the fix it runs, if any, and what its next
calls return. It answers with success once the list is used up. -/
structure LocApi where
  fix : Option LocPosMode
  answers : List Int
  deriving DecidableEq

namespace LocApi

/-- A call that makes the engine run `fix` if it returns
`LOC_API_ADAPTER_ERR_SUCCESS`, and leaves it as it was otherwise. -/
def call (api : LocApi) (fix : Option LocPosMode) : LocApi × Int :=
  match api.answers with
  | [] => (⟨fix, []⟩, 0)
  | apiErr :: rest => (⟨if apiErr = 0 then fix else api.fix, rest⟩, apiErr)

def startFix (api : LocApi) (locPosMode : LocPosMode) : LocApi × Int := api.call (some locPosMode)

def stopFix (api : LocApi) : LocApi × Int := api.call none

end LocApi

/-- Which of the callbacks that tracking looks at a client has. -/
structure LocationCallbacks where
  trackingCb : Bool
  gnssMeasurementsCb : Bool
  responseCb : Bool
  deriving DecidableEq, Repr

/-- A call of a client's `responseCb`. -/
structure Response where
  client : Nat
  err : LocationError
  sessionId : Nat
  deriving DecidableEq, Repr

structure GnssAdapter where
  mClientData : Std.TreeMap Nat LocationCallbacks
  mTrackingSessions : LocationSessionMap
  mLocApi : LocApi

namespace GnssAdapter
variable (adapter : GnssAdapter)

def saveClient (client : Nat) (callbacks : LocationCallbacks) : GnssAdapter :=
  { adapter with mClientData := adapter.mClientData.insert client callbacks }

def eraseClient (client : Nat) : GnssAdapter :=
  { adapter with mClientData := adapter.mClientData.erase client }

def hasTrackingCallback (client : Nat) : Bool :=
  (adapter.mClientData[client]?).any (·.trackingCb)

def hasMeasurementsCallback (client : Nat) : Bool :=
  (adapter.mClientData[client]?).any (·.gnssMeasurementsCb)

def isTrackingSession (client sessionId : Nat) : Bool :=
  adapter.mTrackingSessions.contains ⟨client, sessionId⟩

def saveTrackingSession (client sessionId : Nat) (options : LocationOptions) : GnssAdapter :=
  { adapter with
    mTrackingSessions := adapter.mTrackingSessions.insert ⟨client, sessionId⟩ options }

def eraseTrackingSession (client sessionId : Nat) : GnssAdapter :=
  { adapter with mTrackingSessions := adapter.mTrackingSessions.erase ⟨client, sessionId⟩ }

def reportResponse (client : Nat) (err : LocationError) (sessionId : Nat) : List Response :=
  if (adapter.mClientData[client]?).any (·.responseCb) then [⟨client, err, sessionId⟩] else []

/-- `startTracking(options)`. The default `UlpProxyBase` takes neither the mode
nor the start, so the engine is always asked. -/
def startTracking (options : LocationOptions) : GnssAdapter × LocationError :=
  let (api, apiErr) := adapter.mLocApi.startFix (convertOptions options)
  ({ adapter with mLocApi := api }, if apiErr = 0 then .success else .generalFailure)

def stopTracking : GnssAdapter × LocationError :=
  let (api, apiErr) := adapter.mLocApi.stopFix
  ({ adapter with mLocApi := api }, if apiErr = 0 then .success else .generalFailure)

def startTrackingMultiplex (options : LocationOptions) : GnssAdapter × LocationError :=
  if adapter.mTrackingSessions.isEmpty then adapter.startTracking options
  else
    let smallestIntervalOptions :=
      adapter.mTrackingSessions.smallestIntervalOptions LocationSessionMap.nothing
    if options.minInterval < smallestIntervalOptions.minInterval then
      adapter.startTracking options
    else (adapter, .success)

def updateTrackingMultiplex (client id : Nat) (options : LocationOptions) :
    GnssAdapter × LocationError :=
  if adapter.mTrackingSessions.size = 1 then adapter.startTracking options
  else
    match adapter.mTrackingSessions[(⟨client, id⟩ : LocationSessionKey)]? with
    | none => (adapter, .success)
    | some updated =>
      let smallestIntervalOptions :=
        adapter.mTrackingSessions.smallestIntervalOptions
          (LocationSessionMap.only ⟨client, id⟩)
      if options.minInterval < smallestIntervalOptions.minInterval then
        adapter.startTracking options
      else if updated.minInterval < smallestIntervalOptions.minInterval then
        adapter.startTracking smallestIntervalOptions
      else (adapter, .success)

def stopTrackingMultiplex (client id : Nat) : GnssAdapter × LocationError :=
  if adapter.mTrackingSessions.size = 1 then adapter.stopTracking
  else
    match adapter.mTrackingSessions[(⟨client, id⟩ : LocationSessionKey)]? with
    | none => (adapter, .success)
    | some stopped =>
      let smallestIntervalOptions :=
        adapter.mTrackingSessions.smallestIntervalOptions
          (LocationSessionMap.only ⟨client, id⟩)
      if stopped.minInterval < smallestIntervalOptions.minInterval then
        adapter.startTracking smallestIntervalOptions
      else (adapter, .success)

/-- The loop of `stopClientSessions` over the sessions not yet visited. A
session goes only if it could be stopped. -/
def stopSessions (client : Nat) (adapter : GnssAdapter) :
    List (LocationSessionKey × LocationOptions) → GnssAdapter
  | [] => adapter
  | (key, _) :: rest =>
    if client = key.client then
      let (adapter, err) := adapter.stopTrackingMultiplex key.client key.id
      if err = .success then
        stopSessions client (adapter.eraseTrackingSession key.client key.id) rest
      else stopSessions client adapter rest
    else stopSessions client adapter rest

def stopClientSessions (client : Nat) : GnssAdapter :=
  stopSessions client adapter adapter.mTrackingSessions.toList

/-- `restartSessions`. The answer of the engine is not looked at. -/
def restartSessions : GnssAdapter :=
  if adapter.mTrackingSessions.isEmpty then adapter
  else
    let smallestIntervalOptions :=
      adapter.mTrackingSessions.smallestIntervalOptions LocationSessionMap.nothing
    { adapter with
      mLocApi := (adapter.mLocApi.startFix (convertOptions smallestIntervalOptions)).1 }

end GnssAdapter

/-- The messages of the adapter that have to do with tracking. -/
inductive AdapterMsg where
  | addClient (client : Nat) (callbacks : LocationCallbacks)
  | removeClient (client : Nat)
  | startTracking (client sessionId : Nat) (options : LocationOptions)
  | updateTracking (client sessionId : Nat) (options : LocationOptions)
  | stopTracking (client sessionId : Nat)
  | restartSessions
  deriving DecidableEq

/-- Whether a `MsgStartTracking` gets as far as the multiplexer. -/
def GnssAdapter.admits (adapter : GnssAdapter) (client : Nat) (options : LocationOptions) : Bool :=
  (adapter.hasTrackingCallback client || adapter.hasMeasurementsCallback client) &&
    options.size != 0

/-- The `proc` of each message. -/
def AdapterMsg.proc (adapter : GnssAdapter) : AdapterMsg → GnssAdapter × List Response
  | .addClient client callbacks => (adapter.saveClient client callbacks, [])
  | .removeClient client => ((adapter.stopClientSessions client).eraseClient client, [])
  | .startTracking client sessionId options =>
    if !adapter.hasTrackingCallback client && !adapter.hasMeasurementsCallback client then
      (adapter, adapter.reportResponse client .callbackMissing sessionId)
    else if options.size = 0 then
      (adapter, adapter.reportResponse client .invalidParameter sessionId)
    else
      let (adapter, err) := adapter.startTrackingMultiplex options
      let adapter := if err = .success then adapter.saveTrackingSession client sessionId options
        else adapter
      (adapter, adapter.reportResponse client err sessionId)
  | .updateTracking client sessionId options =>
    -- Without the session there is no response either: it can be one of `FlpAdapter`.
    if adapter.isTrackingSession client sessionId then
      if options.size = 0 then
        (adapter, adapter.reportResponse client .invalidParameter sessionId)
      else
        let (adapter, err) := adapter.updateTrackingMultiplex client sessionId options
        let adapter := if err = .success then
          adapter.saveTrackingSession client sessionId options else adapter
        (adapter, adapter.reportResponse client err sessionId)
    else (adapter, [])
  | .stopTracking client sessionId =>
    if adapter.isTrackingSession client sessionId then
      let (adapter, err) := adapter.stopTrackingMultiplex client sessionId
      let adapter := if err = .success then adapter.eraseTrackingSession client sessionId
        else adapter
      (adapter, adapter.reportResponse client err sessionId)
    else (adapter, [])
  | .restartSessions => (adapter.restartSessions, [])

/-- `LocAdapterBase::generateSessionId`, with the counter in 32 bits. -/
def generateSessionId (mSessionIdCounter : Nat) : Nat :=
  let next := (mSessionIdCounter + 1) % 2 ^ 32
  if next = 0xFFFFFFFF then 1 else next

/-- The adapter with the counter that all adapters share and the queue of its
message task. -/
structure TrackingWorld where
  adapter : GnssAdapter
  mSessionIdCounter : Nat
  queue : List AdapterMsg

/-- What happens next. Other commands of any adapter draw ids as well. -/
inductive TrackingInput where
  | addClientCommand (client : Nat) (callbacks : LocationCallbacks)
  | removeClientCommand (client : Nat)
  | startTrackingCommand (client : Nat) (options : LocationOptions)
  | updateTrackingOptionsCommand (client id : Nat) (options : LocationOptions)
  | stopTrackingCommand (client id : Nat)
  | handleEngineUpEvent
  | otherCommand
  | proc (answers : List Int)
  deriving DecidableEq

namespace TrackingWorld

def start : TrackingWorld := ⟨⟨∅, ∅, ⟨none, []⟩⟩, 1, []⟩

def sendMsg (world : TrackingWorld) (msg : AdapterMsg) : TrackingWorld :=
  { world with queue := world.queue ++ [msg] }

/-- The adapter that receives a message, with the answers the engine is going to
give. An engine that has come up again does not track. -/
def received (world : TrackingWorld) (answers : List Int) (msg : AdapterMsg) : GnssAdapter :=
  { world.adapter with
    mLocApi := ⟨if msg = .restartSessions then none else world.adapter.mLocApi.fix, answers⟩ }

def step (world : TrackingWorld) : TrackingInput → TrackingWorld
  | .addClientCommand client callbacks => world.sendMsg (.addClient client callbacks)
  | .removeClientCommand client => world.sendMsg (.removeClient client)
  | .startTrackingCommand client options =>
    let sessionId := generateSessionId world.mSessionIdCounter
    { world with mSessionIdCounter := sessionId }.sendMsg (.startTracking client sessionId options)
  | .updateTrackingOptionsCommand client id options =>
    world.sendMsg (.updateTracking client id options)
  | .stopTrackingCommand client id => world.sendMsg (.stopTracking client id)
  | .handleEngineUpEvent => world.sendMsg .restartSessions
  | .otherCommand => { world with mSessionIdCounter := generateSessionId world.mSessionIdCounter }
  | .proc answers =>
    match world.queue with
    | [] => world
    | msg :: rest =>
      { world with adapter := (msg.proc (world.received answers msg)).1, queue := rest }

/-- A step processes the first message of the queue, or leaves the adapter alone. -/
theorem step_cases (world : TrackingWorld) (input : TrackingInput) :
    (∃ answers msg, input = .proc answers ∧ world.queue.head? = some msg ∧
        (world.step input).adapter = (msg.proc (world.received answers msg)).1) ∨
      (∀ answers msg, input = .proc answers → world.queue.head? ≠ some msg) ∧
        (world.step input).adapter = world.adapter := by
  cases input with
  | proc answers =>
    cases waiting : world.queue with
    | nil => exact .inr ⟨by simp, by simp only [step, waiting]⟩
    | cons msg rest => exact .inl ⟨answers, msg, rfl, rfl, by simp only [step, waiting]⟩
  | _ => exact .inr ⟨by simp, rfl⟩

end TrackingWorld
end Msm8917Common.Gnss
