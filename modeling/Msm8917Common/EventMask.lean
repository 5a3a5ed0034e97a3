import Mathlib.Data.List.AList

/-! `GnssAdapter.cpp`: the events the adapter is registered for. The mask is worked
out anew when a client comes or goes; the other messages that change what it is
worked out from set a single bit of it, or none. -/
namespace Msm8917Common.Gnss.EventMask

/-- The indices of `loc_api_adapter_event_index` that the adapter asks for. -/
inductive AdapterEvent where
  | reportPosition | reportSatellite | reportNmea1Hz | requestNiNotifyVerify
  | requestLocationServer | requestWifi | gnssSvPolynomialReport | gnssMeasurement
  deriving DecidableEq, Repr

def AdapterEvent.index : AdapterEvent → Nat
  | .reportPosition => 0
  | .reportSatellite => 1
  | .reportNmea1Hz => 2
  | .requestNiNotifyVerify => 4
  | .requestLocationServer => 6
  | .requestWifi => 9
  | .gnssSvPolynomialReport => 23
  | .gnssMeasurement => 26

/-- `LOC_API_ADAPTER_BIT_…` of an event. -/
def AdapterEvent.bit (event : AdapterEvent) : BitVec 64 := 1#64 <<< event.index

inductive RegistrationMaskStatus where
  | enabled | disabled | set
  deriving DecidableEq, Repr

/-- Which callbacks a client has, of those that events are registered for. -/
structure LocationCallbacks where
  trackingCb : Bool
  gnssNiCb : Bool
  gnssSvCb : Bool
  gnssNmeaCb : Bool
  gnssMeasurementsCb : Bool
  deriving DecidableEq, Repr

/-- `AgpsCbPriority`; `unset` is the zero that the adapter starts with. -/
inductive AgpsCbPriority where
  | unset | low | med | high
  deriving DecidableEq, Repr

def AgpsCbPriority.value : AgpsCbPriority → Nat
  | .unset => 0
  | .low => 1
  | .med => 2
  | .high => 3

/-- `AgpsCbInfo`, with whether its callback is there. -/
structure AgpsCbInfo where
  statusV4Cb : Bool
  cbPriority : AgpsCbPriority
  deriving DecidableEq, Repr

/-- The entries of `ContextBase::mGps_conf` that the mask depends on. -/
structure GpsConf where
  CAPABILITIES : Nat
  NMEA_PROVIDER : Nat
  EXTERNAL_DR_ENABLED : Nat
  deriving DecidableEq, Repr

/-- What a message finds outside: the entries that the configuration file has,
the features of the engine, and what `libloc_net_iface` gives. -/
structure Environment where
  CAPABILITIES : Option Nat
  NMEA_PROVIDER : Option Nat
  EXTERNAL_DR_ENABLED : Option Nat
  debugNmeaSupported : Bool
  getAgpsCbInfo : Option AgpsCbInfo
  deriving DecidableEq, Repr

/-- `ContextBase::readConfig`. `EXTERNAL_DR_ENABLED` has no default. -/
def GpsConf.readConfig (conf : GpsConf) (env : Environment) : GpsConf where
  CAPABILITIES := env.CAPABILITIES.getD 0x7
  NMEA_PROVIDER := env.NMEA_PROVIDER.getD 0
  EXTERNAL_DR_ENABLED := env.EXTERNAL_DR_ENABLED.getD conf.EXTERNAL_DR_ENABLED

def locGpsCapabilityMsb : Nat := 0x2
def locGpsCapabilityMsa : Nat := 0x4
def nmeaProviderMp : Nat := 1
def locNmeaAllGeneralSupportedMask : BitVec 32 := 0x1ffff#32
def locNmeaMaskDebug : BitVec 32 := 0x20000#32

structure GnssAdapter where
  mEvtMask : BitVec 64
  mClientData : AList fun _ : Nat => LocationCallbacks
  mNmeaMask : BitVec 32
  mAgpsCbInfo : AgpsCbInfo
  mOdcpiRequestCb : Bool
  mGps_conf : GpsConf

namespace GnssAdapter
variable (adapter : GnssAdapter)

/-- `LocAdapterBase::updateEvtMask`. -/
def updateEvtMask (event : BitVec 64) : RegistrationMaskStatus → GnssAdapter
  | .enabled => { adapter with mEvtMask := adapter.mEvtMask ||| event }
  | .disabled => { adapter with mEvtMask := adapter.mEvtMask &&& ~~~event }
  | .set => { adapter with mEvtMask := event }

/-- What one client adds to the mask. -/
def addClientEvents (mNmeaMask : BitVec 32) (mask : BitVec 64) (callbacks : LocationCallbacks) :
    BitVec 64 :=
  let mask := if callbacks.trackingCb then mask ||| AdapterEvent.reportPosition.bit else mask
  let mask := if callbacks.gnssNiCb then mask ||| AdapterEvent.requestNiNotifyVerify.bit else mask
  let mask := if callbacks.gnssSvCb then mask ||| AdapterEvent.reportSatellite.bit else mask
  let mask := if callbacks.gnssNmeaCb && mNmeaMask != 0 then
    mask ||| AdapterEvent.reportNmea1Hz.bit else mask
  if callbacks.gnssMeasurementsCb then mask ||| AdapterEvent.gnssMeasurement.bit else mask

/-- The mask that `updateClientsEventMask` works out. -/
def clientsEventMask : BitVec 64 :=
  let mask := adapter.mClientData.entries.foldl
    (fun mask client => addClientEvents adapter.mNmeaMask mask client.2) 0
  let mask := if adapter.mGps_conf.EXTERNAL_DR_ENABLED = 1 then
    mask ||| AdapterEvent.gnssMeasurement.bit ||| AdapterEvent.gnssSvPolynomialReport.bit else mask
  let mask := if adapter.mAgpsCbInfo.statusV4Cb then
    mask ||| AdapterEvent.requestLocationServer.bit else mask
  if adapter.mOdcpiRequestCb then mask ||| AdapterEvent.requestWifi.bit else mask

def updateClientsEventMask : GnssAdapter := adapter.updateEvtMask adapter.clientsEventMask .set

def saveClient (client : Nat) (callbacks : LocationCallbacks) : GnssAdapter :=
  { adapter with
    mClientData := adapter.mClientData.insert client callbacks }.updateClientsEventMask

def eraseClient (client : Nat) : GnssAdapter :=
  { adapter with mClientData := adapter.mClientData.erase client }.updateClientsEventMask

def readConfig (env : Environment) : GnssAdapter :=
  { adapter with mGps_conf := adapter.mGps_conf.readConfig env }

/-- The NMEA types that `MsgSetConfig` asks the engine for, and keeps. -/
def nmeaTypes (env : Environment) : BitVec 32 :=
  let mask : BitVec 32 := 0
  let mask := if adapter.mGps_conf.NMEA_PROVIDER = nmeaProviderMp then
    mask ||| locNmeaAllGeneralSupportedMask else mask
  if env.debugNmeaSupported then mask ||| locNmeaMaskDebug else mask

def setConfig (env : Environment) : GnssAdapter :=
  { adapter with mNmeaMask := adapter.nmeaTypes env }

/-- Whether the phone has the capability for AGPS at all. -/
def agpsCapable : Bool :=
  adapter.mGps_conf.CAPABILITIES &&& locGpsCapabilityMsb != 0 ||
    adapter.mGps_conf.CAPABILITIES &&& locGpsCapabilityMsa != 0

def initAgps (cbInfo : AgpsCbInfo) : GnssAdapter :=
  if !adapter.agpsCapable then adapter
  else if adapter.mAgpsCbInfo.cbPriority.value > cbInfo.cbPriority.value then adapter
  else
    { adapter with mAgpsCbInfo := cbInfo }.updateEvtMask
      AdapterEvent.requestLocationServer.bit .enabled

def initDefaultAgps (env : Environment) : GnssAdapter :=
  match env.getAgpsCbInfo with
  | none => adapter
  | some cbInfo => if !cbInfo.statusV4Cb then adapter else adapter.initAgps cbInfo

def initOdcpi (callback : Bool) : GnssAdapter :=
  { adapter with mOdcpiRequestCb := callback }.updateEvtMask AdapterEvent.requestWifi.bit .enabled

end GnssAdapter

/-- The messages that change the mask or what it is worked out from, and
`MsgRestartSessions`, which does neither. -/
inductive AdapterMsg where
  | readConfig
  | setConfig
  | initDefaultAgps
  | addClient (client : Nat) (callbacks : LocationCallbacks)
  | removeClient (client : Nat)
  | initAgps (cbInfo : AgpsCbInfo)
  | initOdcpi (callback : Bool)
  | restartSessions
  deriving DecidableEq

def AdapterMsg.proc (adapter : GnssAdapter) (env : Environment) : AdapterMsg → GnssAdapter
  | .readConfig => adapter.readConfig env
  | .setConfig => adapter.setConfig env
  | .initDefaultAgps => adapter.initDefaultAgps env
  | .addClient client callbacks => adapter.saveClient client callbacks
  | .removeClient client => adapter.eraseClient client
  | .initAgps cbInfo => adapter.initAgps cbInfo
  | .initOdcpi callback => adapter.initOdcpi callback
  | .restartSessions => adapter

structure MaskWorld where
  adapter : GnssAdapter
  queue : List AdapterMsg

inductive MaskInput where
  | addClientCommand (client : Nat) (callbacks : LocationCallbacks)
  | removeClientCommand (client : Nat)
  | initAgpsCommand (cbInfo : AgpsCbInfo)
  | initOdcpiCommand (callback : Bool)
  | setConfigCommand
  | handleEngineUpEvent
  | proc (env : Environment)
  deriving DecidableEq

namespace MaskWorld

/-- The adapter as its constructor leaves it, with the messages it sends itself. -/
def start : MaskWorld :=
  ⟨⟨0, ∅, 0, ⟨false, .unset⟩, false, ⟨0, 0, 0⟩⟩, [.readConfig, .setConfig, .initDefaultAgps]⟩

def sendMsg (world : MaskWorld) (msg : AdapterMsg) : MaskWorld :=
  { world with queue := world.queue ++ [msg] }

def step (world : MaskWorld) : MaskInput → MaskWorld
  | .addClientCommand client callbacks => world.sendMsg (.addClient client callbacks)
  | .removeClientCommand client => world.sendMsg (.removeClient client)
  | .initAgpsCommand cbInfo => world.sendMsg (.initAgps cbInfo)
  | .initOdcpiCommand callback => world.sendMsg (.initOdcpi callback)
  | .setConfigCommand => world.sendMsg .setConfig
  | .handleEngineUpEvent => (world.sendMsg .setConfig).sendMsg .restartSessions
  | .proc env =>
    match world.queue with
    | [] => world
    | msg :: rest => { adapter := msg.proc world.adapter env, queue := rest }

end MaskWorld
end Msm8917Common.Gnss.EventMask
