import Msm8917Common.Agps

/-! `AgpsManager`: the three state machines, and which of them a request, a
release or a report reaches. -/
namespace Msm8917Common.Agps

/-- What the manager reads from `mGps_conf`. -/
structure GpsConf where
  CAPABILITIES : BitVec 32
  USE_EMERGENCY_PDN_FOR_EMERGENCY_SUPL : Bool
  deriving DecidableEq, Repr

def GpsConf.capabilityMsb : BitVec 32 := 1 <<< 1
def GpsConf.capabilityMsa : BitVec 32 := 1 <<< 2

def GpsConf.agpsCapable (conf : GpsConf) : Bool :=
  conf.CAPABILITIES &&& capabilityMsa != 0 || conf.CAPABILITIES &&& capabilityMsb != 0

/-- What the callbacks do during one event. `mDSClientInitFn` is the result of
the call, if the callback is registered. -/
structure Callbacks extends DsClient where
  mDSClientInitFn : Option Int
  deriving DecidableEq, Repr

namespace AgpsStateMachine

/-- The rest of `requestATL` once the machine is found: the subscriber waits
for the close exactly if the type is `SUPL_ES`. -/
def requestATL (machine : AgpsStateMachine) (client : DsClient) (connHandle : Int)
    (agpsType : AGpsExtType) : AgpsStateMachine × List AgpsOutput :=
  (machine.setCurrentSubscriber ⟨connHandle, agpsType == .suplEs, false⟩).processAgpsEvent client
    .subscribe

/-- The rest of `releaseATL` for a subscriber of this machine. -/
def releaseATL (machine : AgpsStateMachine) (client : DsClient) (subscriber : AgpsSubscriber) :
    AgpsStateMachine × List AgpsOutput :=
  (machine.setCurrentSubscriber subscriber).processAgpsEvent client .unsubscribe

/-- The rest of `reportAtlOpenSuccess` once the machine is found. -/
def reportAtlOpenSuccess (machine : AgpsStateMachine) (client : DsClient)
    (apnName : Option (List Char)) (bearerType : AGpsBearerType) :
    AgpsStateMachine × List AgpsOutput :=
  ((machine.setBearer bearerType).setAPN apnName).processAgpsEvent client .granted

end AgpsStateMachine

/-- `AgpsManager`. A machine is `none` until it is created. -/
structure AgpsManager where
  mAgnssNif : Option AgpsStateMachine
  mInternetNif : Option AgpsStateMachine
  mDsNif : Option AgpsStateMachine
  deriving DecidableEq, Repr

/-- Which field of the manager a machine is in. -/
inductive Nif where
  | agnss | internet | ds
  deriving DecidableEq, Repr

instance {holds : Nif → Prop} [DecidablePred holds] : Decidable (∀ nif, holds nif) :=
  decidable_of_iff (holds .agnss ∧ holds .internet ∧ holds .ds)
    ⟨fun ⟨agnss, internet, ds⟩ nif => by cases nif <;> assumption,
      fun all => ⟨all _, all _, all _⟩⟩

namespace AgpsManager

def nif (manager : AgpsManager) : Nif → Option AgpsStateMachine
  | .agnss => manager.mAgnssNif
  | .internet => manager.mInternetNif
  | .ds => manager.mDsNif

def setNif (manager : AgpsManager) (machine : AgpsStateMachine) : Nif → AgpsManager
  | .agnss => { manager with mAgnssNif := some machine }
  | .internet => { manager with mInternetNif := some machine }
  | .ds => { manager with mDsNif := some machine }

def new : AgpsManager := ⟨none, none, none⟩

def createAgpsStateMachines (manager : AgpsManager) (conf : GpsConf) (callbacks : Callbacks) :
    AgpsManager :=
  let manager := { manager with
    mInternetNif := some (manager.mInternetNif.getD (.new .wwanAny)) }
  if conf.agpsCapable then
    let manager := { manager with mAgnssNif := some (manager.mAgnssNif.getD (.new .supl)) }
    if manager.mDsNif.isNone && conf.USE_EMERGENCY_PDN_FOR_EMERGENCY_SUPL &&
        callbacks.mDSClientInitFn == some 0 then
      { manager with mDsNif := some .newDs }
    else manager
  else manager

/-- `getAgpsStateMachine`. The manager changes where the machine for `SUPL_ES`
is created on demand; the field may still be null afterwards. -/
def getAgpsStateMachine (manager : AgpsManager) (conf : GpsConf) (callbacks : Callbacks)
    (agpsType : AGpsExtType) : AgpsManager × Nif :=
  if agpsType = .invalid ∨ agpsType = .supl then (manager, .agnss)
  else if agpsType = .suplEs then
    if conf.USE_EMERGENCY_PDN_FOR_EMERGENCY_SUPL then
      (if manager.mDsNif.isNone then manager.createAgpsStateMachines conf callbacks else manager,
        .ds)
    else (manager, .agnss)
  else (manager, .internet)

def requestATL (manager : AgpsManager) (conf : GpsConf) (callbacks : Callbacks) (connHandle : Int)
    (agpsType : AGpsExtType) : AgpsManager × List AgpsOutput :=
  let (manager, nif) := manager.getAgpsStateMachine conf callbacks agpsType
  match manager.nif nif with
  | none => (manager, [.atlOpenStatus connHandle false none .invalid agpsType])
  | some machine =>
    let (machine, outputs) := machine.requestATL callbacks.toDsClient connHandle agpsType
    (manager.setNif machine nif, outputs)

/-- The search of `releaseATL` through the machines. -/
def findSubscriber (manager : AgpsManager) (connHandle : Int) : Option (Nif × AgpsSubscriber) :=
  [Nif.agnss, .internet, .ds].findSome? fun nif =>
    (manager.nif nif).bind fun machine => (machine.getSubscriber connHandle).map (nif, ·)

def releaseATL (manager : AgpsManager) (callbacks : Callbacks) (connHandle : Int) :
    AgpsManager × List AgpsOutput :=
  match manager.findSubscriber connHandle with
  | none => (manager, [.atlCloseStatus connHandle false])
  | some (nif, subscriber) =>
    match manager.nif nif with
    | none => (manager, [])
    | some machine =>
      let (machine, outputs) := machine.releaseATL callbacks.toDsClient subscriber
      (manager.setNif machine nif, outputs)

/-- A report to one machine. `none` stands for a call through a null pointer. -/
def reportTo (manager : AgpsManager) (nif : Nif)
    (report : AgpsStateMachine → AgpsStateMachine × List AgpsOutput) :
    Option (AgpsManager × List AgpsOutput) :=
  (manager.nif nif).map fun machine =>
    let (machine, outputs) := report machine
    (manager.setNif machine nif, outputs)

def reportDataCallOpened (manager : AgpsManager) (callbacks : Callbacks) :
    AgpsManager × List AgpsOutput :=
  (manager.reportTo .ds (·.processAgpsEvent callbacks.toDsClient .granted)).getD (manager, [])

def reportDataCallClosed (manager : AgpsManager) (callbacks : Callbacks) :
    AgpsManager × List AgpsOutput :=
  (manager.reportTo .ds (·.processAgpsEvent callbacks.toDsClient .released)).getD (manager, [])

def reportAtlOpenSuccess (manager : AgpsManager) (conf : GpsConf) (callbacks : Callbacks)
    (agpsType : AGpsExtType) (apnName : Option (List Char)) (bearerType : AGpsBearerType) :
    Option (AgpsManager × List AgpsOutput) :=
  let (manager, nif) := manager.getAgpsStateMachine conf callbacks agpsType
  manager.reportTo nif (·.reportAtlOpenSuccess callbacks.toDsClient apnName bearerType)

def reportAtlOpenFailed (manager : AgpsManager) (conf : GpsConf) (callbacks : Callbacks)
    (agpsType : AGpsExtType) : Option (AgpsManager × List AgpsOutput) :=
  let (manager, nif) := manager.getAgpsStateMachine conf callbacks agpsType
  manager.reportTo nif (·.processAgpsEvent callbacks.toDsClient .denied)

def reportAtlClosed (manager : AgpsManager) (conf : GpsConf) (callbacks : Callbacks)
    (agpsType : AGpsExtType) : Option (AgpsManager × List AgpsOutput) :=
  let (manager, nif) := manager.getAgpsStateMachine conf callbacks agpsType
  manager.reportTo nif (·.processAgpsEvent callbacks.toDsClient .released)

end AgpsManager
end Msm8917Common.Agps
