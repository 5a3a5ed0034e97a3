import Mathlib.Algebra.Group.Nat.Defs
import Msm8917Common.LocationTypes

/-! `MsgGnssUpdateConfig` of `GnssAdapter.cpp`: the handler of one configuration
update, item by item. Most items are compared with the cached value, stored, and
then sent to the modem, whose answer is what the client is told. -/
namespace Msm8917Common.Location.ControlConfig

inductive GnssConfigGpsLock where
  | none | mo | ni | moAndNi
  deriving DecidableEq

inductive GnssConfigSuplVersion where
  | v1_0_0 | v2_0_0 | v2_0_2
  deriving DecidableEq

inductive GnssConfigLppProfile where
  | rrlpOnLte | userPlane | controlPlane | userPlaneAndControlPlane
  deriving DecidableEq

inductive GnssAssistanceType where
  | supl | c2k | other
  deriving DecidableEq

/-- A string is its characters up to the terminating zero; a null pointer is
`none`. -/
structure GnssConfigSetAssistanceServer where
  type : GnssAssistanceType
  hostName : Option (List Char)
  port : UInt32

/-- The items of a configuration, in the order of their flags. -/
inductive ConfigItem where
  | gpsLock | suplVersion | assistanceServer | lppProfile | lppeControlPlane | lppeUserPlane
  | aGlonassPositionProtocol | emergencyPdnForEmergencySupl | suplEmergencyServices | suplMode
  deriving DecidableEq

/-- The place of the bit in `GnssConfigFlagsBits`. -/
def ConfigItem.bit : ConfigItem → Nat
  | gpsLock => 0
  | suplVersion => 1
  | assistanceServer => 2
  | lppProfile => 3
  | lppeControlPlane => 4
  | lppeUserPlane => 5
  | aGlonassPositionProtocol => 6
  | emergencyPdnForEmergencySupl => 7
  | suplEmergencyServices => 8
  | suplMode => 9

structure GnssConfig where
  flags : UInt32
  gpsLock : GnssConfigGpsLock
  suplVersion : GnssConfigSuplVersion
  assistanceServer : GnssConfigSetAssistanceServer
  lppProfile : GnssConfigLppProfile
  lppeControlPlaneMask : UInt16
  lppeUserPlaneMask : UInt16
  aGlonassPositionProtocolMask : UInt16
  emergencyPdnForEmergencySupl : Bool
  suplEmergencyServices : Bool
  suplModeMask : UInt16

def GnssConfig.has (config : GnssConfig) (item : ConfigItem) : Bool :=
  config.flags.toNat.testBit item.bit

def convertGpsLock : GnssConfigGpsLock → UInt32
  | .mo => 1
  | .ni => 2
  | .moAndNi => 3
  | .none => 0

def convertSuplVersion : GnssConfigSuplVersion → UInt32
  | .v2_0_0 => 0x00020000
  | .v2_0_2 => 0x00020002
  | .v1_0_0 => 0x00010000

def convertLppProfile : GnssConfigLppProfile → UInt32
  | .userPlane => 1
  | .controlPlane => 2
  | .userPlaneAndControlPlane => 3
  | .rrlpOnLte => 0

/-- The low bits of a mask, one `if` a bit. -/
def convertBits (count : Nat) (mask : UInt16) : UInt32 :=
  (List.range count).foldl (fun out bit =>
    if mask.toNat.testBit bit then out ||| UInt32.ofNat (2 ^ bit) else out) 0

def convertLppeCp (lppeControlPlaneMask : UInt16) : UInt32 := convertBits 4 lppeControlPlaneMask

def convertLppeUp (lppeUserPlaneMask : UInt16) : UInt32 := convertBits 4 lppeUserPlaneMask

def convertAGloProt (aGloPositionProtocolMask : UInt16) : UInt32 :=
  convertBits 4 aGloPositionProtocolMask

def convertEP4ES (emergencyPdnForEmergencySupl : Bool) : UInt32 :=
  if emergencyPdnForEmergencySupl then 1 else 0

def convertSuplEs (suplEmergencyServices : Bool) : UInt32 := if suplEmergencyServices then 1 else 0

def convertSuplMode (suplModeMask : UInt16) : UInt32 := convertBits 2 suplModeMask

/-- `ContextBase::mGps_conf`. -/
structure GpsConf where
  GPS_LOCK : UInt32
  SUPL_VER : UInt32
  LPP_PROFILE : UInt32
  LPPE_CP_TECHNOLOGY : UInt32
  LPPE_UP_TECHNOLOGY : UInt32
  A_GLONASS_POS_PROTOCOL_SELECT : UInt32
  USE_EMERGENCY_PDN_FOR_EMERGENCY_SUPL : UInt32
  SUPL_ES : UInt32
  SUPL_MODE : UInt32
  AGPS_CONFIG_INJECT : Bool

structure ConfigCache where
  mGps_conf : GpsConf
  mServerUrl : List Char

/-- A call out of the handler: to the modem, or with new capabilities to the ULP
proxy and the clients. -/
inductive ConfigCall where
  | setGpsLock (lock : GnssConfigGpsLock)
  | setSUPLVersion (version : GnssConfigSuplVersion)
  | setServerUrl (url : List Char) (len : Nat)
  | setServer (ip : UInt32) (port : UInt32)
  | setLPPConfig (profile : GnssConfigLppProfile)
  | setLPPeProtocolCp (lppeCP : UInt16)
  | setLPPeProtocolUp (lppeUP : UInt16)
  | setAGLONASSProtocol (aGlonassProtocol : UInt16)
  | broadcastCapabilities
  deriving DecidableEq

/-- What the handler meets: the modem's answer to each call, the name service,
and whether there is a power vote. -/
structure ConfigEnv where
  answer : ConfigCall → LocationError
  resolveInAddress : Option (List Char) → Option UInt32
  powerVoteId : UInt32

/-- What one item does: the cache, the calls, and the error to report. -/
structure ItemResult where
  cache : ConfigCache
  calls : List ConfigCall
  err : LocationError

/-- `strncasecmp` on whole strings. -/
def sameIgnoringCase (one other : List Char) : Bool := one.map Char.toLower = other.map Char.toLower

/-- `serverUrl` and `length` of `setSuplHostServer`, if the length is not
negative. The port is an `int` there, and so is what `snprintf` returns. -/
def suplUrl (server : Option (List Char)) (port : UInt32) : Option (List Char × Nat) :=
  let host := server.getD []
  if host.isEmpty || sameIgnoringCase "NONE".toList host then some ([], 0)
  else if 0 < port ∧ port < 2147483648 then
    let printed := host ++ ':' :: (toString port.toNat).toList
    if printed.length < 2147483648 then some (printed.take 255, printed.length) else none
  else none

def setSuplHostServer (cache : ConfigCache) (answer : ConfigCall → LocationError)
    (server : Option (List Char)) (port : UInt32) : ItemResult :=
  if cache.mGps_conf.AGPS_CONFIG_INJECT then
    match suplUrl server port with
    | some (serverUrl, length) =>
      if sameIgnoringCase cache.mServerUrl serverUrl then ⟨cache, [], .invalidParameter⟩
      else ⟨{ cache with mServerUrl := serverUrl }, [.setServerUrl serverUrl length],
        answer (.setServerUrl serverUrl length)⟩
    | none => ⟨cache, [], .invalidParameter⟩
  else ⟨cache, [], .success⟩

/-- Compare, store, send: the shape that five items share. -/
def updateItem (cache : ConfigCache) (env : ConfigEnv) (cached new : UInt32) (allowed : Bool)
    (store : GpsConf → GpsConf) (call : ConfigCall) : ItemResult :=
  if new ≠ cached && allowed then
    ⟨{ cache with mGps_conf := store cache.mGps_conf }, [call], env.answer call⟩
  else ⟨cache, [], .success⟩

/-- The block of `MsgGnssUpdateConfig::proc` for each item. -/
def update (config : GnssConfig) (env : ConfigEnv) (cache : ConfigCache) : ConfigItem → ItemResult
  | .gpsLock =>
    let cache := { cache with
      mGps_conf := { cache.mGps_conf with GPS_LOCK := convertGpsLock config.gpsLock } }
    if env.powerVoteId = 0 then
      ⟨cache, [.setGpsLock config.gpsLock], env.answer (.setGpsLock config.gpsLock)⟩
    else ⟨cache, [], .success⟩
  | .suplVersion =>
    let newSuplVersion := convertSuplVersion config.suplVersion
    updateItem cache env cache.mGps_conf.SUPL_VER newSuplVersion
      cache.mGps_conf.AGPS_CONFIG_INJECT ({ · with SUPL_VER := newSuplVersion })
      (.setSUPLVersion config.suplVersion)
  | .assistanceServer =>
    match config.assistanceServer.type with
    | .supl => setSuplHostServer cache env.answer config.assistanceServer.hostName
        config.assistanceServer.port
    | .c2k =>
      if cache.mGps_conf.AGPS_CONFIG_INJECT then
        match env.resolveInAddress config.assistanceServer.hostName with
        | none => ⟨cache, [], .invalidParameter⟩
        | some ip => ⟨cache, [.setServer ip config.assistanceServer.port],
            env.answer (.setServer ip config.assistanceServer.port)⟩
      else ⟨cache, [], .success⟩
    | .other => ⟨cache, [], .invalidParameter⟩
  | .lppProfile =>
    let newLppProfile := convertLppProfile config.lppProfile
    updateItem cache env cache.mGps_conf.LPP_PROFILE newLppProfile
      cache.mGps_conf.AGPS_CONFIG_INJECT ({ · with LPP_PROFILE := newLppProfile })
      (.setLPPConfig config.lppProfile)
  | .lppeControlPlane =>
    let newLppeControlPlaneMask := convertLppeCp config.lppeControlPlaneMask
    updateItem cache env cache.mGps_conf.LPPE_CP_TECHNOLOGY newLppeControlPlaneMask true
      ({ · with LPPE_CP_TECHNOLOGY := newLppeControlPlaneMask })
      (.setLPPeProtocolCp config.lppeControlPlaneMask)
  | .lppeUserPlane =>
    let newLppeUserPlaneMask := convertLppeUp config.lppeUserPlaneMask
    updateItem cache env cache.mGps_conf.LPPE_UP_TECHNOLOGY newLppeUserPlaneMask true
      ({ · with LPPE_UP_TECHNOLOGY := newLppeUserPlaneMask })
      (.setLPPeProtocolUp config.lppeUserPlaneMask)
  | .aGlonassPositionProtocol =>
    let newAGloProtMask := convertAGloProt config.aGlonassPositionProtocolMask
    updateItem cache env cache.mGps_conf.A_GLONASS_POS_PROTOCOL_SELECT newAGloProtMask
      cache.mGps_conf.AGPS_CONFIG_INJECT
      ({ · with A_GLONASS_POS_PROTOCOL_SELECT := newAGloProtMask })
      (.setAGLONASSProtocol config.aGlonassPositionProtocolMask)
  | .emergencyPdnForEmergencySupl =>
    ⟨{ cache with mGps_conf := { cache.mGps_conf with
        USE_EMERGENCY_PDN_FOR_EMERGENCY_SUPL :=
          convertEP4ES config.emergencyPdnForEmergencySupl } }, [], .success⟩
  | .suplEmergencyServices =>
    ⟨{ cache with mGps_conf := { cache.mGps_conf with
        SUPL_ES := convertSuplEs config.suplEmergencyServices } }, [], .success⟩
  | .suplMode =>
    let newSuplMode := convertSuplMode config.suplModeMask
    ⟨{ cache with mGps_conf := { cache.mGps_conf with SUPL_MODE := newSuplMode } },
      if newSuplMode ≠ cache.mGps_conf.SUPL_MODE then [.broadcastCapabilities] else [], .success⟩

/-- What a message does: the cache, the calls in order, and for each item that is
flagged the error to report. -/
structure UpdateResult where
  cache : ConfigCache
  calls : List ConfigCall
  errs : List (ConfigItem × LocationError)

/-- The blocks one after the other. -/
def procItems (config : GnssConfig) (env : ConfigEnv) :
    List ConfigItem → ConfigCache → UpdateResult
  | [], cache => ⟨cache, [], []⟩
  | item :: items, cache =>
    if config.has item then
      let result := update config env cache item
      let later := procItems config env items result.cache
      ⟨later.cache, result.calls ++ later.calls, (item, result.err) :: later.errs⟩
    else procItems config env items cache

/-- `MsgGnssUpdateConfig::proc`. -/
def proc (cache : ConfigCache) (config : GnssConfig) (env : ConfigEnv) : UpdateResult :=
  procItems config env [.gpsLock, .suplVersion, .assistanceServer, .lppProfile, .lppeControlPlane,
    .lppeUserPlane, .aGlonassPositionProtocol, .emergencyPdnForEmergencySupl,
    .suplEmergencyServices, .suplMode] cache

end Msm8917Common.Location.ControlConfig
