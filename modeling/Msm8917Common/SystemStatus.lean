import Mathlib.Data.Rat.Defs
import Msm8917Common.SystemStatusOsObserver

/-! `SystemStatus.cpp`: the reports that the process keeps of the engine and of the
platform. Each kind of report has a short history, and its own `equals` that decides
whether a report is new enough to go there. -/
namespace Msm8917Common.Status

/-- A `float` or a `double`. Zero has no sign here: no comparison tells the two apart. -/
inductive FloatValue where
  | nan
  | infinite (negative : Bool)
  | finite (value : ℚ)
  deriving DecidableEq

/-- `==` on them. -/
def FloatValue.same (value other : FloatValue) : Bool :=
  decide (value ≠ .nan) && decide (value = other)

/-- Its `size` is left out: it says how large the type is, and nothing here looks at it. -/
structure LocGpsLocation where
  flags : Nat
  latitude : FloatValue
  longitude : FloatValue
  altitude : FloatValue
  speed : FloatValue
  bearing : FloatValue
  accuracy : FloatValue
  vertUncertainity : FloatValue
  timestamp : Int

/-- Of an `UlpLocation` only the fix itself is looked at; the rest is carried along. -/
structure UlpLocation where
  gpsLocation : LocGpsLocation
  rest : List UInt8

/-- `mLocationEx` is carried along. -/
structure SystemStatusLocation where
  mValid : Bool
  mLocation : UlpLocation
  mLocationEx : List UInt8

def SystemStatusLocation.equals (this peer : SystemStatusLocation) : Bool :=
  this.mLocation.gpsLocation.latitude.same peer.mLocation.gpsLocation.latitude &&
    this.mLocation.gpsLocation.longitude.same peer.mLocation.gpsLocation.longitude &&
    this.mLocation.gpsLocation.altitude.same peer.mLocation.gpsLocation.altitude

structure SystemStatusTimeAndClock where
  mGpsWeek : Nat
  mGpsTowMs : Nat
  mTimeValid : Nat
  mTimeSource : Nat
  mTimeUnc : Int
  mClockFreqBias : Int
  mClockFreqBiasUnc : Int
  mLeapSeconds : Int
  mLeapSecUnc : Int

def SystemStatusTimeAndClock.equals (this peer : SystemStatusTimeAndClock) : Bool :=
  this.mGpsWeek == peer.mGpsWeek && this.mGpsTowMs == peer.mGpsTowMs &&
    this.mTimeValid == peer.mTimeValid && this.mTimeSource == peer.mTimeSource &&
    this.mTimeUnc == peer.mTimeUnc && this.mClockFreqBias == peer.mClockFreqBias &&
    this.mClockFreqBiasUnc == peer.mClockFreqBiasUnc &&
    this.mLeapSeconds == peer.mLeapSeconds && this.mLeapSecUnc == peer.mLeapSecUnc

structure SystemStatusRfAndParams where
  mPgaGain : Int
  mGpsBpAmpI : Nat
  mGpsBpAmpQ : Nat
  mAdcI : Nat
  mAdcQ : Nat
  mJammerGps : Nat
  mJammerGlo : Nat
  mJammerBds : Nat
  mJammerGal : Nat
  mAgcGps : FloatValue
  mAgcGlo : FloatValue
  mAgcBds : FloatValue
  mAgcGal : FloatValue
  mGloBpAmpI : Nat
  mGloBpAmpQ : Nat
  mBdsBpAmpI : Nat
  mBdsBpAmpQ : Nat
  mGalBpAmpI : Nat
  mGalBpAmpQ : Nat

def SystemStatusRfAndParams.equals (this peer : SystemStatusRfAndParams) : Bool :=
  this.mPgaGain == peer.mPgaGain && this.mGpsBpAmpI == peer.mGpsBpAmpI &&
    this.mGpsBpAmpQ == peer.mGpsBpAmpQ && this.mAdcI == peer.mAdcI && this.mAdcQ == peer.mAdcQ &&
    this.mJammerGps == peer.mJammerGps && this.mJammerGlo == peer.mJammerGlo &&
    this.mJammerBds == peer.mJammerBds && this.mJammerGal == peer.mJammerGal &&
    this.mAgcGps.same peer.mAgcGps && this.mAgcGlo.same peer.mAgcGlo &&
    this.mAgcBds.same peer.mAgcBds && this.mAgcGal.same peer.mAgcGal &&
    this.mGloBpAmpI == peer.mGloBpAmpI && this.mGloBpAmpQ == peer.mGloBpAmpQ &&
    this.mBdsBpAmpI == peer.mBdsBpAmpI && this.mBdsBpAmpQ == peer.mBdsBpAmpQ &&
    this.mGalBpAmpI == peer.mGalBpAmpI && this.mGalBpAmpQ == peer.mGalBpAmpQ

structure SystemStatusInjectedPosition where
  mEpiValidity : Nat
  mEpiLat : FloatValue
  mEpiLon : FloatValue
  mEpiAlt : FloatValue
  mEpiHepe : FloatValue
  mEpiAltUnc : FloatValue
  mEpiSrc : Nat

def SystemStatusInjectedPosition.equals (this peer : SystemStatusInjectedPosition) : Bool :=
  this.mEpiValidity == peer.mEpiValidity && this.mEpiLat.same peer.mEpiLat &&
    this.mEpiLon.same peer.mEpiLon && this.mEpiAlt.same peer.mEpiAlt &&
    this.mEpiHepe.same peer.mEpiHepe && this.mEpiAltUnc.same peer.mEpiAltUnc &&
    this.mEpiSrc == peer.mEpiSrc

structure SystemStatusBestPosition where
  mValid : Bool
  mBestLat : FloatValue
  mBestLon : FloatValue
  mBestAlt : FloatValue
  mBestHepe : FloatValue
  mBestAltUnc : FloatValue

def SystemStatusBestPosition.equals (this peer : SystemStatusBestPosition) : Bool :=
  this.mBestLat.same peer.mBestLat && this.mBestLon.same peer.mBestLon &&
    this.mBestAlt.same peer.mBestAlt && this.mBestHepe.same peer.mBestHepe &&
    this.mBestAltUnc.same peer.mBestAltUnc

structure SystemStatusXtra where
  mXtraValidMask : Nat
  mGpsXtraAge : Nat
  mGloXtraAge : Nat
  mBdsXtraAge : Nat
  mGalXtraAge : Nat
  mQzssXtraAge : Nat
  mGpsXtraValid : Nat
  mGloXtraValid : Nat
  mBdsXtraValid : Nat
  mGalXtraValid : Nat
  mQzssXtraValid : Nat

def SystemStatusXtra.equals (this peer : SystemStatusXtra) : Bool :=
  this.mXtraValidMask == peer.mXtraValidMask && this.mGpsXtraAge == peer.mGpsXtraAge &&
    this.mGloXtraAge == peer.mGloXtraAge && this.mBdsXtraAge == peer.mBdsXtraAge &&
    this.mGalXtraAge == peer.mGalXtraAge && this.mQzssXtraAge == peer.mQzssXtraAge &&
    this.mGpsXtraValid == peer.mGpsXtraValid && this.mGloXtraValid == peer.mGloXtraValid &&
    this.mBdsXtraValid == peer.mBdsXtraValid && this.mGalXtraValid == peer.mGalXtraValid &&
    this.mQzssXtraValid == peer.mQzssXtraValid

structure SystemStatusEphemeris where
  mGpsEpheValid : Nat
  mGloEpheValid : Nat
  mBdsEpheValid : Nat
  mGalEpheValid : Nat
  mQzssEpheValid : Nat

def SystemStatusEphemeris.equals (this peer : SystemStatusEphemeris) : Bool :=
  this.mGpsEpheValid == peer.mGpsEpheValid && this.mGloEpheValid == peer.mGloEpheValid &&
    this.mBdsEpheValid == peer.mBdsEpheValid && this.mGalEpheValid == peer.mGalEpheValid &&
    this.mQzssEpheValid == peer.mQzssEpheValid

structure SystemStatusSvHealth where
  mGpsUnknownMask : Nat
  mGloUnknownMask : Nat
  mBdsUnknownMask : Nat
  mGalUnknownMask : Nat
  mQzssUnknownMask : Nat
  mGpsGoodMask : Nat
  mGloGoodMask : Nat
  mBdsGoodMask : Nat
  mGalGoodMask : Nat
  mQzssGoodMask : Nat
  mGpsBadMask : Nat
  mGloBadMask : Nat
  mBdsBadMask : Nat
  mGalBadMask : Nat
  mQzssBadMask : Nat

def SystemStatusSvHealth.equals (this peer : SystemStatusSvHealth) : Bool :=
  this.mGpsUnknownMask == peer.mGpsUnknownMask && this.mGloUnknownMask == peer.mGloUnknownMask &&
    this.mBdsUnknownMask == peer.mBdsUnknownMask && this.mGalUnknownMask == peer.mGalUnknownMask &&
    this.mQzssUnknownMask == peer.mQzssUnknownMask && this.mGpsGoodMask == peer.mGpsGoodMask &&
    this.mGloGoodMask == peer.mGloGoodMask && this.mBdsGoodMask == peer.mBdsGoodMask &&
    this.mGalGoodMask == peer.mGalGoodMask && this.mQzssGoodMask == peer.mQzssGoodMask &&
    this.mGpsBadMask == peer.mGpsBadMask && this.mGloBadMask == peer.mGloBadMask &&
    this.mBdsBadMask == peer.mBdsBadMask && this.mGalBadMask == peer.mGalBadMask &&
    this.mQzssBadMask == peer.mQzssBadMask

structure SystemStatusNav where
  mType : Nat
  mSource : Nat
  mAgeSec : Int

def GNSS_EPH_TYPE_UNKNOWN : Nat := 0

def GNSS_EPH_SOURCE_UNKNOWN : Nat := 0

/-- `GPS_NUM + GLO_NUM + QZSS_NUM + BDS_NUM + GAL_NUM`. -/
def SV_ALL_NUM : Nat := 32 + 24 + 5 + 37 + 36

structure SystemStatusNavData where
  mNav : Fin SV_ALL_NUM → SystemStatusNav

def SystemStatusNavData.equals (this peer : SystemStatusNavData) : Bool :=
  (List.finRange SV_ALL_NUM).all fun i =>
    (this.mNav i).mType == (peer.mNav i).mType && (this.mNav i).mSource == (peer.mNav i).mSource &&
      (this.mNav i).mAgeSec == (peer.mNav i).mAgeSec

structure SystemStatusPositionFailure where
  mFixInfoMask : Nat
  mHepeLimit : Nat

def SystemStatusPositionFailure.equals (this peer : SystemStatusPositionFailure) : Bool :=
  this.mFixInfoMask == peer.mFixInfoMask && this.mHepeLimit == peer.mHepeLimit

/-- `NetworkInfoDataItemBase`, in `SystemStatusNetworkInfo`. -/
structure SystemStatusNetworkInfo where
  mAllTypes : BitVec 64
  mType : Int
  mTypeName : String
  mSubTypeName : String
  mAvailable : Bool
  mConnected : Bool
  mRoaming : Bool

namespace SystemStatusNetworkInfo

def TYPE_MOBILE : Int := 0
def TYPE_UNKNOWN : Int := 9

def typeToAllTypes (type : Int) : BitVec 64 :=
  if type ≥ TYPE_UNKNOWN ∨ type < TYPE_MOBILE then 0 else BitVec.twoPow 64 type.toNat

/-- The constructor from a type, names and flags. -/
def new (type : Int) (typeName subTypeName : String) (connected roaming : Bool) :
    SystemStatusNetworkInfo where
  mAllTypes := typeToAllTypes type
  mType := type
  mTypeName := typeName
  mSubTypeName := subTypeName
  mAvailable := connected && !roaming
  mConnected := connected
  mRoaming := roaming

def equals (this peer : SystemStatusNetworkInfo) : Bool := this.mAllTypes == peer.mAllTypes

/-- The item that was reported gets the collated `mAllTypes`, too. -/
def collate (this curInfo : SystemStatusNetworkInfo) : SystemStatusNetworkInfo :=
  { this with
    mAllTypes :=
      if this.mConnected then this.mAllTypes ||| curInfo.mAllTypes
      else if 0 ≠ this.mAllTypes then curInfo.mAllTypes &&& ~~~this.mAllTypes
      else this.mAllTypes }

end SystemStatusNetworkInfo

structure TimeChangeDataItem where
  mCurrTimeMillis : Int
  mRawOffsetTZ : Int
  mDstOffsetTZ : Int

/-- `equals` of both reports about the time. -/
def TimeChangeDataItem.equals (this peer : TimeChangeDataItem) : Bool :=
  this.mCurrTimeMillis == peer.mCurrTimeMillis && this.mRawOffsetTZ == peer.mRawOffsetTZ &&
    this.mDstOffsetTZ == peer.mDstOffsetTZ

structure SystemStatusWifiSupplicantStatus where
  mState : Nat
  mApMacAddressValid : Bool
  mApMacAddress : List UInt8
  mWifiApSsidValid : Bool
  mWifiApSsid : String

def SystemStatusWifiSupplicantStatus.equals (this peer : SystemStatusWifiSupplicantStatus) :
    Bool :=
  this.mState == peer.mState && this.mApMacAddressValid == peer.mApMacAddressValid &&
    this.mWifiApSsidValid == peer.mWifiApSsidValid && this.mWifiApSsid == peer.mWifiApSsid

/-- `SrnDeviceScanDetailsDataItemBase`. -/
structure SrnDeviceScanDetails where
  mValidSrnData : Bool
  mApSrnRssi : Int
  mApSrnMacAddress : List UInt8
  mApSrnTimestamp : Int
  mRequestTimestamp : Int
  mReceiveTimestamp : Int
  mErrorCause : Int

/-- `equals` of both scan reports. -/
def SrnDeviceScanDetails.equals (_ _ : SrnDeviceScanDetails) : Bool := true

/-- The vectors of `SystemStatusReports`. -/
inductive ReportKind where
  | location
  | timeAndClock | xoState | rfAndParams | errRecovery
  | injectedPosition | bestPosition | xtra | ephemeris | svHealth | pdr | navData
  | positionFailure
  | airplaneMode | enh | gpsState | nlpStatus | wifiHardwareState | networkInfo
  | rilServiceInfo | rilCellInfo | serviceStatus | model | manufacturer | assistedGps
  | screenState | powerConnectState | timeZoneChange | timeChange | wifiSupplicantStatus
  | shutdownState | tac | mccMnc | btDeviceScanDetail | btLeDeviceScanDetail
  deriving DecidableEq

/-- What a report of a kind holds, without its timestamps. A class with one field is the
type of the field; `mData` of the cell reports is a pointer, or null. -/
def ReportKind.Item : ReportKind → Type
  | .location => SystemStatusLocation
  | .timeAndClock => SystemStatusTimeAndClock
  | .xoState | .errRecovery | .pdr => Nat
  | .rfAndParams => SystemStatusRfAndParams
  | .injectedPosition => SystemStatusInjectedPosition
  | .bestPosition => SystemStatusBestPosition
  | .xtra => SystemStatusXtra
  | .ephemeris => SystemStatusEphemeris
  | .svHealth => SystemStatusSvHealth
  | .navData => SystemStatusNavData
  | .positionFailure => SystemStatusPositionFailure
  | .airplaneMode | .enh | .gpsState | .nlpStatus | .wifiHardwareState | .assistedGps
  | .screenState | .powerConnectState | .shutdownState => Bool
  | .networkInfo => SystemStatusNetworkInfo
  | .rilServiceInfo | .rilCellInfo => Option Nat
  | .serviceStatus => Int
  | .model | .manufacturer | .tac | .mccMnc => String
  | .timeZoneChange | .timeChange => TimeChangeDataItem
  | .wifiSupplicantStatus => SystemStatusWifiSupplicantStatus
  | .btDeviceScanDetail | .btLeDeviceScanDetail => SrnDeviceScanDetails

namespace ReportKind

def equals : (kind : ReportKind) → kind.Item → kind.Item → Bool
  | .location => SystemStatusLocation.equals
  | .timeAndClock => SystemStatusTimeAndClock.equals
  | .xoState | .errRecovery | .pdr => fun this peer : Nat => this == peer
  | .rfAndParams => SystemStatusRfAndParams.equals
  | .injectedPosition => SystemStatusInjectedPosition.equals
  | .bestPosition => SystemStatusBestPosition.equals
  | .xtra => SystemStatusXtra.equals
  | .ephemeris => SystemStatusEphemeris.equals
  | .svHealth => SystemStatusSvHealth.equals
  | .navData => SystemStatusNavData.equals
  | .positionFailure => SystemStatusPositionFailure.equals
  | .airplaneMode | .enh | .gpsState | .nlpStatus | .wifiHardwareState | .assistedGps
  | .screenState | .powerConnectState | .shutdownState => fun this peer : Bool => this == peer
  | .networkInfo => SystemStatusNetworkInfo.equals
  | .rilServiceInfo | .rilCellInfo => fun this peer : Option Nat => this == peer
  | .serviceStatus => fun this peer : Int => this == peer
  | .model | .manufacturer | .tac | .mccMnc => fun this peer : String => this == peer
  | .timeZoneChange | .timeChange => TimeChangeDataItem.equals
  | .wifiSupplicantStatus => SystemStatusWifiSupplicantStatus.equals
  | .btDeviceScanDetail | .btLeDeviceScanDetail => SrnDeviceScanDetails.equals

/-- Only network reports have a `collate` of their own. -/
def collate : (kind : ReportKind) → kind.Item → kind.Item → kind.Item
  | .networkInfo, this, curInfo => SystemStatusNetworkInfo.collate this curInfo
  | _, this, _ => this

/-- What a copy of a report holds. The copies of a cell report get their data from its
`setPeerData`, and that of the base class gives none. -/
def copied : (kind : ReportKind) → kind.Item → kind.Item
  | .rilServiceInfo, _ => (none : Option Nat)
  | .rilCellInfo, _ => (none : Option Nat)
  | _, this => this

end ReportKind

/-- `SystemStatusItemBase` with what a class adds to it. -/
structure SystemStatusItem (α : Type) where
  mUtcTime : Nat
  mUtcReported : Nat
  data : α

/-- A vector of `SystemStatusReports`, the newest last. -/
abbrev Report (kind : ReportKind) := List (SystemStatusItem kind.Item)

def maxItem : Nat := 5

/-- The end of `setIteminReport`, and all of `setDefaultIteminReport`. -/
def Report.push {kind : ReportKind} (report : Report kind) (s : SystemStatusItem kind.Item) :
    Report kind :=
  let report := report ++ [{ s with data := kind.copied s.data }]
  if report.length > maxItem then report.tail else report

/-- The new vector, and whether there was something new. -/
def setIteminReport {kind : ReportKind} (report : Report kind) (s : SystemStatusItem kind.Item) :
    Report kind × Bool :=
  match report.getLast? with
  | some back =>
    let s := { s with data := kind.collate s.data back.data }
    if kind.equals back.data s.data then
      (report.dropLast ++ [{ back with mUtcReported := s.mUtcReported }], false)
    else (report.push s, true)
  | none => (report.push s, true)

namespace Report
variable {kind : ReportKind} (report : Report kind) (s : SystemStatusItem kind.Item)

/-- The newest entry, without its timestamps. -/
def newest : Option kind.Item := report.getLast?.map (·.data)

@[simp] theorem newest_push : (report.push s).newest = some (kind.copied s.data) := by
  unfold Report.push newest
  dsimp only
  split
  next full =>
    cases report with
    | nil => simp [maxItem] at full
    | cons oldest later => simp
  next room => simp

/-- A report that its kind finds equal to the newest leaves it there. -/
theorem newest_setIteminReport :
    Report.newest (setIteminReport report s).1 =
      match report.newest with
      | some cur =>
        if kind.equals cur (kind.collate s.data cur) then some cur
        else some (kind.copied (kind.collate s.data cur))
      | none => some (kind.copied s.data) := by
  unfold setIteminReport
  cases last : report.getLast? with
  | none =>
    simp only [newest_push]
    simp only [newest, last, Option.map_none]
  | some back =>
    have cur : report.newest = some back.data := by simp only [newest, last, Option.map_some]
    simp only [cur]
    split
    · simp [newest]
    · exact newest_push _ _

end Report

/-- `mCache`. -/
structure SystemStatusReports where
  report : (kind : ReportKind) → Report kind

namespace SystemStatusReports

def empty : SystemStatusReports := ⟨fun _ => []⟩

def set (cache : SystemStatusReports) (kind : ReportKind) (report : Report kind) :
    SystemStatusReports :=
  ⟨Function.update cache.report kind report⟩

end SystemStatusReports

/-- A report that was made out of an event, and is on its way into the cache. -/
structure Update where
  kind : ReportKind
  item : kind.Item

/-- `setIteminReport` on the vector of the kind, at a time. -/
def SystemStatusReports.update (cache : SystemStatusReports) (now : Nat) (update : Update) :
    SystemStatusReports × Bool :=
  let (report, updated) := setIteminReport (cache.report update.kind) ⟨now, now, update.item⟩
  (cache.set update.kind report, updated)

/-- A debug sentence, with what its parser read of it. -/
inductive DebugSentence where
  | PQWM1 (timeAndClock : SystemStatusTimeAndClock) (mXoState : Nat)
      (rfAndParams : SystemStatusRfAndParams) (mRecErrorRecovery : Nat)
  | PQWP1 (injectedPosition : SystemStatusInjectedPosition)
  | PQWP2 (mBestLat mBestLon mBestAlt mBestHepe mBestAltUnc : FloatValue)
  | PQWP3 (xtra : SystemStatusXtra)
  | PQWP4 (ephemeris : SystemStatusEphemeris)
  | PQWP5 (svHealth : SystemStatusSvHealth)
  | PQWP6 (mFixInfoMask : Nat)
  | PQWP7 (navData : SystemStatusNavData)
  | PQWS1 (positionFailure : SystemStatusPositionFailure)
  | other

/-- The reports that `setNmeaString` stores, in order. -/
def DebugSentence.updates : DebugSentence → List Update
  | .PQWM1 timeAndClock mXoState rfAndParams mRecErrorRecovery =>
    [⟨.timeAndClock, timeAndClock⟩, ⟨.xoState, mXoState⟩, ⟨.rfAndParams, rfAndParams⟩,
      ⟨.errRecovery, mRecErrorRecovery⟩]
  | .PQWP1 injectedPosition => [⟨.injectedPosition, injectedPosition⟩]
  | .PQWP2 mBestLat mBestLon mBestAlt mBestHepe mBestAltUnc =>
    [⟨.bestPosition, (⟨true, mBestLat, mBestLon, mBestAlt, mBestHepe, mBestAltUnc⟩ :
      SystemStatusBestPosition)⟩]
  | .PQWP3 xtra => [⟨.xtra, xtra⟩]
  | .PQWP4 ephemeris => [⟨.ephemeris, ephemeris⟩]
  | .PQWP5 svHealth => [⟨.svHealth, svHealth⟩]
  | .PQWP6 mFixInfoMask => [⟨.pdr, mFixInfoMask⟩]
  | .PQWP7 navData => [⟨.navData, navData⟩]
  | .PQWS1 positionFailure => [⟨.positionFailure, positionFailure⟩]
  | .other => []

/-- A data item of the observer, with its id. The cell items bring along what their
`setPeerData` gives to a copy. -/
inductive DataItem where
  | airplaneMode (mMode : Bool)
  | enh (mEnabled : Bool)
  | gpsState (mEnabled : Bool)
  | nlpStatus (mEnabled : Bool)
  | wifiHardwareState (mEnabled : Bool)
  | networkInfo (item : SystemStatusNetworkInfo)
  | rilServiceInfo (peerData : Option Nat)
  | rilCellInfo (peerData : Option Nat)
  | serviceStatus (mServiceState : Int)
  | model (mModel : String)
  | manufacturer (mManufacturer : String)
  | assistedGps (mEnabled : Bool)
  | screenState (mState : Bool)
  | powerConnectedState (mState : Bool)
  | timezoneChange (item : TimeChangeDataItem)
  | timeChange (item : TimeChangeDataItem)
  | wifiSupplicantStatus (item : SystemStatusWifiSupplicantStatus)
  | shutdownState (mState : Bool)
  | tac (mValue : String)
  | mccmnc (mValue : String)
  | btleScan (details : SrnDeviceScanDetails)
  | btScan (details : SrnDeviceScanDetails)
  | other (id : DataItemId)

/-- The `switch` of `eventDataItemNotify`. The two scan reports are in each other's
place. -/
def DataItem.update : DataItem → Option Update
  | .airplaneMode mMode => some ⟨.airplaneMode, mMode⟩
  | .enh mEnabled => some ⟨.enh, mEnabled⟩
  | .gpsState mEnabled => some ⟨.gpsState, mEnabled⟩
  | .nlpStatus mEnabled => some ⟨.nlpStatus, mEnabled⟩
  | .wifiHardwareState mEnabled => some ⟨.wifiHardwareState, mEnabled⟩
  | .networkInfo item => some ⟨.networkInfo, item⟩
  | .rilServiceInfo peerData => some ⟨.rilServiceInfo, peerData⟩
  | .rilCellInfo peerData => some ⟨.rilCellInfo, peerData⟩
  | .serviceStatus mServiceState => some ⟨.serviceStatus, mServiceState⟩
  | .model mModel => some ⟨.model, mModel⟩
  | .manufacturer mManufacturer => some ⟨.manufacturer, mManufacturer⟩
  | .assistedGps mEnabled => some ⟨.assistedGps, mEnabled⟩
  | .screenState mState => some ⟨.screenState, mState⟩
  | .powerConnectedState mState => some ⟨.powerConnectState, mState⟩
  | .timezoneChange item => some ⟨.timeZoneChange, item⟩
  | .timeChange item => some ⟨.timeChange, item⟩
  | .wifiSupplicantStatus item => some ⟨.wifiSupplicantStatus, item⟩
  | .shutdownState mState => some ⟨.shutdownState, mState⟩
  | .tac mValue => some ⟨.tac, mValue⟩
  | .mccmnc mValue => some ⟨.mccMnc, mValue⟩
  | .btleScan details => some ⟨.btDeviceScanDetail, details⟩
  | .btScan details => some ⟨.btLeDeviceScanDetail, details⟩
  | .other _ => none

namespace SystemStatusReports
variable (cache : SystemStatusReports) (now : Nat)

def setNmeaString (sentence : DebugSentence) : SystemStatusReports :=
  sentence.updates.foldl (fun cache update => (cache.update now update).1) cache

def eventPosition (location : UlpLocation) (locationEx : List UInt8) :
    SystemStatusReports × Bool :=
  cache.update now ⟨.location, (⟨true, location, locationEx⟩ : SystemStatusLocation)⟩

def eventDataItemNotify (dataitem : DataItem) : SystemStatusReports × Bool :=
  match dataitem.update with
  | some update => cache.update now update
  | none => (cache, false)

/-- The item that `eventConnectionStatus` has the observer notify. -/
def connectionItem (connected : Bool) (type : Int) : DataItem :=
  .networkInfo (.new type "" "" connected false)

/-- What `setDefaultGnssEngineStates` stores. The constructor of a location sets nothing
but `mValid`. -/
def defaultItems (uninitialised : SystemStatusLocation) : List Update :=
  [⟨.location, ({ uninitialised with mValid := false } : SystemStatusLocation)⟩,
    ⟨.timeAndClock, (⟨0, 0, 0, 0, 0, 0, 0, 0, 0⟩ : SystemStatusTimeAndClock)⟩,
    ⟨.xoState, (0 : Nat)⟩,
    ⟨.rfAndParams, (⟨0, 0, 0, 0, 0, 0, 0, 0, 0, .finite 0, .finite 0, .finite 0, .finite 0,
      0, 0, 0, 0, 0, 0⟩ : SystemStatusRfAndParams)⟩,
    ⟨.errRecovery, (0 : Nat)⟩,
    ⟨.injectedPosition, (⟨0, .finite 0, .finite 0, .finite 0, .finite 0, .finite 0, 0⟩ :
      SystemStatusInjectedPosition)⟩,
    ⟨.bestPosition, (⟨false, .finite 0, .finite 0, .finite 0, .finite 0, .finite 0⟩ :
      SystemStatusBestPosition)⟩,
    ⟨.xtra, (⟨0, 0, 0, 0, 0, 0, 0, 0, 0, 0, 0⟩ : SystemStatusXtra)⟩,
    ⟨.ephemeris, (⟨0, 0, 0, 0, 0⟩ : SystemStatusEphemeris)⟩,
    ⟨.svHealth, (⟨0, 0, 0, 0, 0, 0, 0, 0, 0, 0, 0, 0, 0, 0, 0⟩ : SystemStatusSvHealth)⟩,
    ⟨.pdr, (0 : Nat)⟩,
    ⟨.navData, (⟨fun _ => ⟨GNSS_EPH_TYPE_UNKNOWN, GNSS_EPH_SOURCE_UNKNOWN, 0⟩⟩ :
      SystemStatusNavData)⟩,
    ⟨.positionFailure, (⟨0, 0⟩ : SystemStatusPositionFailure)⟩]

def setDefaultIteminReport (s : Update) : SystemStatusReports :=
  cache.set s.kind ((cache.report s.kind).push ⟨now, now, s.item⟩)

def setDefaultGnssEngineStates (uninitialised : SystemStatusLocation) : SystemStatusReports :=
  (defaultItems uninitialised).foldl (fun cache s => cache.setDefaultIteminReport now s) cache

end SystemStatusReports

end Msm8917Common.Status
