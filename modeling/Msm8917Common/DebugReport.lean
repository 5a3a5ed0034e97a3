import Msm8917Common.DebugNmeaProofs
import Msm8917Common.NewestReportProofs
import Msm8917Common.UsedInFix

/-! The satellites of the debug report: `SystemStatus::getReport`, and
`convertSatelliteInfo` and the end of `getDebugReport` in `GnssAdapter.cpp`. After a
`$PQWP5` sentence of the engine, the report has the health that the sentence says of each
satellite, unless a mask of more than eight bits is too large for a `long`. -/
namespace Msm8917Common.Status
open CText Gnss.UsedInFix NewestReportProofs

def GPS_NUM : Nat := 32

def GLO_NUM : Nat := 24

def QZSS_NUM : Nat := 5

def BDS_NUM : Nat := 37

def GAL_NUM : Nat := 36

def GNSS_BUGREPORT_QZSS_MIN : Nat := 193

inductive GnssEphemerisHealth where
  | unknown
  | good
  | bad
  deriving DecidableEq

structure GnssDebugSatelliteInfo where
  svid : Nat
  constellation : GnssSvType
  mEphemerisType : Nat
  mEphemerisSource : Nat
  mEphemerisHealth : GnssEphemerisHealth
  ephemerisAgeSeconds : FloatValue
  serverPredictionIsAvailable : Bool
  serverPredictionAgeSeconds : FloatValue

/-- A copy of the newest report of each kind, or of all of them. -/
def SystemStatusReports.getReport (cache : SystemStatusReports) (isLatestOnly : Bool) :
    SystemStatusReports :=
  ⟨fun kind =>
    (if isLatestOnly then (cache.report kind).getLast?.toList else cache.report kind).map
      fun item => { item with data := kind.copied item.data }⟩

/-- What the `switch` sets for a constellation. The age is not yet a `float`. -/
structure SatelliteSource where
  svid_min : Nat
  svid_num : Nat
  svid_idx : Nat
  eph_health_good_mask : Nat
  eph_health_bad_mask : Nat
  server_perdiction_available_mask : Nat
  server_perdiction_age : Nat

def satelliteSource (reports : SystemStatusReports) : GnssSvType → Option SatelliteSource :=
  let health : Option SystemStatusSvHealth := Report.newest (reports.report .svHealth)
  let xtra : Option SystemStatusXtra := Report.newest (reports.report .xtra)
  fun
  | .gps => some
    { svid_min := 1
      svid_num := GPS_NUM
      svid_idx := 0
      eph_health_good_mask := health.elim 0 (·.mGpsGoodMask)
      eph_health_bad_mask := health.elim 0 (·.mGpsBadMask)
      server_perdiction_available_mask := xtra.elim 0 (·.mGpsXtraValid)
      server_perdiction_age := xtra.elim 0 (·.mGpsXtraAge) }
  | .glonass => some
    { svid_min := 1
      svid_num := GLO_NUM
      svid_idx := GPS_NUM
      eph_health_good_mask := health.elim 0 (·.mGloGoodMask)
      eph_health_bad_mask := health.elim 0 (·.mGloBadMask)
      server_perdiction_available_mask := xtra.elim 0 (·.mGloXtraValid)
      server_perdiction_age := xtra.elim 0 (·.mGloXtraAge) }
  | .qzss => some
    { svid_min := GNSS_BUGREPORT_QZSS_MIN
      svid_num := QZSS_NUM
      svid_idx := GPS_NUM + GLO_NUM + BDS_NUM + GAL_NUM
      eph_health_good_mask := health.elim 0 (·.mQzssGoodMask)
      eph_health_bad_mask := health.elim 0 (·.mQzssBadMask)
      server_perdiction_available_mask := xtra.elim 0 (·.mQzssXtraValid)
      server_perdiction_age := xtra.elim 0 (·.mQzssXtraAge) }
  | .beidou => some
    { svid_min := 1
      svid_num := BDS_NUM
      svid_idx := GPS_NUM + GLO_NUM
      eph_health_good_mask := health.elim 0 (·.mBdsGoodMask)
      eph_health_bad_mask := health.elim 0 (·.mBdsBadMask)
      server_perdiction_available_mask := xtra.elim 0 (·.mBdsXtraValid)
      server_perdiction_age := xtra.elim 0 (·.mBdsXtraAge) }
  | .galileo => some
    { svid_min := 1
      svid_num := GAL_NUM
      svid_idx := GPS_NUM + GLO_NUM + BDS_NUM
      eph_health_good_mask := health.elim 0 (·.mGalGoodMask)
      eph_health_bad_mask := health.elim 0 (·.mGalBadMask)
      server_perdiction_available_mask := xtra.elim 0 (·.mGalXtraValid)
      server_perdiction_age := xtra.elim 0 (·.mGalXtraAge) }
  | .unknown | .sbas => none

/-- `s.mEphemerisHealth` of the satellite with this bit. -/
def ephemerisHealth (eph_health_good_mask eph_health_bad_mask i : Nat) : GnssEphemerisHealth :=
  if eph_health_good_mask.testBit i then .good
  else if eph_health_bad_mask.testBit i then .bad
  else .unknown

/-- An entry of the newest `mNav`. -/
def navAt (reports : SystemStatusReports) (index : Nat) : SystemStatusNav :=
  let navData : Option SystemStatusNavData := Report.newest (reports.report .navData)
  match navData with
  | some navData =>
    if inside : index < SV_ALL_NUM then navData.mNav ⟨index, inside⟩
    else ⟨GNSS_EPH_TYPE_UNKNOWN, GNSS_EPH_SOURCE_UNKNOWN, 0⟩
  | none => ⟨GNSS_EPH_TYPE_UNKNOWN, GNSS_EPH_SOURCE_UNKNOWN, 0⟩

section Report
variable (floats : FloatLibrary) (reports : SystemStatusReports)

/-- The body of the loop. -/
def satelliteInfo (in_constellation : GnssSvType) (source : SatelliteSource) (i : Nat) :
    GnssDebugSatelliteInfo :=
  let nav := navAt reports (source.svid_idx + i)
  { svid := i + source.svid_min
    constellation := in_constellation
    mEphemerisType := nav.mType
    mEphemerisSource := nav.mSource
    mEphemerisHealth := ephemerisHealth source.eph_health_good_mask source.eph_health_bad_mask i
    ephemerisAgeSeconds := floats.toFloat (.finite nav.mAgeSec)
    serverPredictionIsAvailable := source.server_perdiction_available_mask.testBit i
    serverPredictionAgeSeconds := floats.toFloat (.finite source.server_perdiction_age) }

/-- The satellites that are put behind `out`. -/
def convertSatelliteInfo (in_constellation : GnssSvType) : List GnssDebugSatelliteInfo :=
  match satelliteSource reports in_constellation with
  | some source =>
    ((List.range source.svid_num).takeWhile fun i => source.svid_idx + i < SV_ALL_NUM).map
      (satelliteInfo floats reports in_constellation source)
  | none => []

/-- In the order in which `getDebugReport` asks for them. -/
def constellationOrder : List GnssSvType := [.gps, .glonass, .qzss, .beidou, .galileo]

/-- `r.mSatelliteInfo` at the end of `getDebugReport`, for this cache. -/
def getDebugReport (cache : SystemStatusReports) : List GnssDebugSatelliteInfo :=
  constellationOrder.flatMap (convertSatelliteInfo floats (cache.getReport true))

end Report

section Health

/-- The satellites of a constellation in the report, and the bits and the fields of its
masks in a `$PQWP5` sentence. -/
structure HealthMasks where
  svid_min : Nat
  svid_num : Nat
  width : Nat
  good : Nat
  bad : Nat

def healthMasks : GnssSvType → HealthMasks
  | .gps => ⟨1, GPS_NUM, 32, 7, 12⟩
  | .glonass => ⟨1, GLO_NUM, 32, 8, 13⟩
  | .beidou => ⟨1, BDS_NUM, 64, 9, 14⟩
  | .galileo => ⟨1, GAL_NUM, 64, 10, 15⟩
  | .qzss => ⟨GNSS_BUGREPORT_QZSS_MIN, QZSS_NUM, 8, 11, 16⟩
  | .unknown | .sbas => ⟨0, 0, 0, 0, 0⟩

/-- The masks of a constellation in the report. -/
def SystemStatusSvHealth.masks (health : SystemStatusSvHealth) : GnssSvType → Nat × Nat
  | .gps => (health.mGpsGoodMask, health.mGpsBadMask)
  | .glonass => (health.mGloGoodMask, health.mGloBadMask)
  | .beidou => (health.mBdsGoodMask, health.mBdsBadMask)
  | .galileo => (health.mGalGoodMask, health.mGalBadMask)
  | .qzss => (health.mQzssGoodMask, health.mQzssBadMask)
  | .unknown | .sbas => (0, 0)

/-- What a report says of the health of a satellite. -/
def GnssDebugSatelliteInfo.health (s : GnssDebugSatelliteInfo) :
    GnssSvType × Nat × GnssEphemerisHealth := (s.constellation, s.svid, s.mEphemerisHealth)

/-- What it has to say, by the masks of each constellation. -/
def healthOf (masks : GnssSvType → Nat × Nat) : List (GnssSvType × Nat × GnssEphemerisHealth) :=
  constellationOrder.flatMap fun constellation =>
    (List.range (healthMasks constellation).svid_num).map fun i =>
      (constellation, i + (healthMasks constellation).svid_min,
        ephemerisHealth (masks constellation).1 (masks constellation).2 i)

variable {cache : SystemStatusReports} {health : SystemStatusSvHealth}

/-- A health report becomes the newest, or is equal to it. -/
theorem newest_svHealth (cache : SystemStatusReports) (now : Nat) (health : SystemStatusSvHealth) :
    Report.newest ((cache.setNmeaString now (.PQWP5 health)).report .svHealth) = some health := by
  have stored := Report.newest_setIteminReport (cache.report .svHealth) ⟨now, now, health⟩
  simp only [SystemStatusReports.setNmeaString, DebugSentence.updates, List.foldl_cons,
    List.foldl_nil, SystemStatusReports.update, SystemStatusReports.set, Function.update_self]
  rw [stored]
  split
  · next cur newest =>
    split
    · next equal => exact congrArg some (svHealth_eq equal)
    · rfl
  · rfl

theorem newest_getReport (newest : Report.newest (cache.report .svHealth) = some health) :
    Report.newest ((cache.getReport true).report .svHealth) = some health := by
  obtain ⟨back, last, rfl⟩ := Option.map_eq_some_iff.mp newest
  simp only [SystemStatusReports.getReport, if_true, last]
  rfl

/-- Each constellation has its masks from the health report, and all its satellites have
a place among the others. -/
theorem satelliteSource_of_health {reports : SystemStatusReports}
    (newest : Report.newest (reports.report .svHealth) = some health) {constellation : GnssSvType}
    (member : constellation ∈ constellationOrder) :
    ∃ source, satelliteSource reports constellation = some source ∧
      source.svid_min = (healthMasks constellation).svid_min ∧
      source.svid_num = (healthMasks constellation).svid_num ∧
      source.svid_idx + source.svid_num ≤ SV_ALL_NUM ∧
      (source.eph_health_good_mask, source.eph_health_bad_mask) = health.masks constellation := by
  simp only [constellationOrder, List.mem_cons, List.not_mem_nil, or_false] at member
  rcases member with rfl | rfl | rfl | rfl | rfl <;>
    refine ⟨_, rfl, rfl, rfl, Nat.le_of_ble_eq_true rfl, ?_⟩ <;>
    simp only [newest, Option.elim_some, SystemStatusSvHealth.masks]

theorem health_of_constellation (floats : FloatLibrary) {reports : SystemStatusReports}
    (newest : Report.newest (reports.report .svHealth) = some health)
    {constellation : GnssSvType} (member : constellation ∈ constellationOrder) :
    (convertSatelliteInfo floats reports constellation).map GnssDebugSatelliteInfo.health =
      (List.range (healthMasks constellation).svid_num).map fun i =>
        (constellation, i + (healthMasks constellation).svid_min,
          ephemerisHealth (health.masks constellation).1 (health.masks constellation).2 i) := by
  obtain ⟨source, given, svid_min, svid_num, room, masks⟩ := satelliteSource_of_health newest member
  have within : ((List.range source.svid_num).takeWhile fun i =>
      source.svid_idx + i < SV_ALL_NUM) = List.range source.svid_num := by
    refine List.takeWhile_eq_self_iff.mpr fun i inside => decide_eq_true ?_
    exact Nat.lt_of_lt_of_le (Nat.add_lt_add_left (List.mem_range.mp inside) _) room
  simp only [convertSatelliteInfo, given, within, List.map_map, ← svid_min, ← svid_num, ← masks]
  rfl

theorem getDebugReport_health (floats : FloatLibrary)
    (newest : Report.newest (cache.report .svHealth) = some health) :
    (getDebugReport floats cache).map GnssDebugSatelliteInfo.health = healthOf health.masks := by
  rw [getDebugReport, List.map_flatMap, healthOf]
  refine List.flatMap_congr fun constellation member => ?_
  exact health_of_constellation floats (newest_getReport newest) member

/-- In a sentence that is long enough, each constellation's masks are read from its fields. -/
theorem masks_of_sentence {data : Text} {len : Int}
    (accepted : loc_nmea_is_debug data len = true) (assigned : DebugKind.PQWP5.AssignsAll data)
    (mP5 : SystemStatusSvHealth) {constellation : GnssSvType}
    (member : constellation ∈ constellationOrder) :
    (SystemStatusPQWP5parser (debugBuf data) len mP5).masks constellation =
      (hexadecimal (healthMasks constellation).width
          (fieldAt (SystemStatusNmeaBase (debugBuf data) len) (healthMasks constellation).good),
        hexadecimal (healthMasks constellation).width
          (fieldAt (SystemStatusNmeaBase (debugBuf data) len) (healthMasks constellation).bad)) := by
  have parsed : SystemStatusPQWP5parser (debugBuf data) len mP5 = _ :=
    (parseFields_eq _ mP5 accepted (by decide : DebugKind.PQWP5 ≠ .PQWM1)).1 assigned
  rw [parsed]
  simp only [constellationOrder, List.mem_cons, List.not_mem_nil, or_false] at member
  rcases member with rfl | rfl | rfl | rfl | rfl <;> rfl

/-- A mask is printed in a field, and survives the way into its member. -/
def ReadAs (width : Nat) (field : Text) (mask : BitVec width) : Prop :=
  PrintsHex mask.toNat field ∧ (width = 8 ∨ (mask.toNat : Int) ≤ LONG_MAX)

/-- The health that a `$PQWP5` sentence says of each satellite is in the report. -/
theorem health_of_a_sentence_is_reported (floats : FloatLibrary) (stack : Stack)
    (cache : SystemStatusReports) (now : Nat) {data : Text} {len : Int}
    (accepted : loc_nmea_is_debug data len = true) (found : DebugKind.of data = some .PQWP5)
    (assigned : DebugKind.PQWP5.AssignsAll data)
    (good bad : ∀ constellation, BitVec (healthMasks constellation).width)
    (printed : ∀ constellation ∈ constellationOrder,
      ReadAs _ (fieldAt (SystemStatusNmeaBase (debugBuf data) len)
        (healthMasks constellation).good) (good constellation) ∧
      ReadAs _ (fieldAt (SystemStatusNmeaBase (debugBuf data) len)
        (healthMasks constellation).bad) (bad constellation)) :
    (getDebugReport floats (setNmeaString floats stack data len cache now).2).map
        GnssDebugSatelliteInfo.health =
      healthOf fun constellation =>
        ((good constellation).toNat, (bad constellation).toNat) := by
  have stored : (setNmeaString floats stack data len cache now).2 = cache.setNmeaString now
      (.PQWP5 (SystemStatusPQWP5parser (debugBuf data) len stack.mP5)) := by
    rw [setNmeaString, if_pos accepted, debugSentence, found]
  rw [stored, getDebugReport_health floats (newest_svHealth cache now _)]
  refine List.flatMap_congr fun constellation member => ?_
  have known : (healthMasks constellation).width = 8 ∨ (healthMasks constellation).width = 32 ∨
      (healthMasks constellation).width = 64 := by
    revert constellation
    decide
  have read {field : Text} {mask : BitVec (healthMasks constellation).width}
      (isRead : ReadAs _ field mask) : hexadecimal _ field = mask.toNat :=
    (hexadecimal_of_printsHex known mask isRead.1).mpr isRead.2
  obtain ⟨isGood, isBad⟩ := printed constellation member
  rw [masks_of_sentence accepted assigned stack.mP5 member, read isGood, read isBad]

end Health

end Msm8917Common.Status
