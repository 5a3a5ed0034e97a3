import Mathlib.Data.Nat.BitIndices
import Msm8917Common.UsedInFix

/-! The beginning of `loc_nmea_generate_pos`: which masks of used satellites go into the
cache, the GSA sentence of each constellation, and the count that goes on into GGA. -/
namespace Msm8917Common.LocNmea
open Gnss.UsedInFix

abbrev Text := List Char

def GLONASS_SV_ID_OFFSET : Nat := 64

def SYSTEM_ID_GPS : Nat := 1
def SYSTEM_ID_GLONASS : Nat := 2
def SYSTEM_ID_GALILEO : Nat := 3
def SYSTEM_ID_BEIDOU : Nat := 4
def SYSTEM_ID_QZSS : Nat := 5

/-- The counts of the cache, its own three DOP values, `svCount` and `signalId` are for
the sentences of another report. -/
structure loc_sv_cache_info where
  gps_used_mask : BitVec 32
  glo_used_mask : BitVec 32
  gal_used_mask : BitVec 32
  qzss_used_mask : BitVec 32
  bds_used_mask : BitVec 32

structure loc_nmea_sv_meta where
  talker : Text
  svType : GnssSvType
  mask : BitVec 32
  svIdOffset : Nat
  systemId : Nat

/-- What the GSA sentences are made of. The three values come as `%.1f` prints them, which
leaves room in the buffer for any `float`. -/
structure GpsLocationExtended where
  HAS_GNSS_SV_USED_DATA : Bool
  HAS_DOP : Bool
  gnss_sv_used_ids : GnssSvUsedInPosition
  pdop : Text
  hdop : Text
  vdop : Text

/-- How many of the masks are not zero. -/
def loc_sv_cache_info.combined (sv_cache_info : loc_sv_cache_info) : Nat :=
  (if sv_cache_info.gps_used_mask ≠ 0#32 then 1 else 0) +
    (if sv_cache_info.glo_used_mask ≠ 0#32 then 1 else 0) +
    (if sv_cache_info.gal_used_mask ≠ 0#32 then 1 else 0) +
    (if sv_cache_info.qzss_used_mask ≠ 0#32 then 1 else 0) +
    (if sv_cache_info.bds_used_mask ≠ 0#32 then 1 else 0)

def loc_nmea_sv_meta_init (sv_cache_info : loc_sv_cache_info) (svType : GnssSvType)
    (needCombine : Bool) : Option loc_nmea_sv_meta :=
  let sv_meta : Option loc_nmea_sv_meta :=
    match svType with
    | .gps => some ⟨['G', 'P'], svType, sv_cache_info.gps_used_mask, 0, SYSTEM_ID_GPS⟩
    | .glonass =>
      some ⟨['G', 'L'], svType, sv_cache_info.glo_used_mask, GLONASS_SV_ID_OFFSET,
        SYSTEM_ID_GLONASS⟩
    | .galileo => some ⟨['G', 'A'], svType, sv_cache_info.gal_used_mask, 0, SYSTEM_ID_GALILEO⟩
    | .qzss => some ⟨['P', 'Q'], svType, sv_cache_info.qzss_used_mask, 0, SYSTEM_ID_QZSS⟩
    | .beidou => some ⟨['P', 'Q'], svType, sv_cache_info.bds_used_mask, 0, SYSTEM_ID_BEIDOU⟩
    | .unknown | .sbas => none
  sv_meta.map fun sv_meta =>
    if needCombine ∧ sv_cache_info.combined > 1 then { sv_meta with talker := ['G', 'N'] }
    else sv_meta

/-- The loop that fills `svUsedList`, from the lowest bit up. Its counter starts at one and
does not get past 33. -/
def svUsedLoop (svIdOffset i mask : Nat) (svUsedList : List Nat) : List Nat :=
  if mask > 0 ∧ svUsedList.length < 32 then
    svUsedLoop svIdOffset (i + 1) (mask / 2)
      (if mask % 2 = 1 then svUsedList ++ [i + svIdOffset] else svUsedList)
  else svUsedList
termination_by mask
decreasing_by omega

/-- A GSA sentence before it is printed: `svIds` are the first twelve of the list. -/
structure Gsa where
  talker : Text
  fixType : Char
  svIds : List Nat
  dop : Option (Text × Text × Text)
  systemId : Nat

/-- `%02d`, and `%02X` of what is not more than a byte. -/
def twoDigits (base number : Nat) : Text :=
  (Nat.toDigits base number).leftpad 2 '0' |>.map Char.toUpper

/-- `loc_nmea_put_checksum` of what follows the `$`. -/
def loc_nmea_put_checksum (body : Text) : Text :=
  let checksum := body.foldl (fun checksum char => checksum ^^^ char.toNat % 256) 0
  body ++ '*' :: twoDigits 16 checksum ++ ['\r', '\n']

/-- The checksum stays a byte. -/
theorem checksum_lt (chars : Text) {checksum : Nat} (small : checksum < 2 ^ 8) :
    chars.foldl (fun checksum char => checksum ^^^ char.toNat % 256) checksum < 2 ^ 8 := by
  induction chars generalizing checksum with
  | nil => exact small
  | cons char chars ih => exact ih (Nat.xor_lt_two_pow small (Nat.mod_lt _ (by omega)))

def Gsa.text (gsa : Gsa) : Text :=
  let svIds := (List.range 12).flatMap fun i : Nat =>
    match gsa.svIds[i]? with
    | some svId => twoDigits 10 svId ++ [',']
    | none => [',']
  let dop :=
    match gsa.dop with
    | some (pdop, hdop, vdop) => pdop ++ [','] ++ hdop ++ [','] ++ vdop ++ [',']
    | none => [',', ',', ',']
  '$' :: loc_nmea_put_checksum (gsa.talker ++ "GSA,A,".toList ++ [gsa.fixType, ','] ++ svIds ++
    dop ++ Nat.toDigits 10 gsa.systemId)

/-- The number of satellites used, and the sentence that is pushed, if any. -/
def loc_nmea_generate_GSA (locationExtended : GpsLocationExtended)
    (sv_meta_p : Option loc_nmea_sv_meta) : Nat × Option Gsa :=
  match sv_meta_p with
  | none => (0, none)
  | some sv_meta =>
    let svUsedList := svUsedLoop sv_meta.svIdOffset 1 sv_meta.mask.toNat []
    let svUsedCount := svUsedList.length
    if svUsedCount = 0 ∧ sv_meta.svType ≠ .gps then (0, none)
    else
      let fixType := if svUsedCount = 0 then '1' else if svUsedCount ≤ 3 then '2' else '3'
      let dop :=
        if locationExtended.HAS_DOP then
          some (locationExtended.pdop, locationExtended.hdop, locationExtended.vdop)
        else none
      (svUsedCount, some ⟨sv_meta.talker, fixType, svUsedList.take 12, dop, sv_meta.systemId⟩)

/-- The masks in the cache. -/
def cachedMasks (locationExtended : GpsLocationExtended) : loc_sv_cache_info :=
  let gnss_sv_used_ids := locationExtended.gnss_sv_used_ids
  if locationExtended.HAS_GNSS_SV_USED_DATA then
    { gps_used_mask := gnss_sv_used_ids.gps_sv_used_ids_mask.setWidth 32
      glo_used_mask := gnss_sv_used_ids.glo_sv_used_ids_mask.setWidth 32
      gal_used_mask := gnss_sv_used_ids.gal_sv_used_ids_mask.setWidth 32
      -- Each of the two is given the other's mask.
      qzss_used_mask := gnss_sv_used_ids.bds_sv_used_ids_mask.setWidth 32
      bds_used_mask := gnss_sv_used_ids.qzss_sv_used_ids_mask.setWidth 32 }
  else ⟨0, 0, 0, 0, 0⟩

/-- What `loc_nmea_generate_pos` has when it goes on to VTG, RMC and GGA: the GSA
sentences so far, also as they are printed, the talker for the rest, and the count that
GGA prints, cut to twelve. -/
structure PosReport where
  gsas : List Gsa
  nmeaArraystr : List Text
  talker : Text
  svUsedCount : Nat

/-- The call for one constellation. Only the first three hand their talker on. -/
def PosReport.addGSA (locationExtended : GpsLocationExtended) (report : PosReport)
    (svType : GnssSvType) (needCombine : Bool) : PosReport :=
  let sv_meta := loc_nmea_sv_meta_init (cachedMasks locationExtended) svType needCombine
  let (count, gsa) := loc_nmea_generate_GSA locationExtended sv_meta
  let talker := (sv_meta.map (·.talker)).getD report.talker
  { gsas := report.gsas ++ gsa.toList
    nmeaArraystr := report.nmeaArraystr ++ (gsa.map Gsa.text).toList
    talker := if count > 0 ∧ needCombine then talker else report.talker
    svUsedCount := report.svUsedCount + count }

/-- `loc_nmea_generate_pos` with `generate_nmea` set. -/
def loc_nmea_generate_pos (locationExtended : GpsLocationExtended) : PosReport :=
  let report : PosReport := ⟨[], [], ['G', 'P'], 0⟩
  let report := report.addGSA locationExtended .gps true
  let report := report.addGSA locationExtended .glonass true
  let report := report.addGSA locationExtended .galileo true
  let report := report.addGSA locationExtended .qzss false
  report.addGSA locationExtended .beidou false

end Msm8917Common.LocNmea
