import Msm8917Common.NmeaGsa

/-! `loc_nmea_generate_sv`: the satellites of a notification are counted by constellation,
and for each constellation GSV sentences of four satellites go out. One index runs through
the notification over all sentences of a constellation. -/
namespace Msm8917Common.LocNmea
open Gnss.UsedInFix

def NMEA_SENTENCE_MAX_LENGTH : Nat := 200
def GNSS_SV_MAX : Nat := 64

/-- `float`: whether it is greater than zero, and `(int)(0.5 + x)`. -/
structure FloatLibrary (Float : Type) where
  positive : Float → Bool
  rounded : Float → BitVec 32

namespace Gsv

/-- A `GnssSv` with what GSV prints of it. -/
structure GnssSv (Float : Type) where
  svId : BitVec 16
  type : GnssSvType
  cN0Dbhz : Float
  elevation : Float
  azimuth : Float
  gnssSvOptionsMask : BitVec 16

/-- The satellites before its count, which is no greater than its array. -/
structure GnssSvNotification (Float : Type) where
  gnssSvs : List (GnssSv Float)
  count_le : gnssSvs.length ≤ GNSS_SV_MAX

/-- The masks and the counts. -/
structure loc_sv_cache_info extends LocNmea.loc_sv_cache_info where
  gps_count : Nat
  glo_count : Nat
  gal_count : Nat
  qzss_count : Nat
  bds_count : Nat

structure loc_nmea_sv_meta extends LocNmea.loc_nmea_sv_meta where
  svCount : Nat
  signalId : Nat

def loc_nmea_sv_meta_init (sv_cache_info : loc_sv_cache_info) (svType : GnssSvType)
    (needCombine : Bool) : Option loc_nmea_sv_meta :=
  (LocNmea.loc_nmea_sv_meta_init sv_cache_info.toloc_sv_cache_info svType needCombine).map
    fun sv_meta =>
      match svType with
      | .gps => ⟨sv_meta, sv_cache_info.gps_count, 1⟩
      | .glonass => ⟨sv_meta, sv_cache_info.glo_count, 1⟩
      | .galileo => ⟨sv_meta, sv_cache_info.gal_count, 7⟩
      | .qzss => ⟨sv_meta, sv_cache_info.qzss_count, 0⟩
      | .beidou => ⟨sv_meta, sv_cache_info.bds_count, 0⟩
      | .unknown | .sbas => ⟨sv_meta, 0, 0⟩

/-- `%0wd` of an `int`, and `%d` with no width. The sign counts for the width. -/
def decimal (width : Nat) (value : Int) : Text :=
  if value < 0 then '-' :: (Nat.toDigits 10 value.natAbs).leftpad (width - 1) '0'
  else (Nat.toDigits 10 value.natAbs).leftpad width '0'

/-- What `snprintf` adds to the sentence, unless that does not fit and the function returns. -/
def print (bufSize : Nat) (sentence piece : Text) : Option Text :=
  if sentence.length + piece.length < bufSize then some (sentence ++ piece) else none

/-- What is left of a text that was printed without a look at its length. -/
def cut (bufSize : Nat) (sentence : Text) : Text := sentence.take (bufSize - 1)

/-- The sentence with the signal id and the checksum. -/
def finish (bufSize : Nat) (sentence : Text) (signalId : Nat) : Text :=
  let sentence := cut bufSize (sentence ++ ',' :: decimal 0 signalId)
  cut bufSize ('$' :: loc_nmea_put_checksum sentence.tail)

section Sentences
variable {Float : Type} (library : FloatLibrary Float)

/-- What is printed of a satellite in any case. -/
def angles (svIdOffset : Nat) (sv : GnssSv Float) : Text :=
  ',' :: decimal 2 (sv.svId.toNat + svIdOffset : Nat) ++
    ',' :: decimal 2 (library.rounded sv.elevation).toInt ++
    ',' :: decimal 3 (library.rounded sv.azimuth).toInt ++ [',']

/-- What is printed of its strength, if it has one. -/
def strength (sv : GnssSv Float) : Text :=
  if library.positive sv.cN0Dbhz then decimal 2 (library.rounded sv.cN0Dbhz).toInt else []

/-- The loop over the satellites from `svNumber` on, with `i` of them in the sentence. It
leaves the sentence and those from the next `svNumber` on. -/
def svLoop (sv_meta_p : loc_nmea_sv_meta) (bufSize : Nat) :
    List (GnssSv Float) → Nat → Text → Option (Text × List (GnssSv Float))
  | [], _, sentence => some (sentence, [])
  | sv :: gnssSvs, i, sentence =>
    if i < 4 then
      if sv_meta_p.svType = sv.type then do
        let sentence ← print bufSize sentence (angles library sv_meta_p.svIdOffset sv)
        let sentence ←
          if library.positive sv.cN0Dbhz then print bufSize sentence (strength library sv)
          else some sentence
        svLoop sv_meta_p bufSize gnssSvs (i + 1) sentence
      else svLoop sv_meta_p bufSize gnssSvs i sentence
    else some (sentence, sv :: gnssSvs)

/-- The loop over the sentences, with this many of them to go. -/
def sentenceLoop (sv_meta_p : loc_nmea_sv_meta) (bufSize sentenceCount : Nat) :
    Nat → List (GnssSv Float) → List Text → List Text
  | 0, _, nmeaArraystr => nmeaArraystr
  | toGo + 1, gnssSvs, nmeaArraystr =>
    let sentenceNumber := sentenceCount - toGo
    let printed := do
      let sentence ← print bufSize [] ('$' :: sv_meta_p.talker ++ "GSV,".toList ++
        decimal 0 sentenceCount ++ ',' :: decimal 0 sentenceNumber ++
        ',' :: decimal 2 sv_meta_p.svCount)
      svLoop library sv_meta_p bufSize gnssSvs 0 sentence
    match printed with
    | none => nmeaArraystr
    | some (sentence, gnssSvs) =>
      sentenceLoop sv_meta_p bufSize sentenceCount toGo gnssSvs
        (nmeaArraystr ++ [finish bufSize sentence sv_meta_p.signalId])

def loc_nmea_generate_GSV (svNotify : GnssSvNotification Float) (bufSize : Nat)
    (sv_meta_p : loc_nmea_sv_meta) (nmeaArraystr : List Text) : List Text :=
  if bufSize = 0 then nmeaArraystr
  else
    let svCount := sv_meta_p.svCount
    if svCount = 0 then
      -- No satellites in view: a blank sentence.
      nmeaArraystr ++
        [finish bufSize ('$' :: sv_meta_p.talker ++ "GSV,1,1,0".toList) sv_meta_p.signalId]
    else
      let sentenceCount := svCount / 4 + if svCount % 4 ≠ 0 then 1 else 0
      sentenceLoop library sv_meta_p bufSize sentenceCount sentenceCount svNotify.gnssSvs
        nmeaArraystr

/-- The bit of a satellite that was used in the last fix. -/
def usedBit (undefinedShift : Int → BitVec 32) (sv : GnssSv Float) : BitVec 32 :=
  if sv.gnssSvOptionsMask &&& GNSS_SV_OPTIONS_USED_IN_FIX_BIT = GNSS_SV_OPTIONS_USED_IN_FIX_BIT
  then shiftedOne undefinedShift (sv.svId.toNat - 1)
  else 0

/-- One turn of the loop that counts. Satellites of other types are thrown away. -/
def countSv (undefinedShift : Int → BitVec 32) (sv_cache_info : loc_sv_cache_info)
    (sv : GnssSv Float) : loc_sv_cache_info :=
  let bit := usedBit undefinedShift sv
  match sv.type with
  | .gps =>
    { sv_cache_info with
      gps_used_mask := sv_cache_info.gps_used_mask ||| bit
      gps_count := sv_cache_info.gps_count + 1 }
  | .glonass =>
    { sv_cache_info with
      glo_used_mask := sv_cache_info.glo_used_mask ||| bit
      glo_count := sv_cache_info.glo_count + 1 }
  | .galileo =>
    { sv_cache_info with
      gal_used_mask := sv_cache_info.gal_used_mask ||| bit
      gal_count := sv_cache_info.gal_count + 1 }
  | .qzss =>
    { sv_cache_info with
      qzss_used_mask := sv_cache_info.qzss_used_mask ||| bit
      qzss_count := sv_cache_info.qzss_count + 1 }
  | .beidou =>
    { sv_cache_info with
      bds_used_mask := sv_cache_info.bds_used_mask ||| bit
      bds_count := sv_cache_info.bds_count + 1 }
  | .unknown | .sbas => sv_cache_info

def counted (undefinedShift : Int → BitVec 32) (svNotify : GnssSvNotification Float) :
    loc_sv_cache_info :=
  svNotify.gnssSvs.foldl (countSv undefinedShift) ⟨⟨0, 0, 0, 0, 0⟩, 0, 0, 0, 0, 0⟩

/-- The call for one constellation. None of the five has a null pointer for its `sv_meta`. -/
def addGSV (undefinedShift : Int → BitVec 32) (svNotify : GnssSvNotification Float)
    (nmeaArraystr : List Text) (svType : GnssSvType) : List Text :=
  match loc_nmea_sv_meta_init (counted undefinedShift svNotify) svType false with
  | none => nmeaArraystr
  | some sv_meta =>
    loc_nmea_generate_GSV library svNotify NMEA_SENTENCE_MAX_LENGTH sv_meta nmeaArraystr

def loc_nmea_generate_sv (undefinedShift : Int → BitVec 32) (svNotify : GnssSvNotification Float)
    (nmeaArraystr : List Text) : List Text :=
  let add := addGSV library undefinedShift svNotify
  add (add (add (add (add nmeaArraystr .gps) .glonass) .galileo) .qzss) .beidou

end Sentences
end Gsv
end Msm8917Common.LocNmea
