import Msm8917Common.CText
import Msm8917Common.SystemStatus

/-! The parsers of the debug sentences in `SystemStatus.cpp`: the fields of a sentence,
what each kind of sentence makes of them, and the dispatcher that stores it. A parser's
result lies on the stack, with what happens to be there until something is assigned. -/
namespace Msm8917Common.Status
open CText

def DEBUG_NMEA_MINSIZE : Int := 6

def DEBUG_NMEA_MAXSIZE : Int := 4096

/-- Of a sentence that is not null. -/
def loc_nmea_is_debug (nmea : Text) (length : Int) : Bool :=
  DEBUG_NMEA_MINSIZE ≤ length && length ≤ DEBUG_NMEA_MAXSIZE &&
    "$PQW".toList.isPrefixOf nmea

/-- `mField` after the constructor of `SystemStatusNmeaBase`. -/
def SystemStatusNmeaBase (str_in : Text) (len_in : Int) : List Text :=
  if loc_nmea_is_debug str_in len_in then
    let parser := cString str_in
    match parser.dropWhile (· ≠ '*') with
    | [] => []
    | _ :: checksum => tokens (parser.takeWhile (· ≠ '*') ++ ',' :: checksum)
  else []

/-- What a number becomes in an unsigned field of so many bits. -/
def unsigned (width : Nat) (value : Int) : Nat := (BitVec.ofInt width value).toNat

/-- `atof`, and what becomes of a number in a `float`. -/
structure FloatLibrary where
  atof : Text → FloatValue
  toFloat : FloatValue → FloatValue

/-- `mField[index]`, which every parser reads only where it is. -/
def fieldAt (mField : List Text) (index : Nat) : Text := mField.getD index []

/-- The ways in which a field becomes a number. -/
def decimal (width : Nat) (field : Text) : Nat := unsigned width (atoi field)

def hexadecimal (width : Nat) (field : Text) : Nat := unsigned width (strtol 16 field)

structure SystemStatusPQWM1 where
  mGpsWeek : Nat
  mGpsTowMs : Nat
  mTimeValid : Nat
  mTimeSource : Nat
  mTimeUnc : Int
  mClockFreqBias : Int
  mClockFreqBiasUnc : Int
  mXoState : Nat
  mPgaGain : Int
  mGpsBpAmpI : Nat
  mGpsBpAmpQ : Nat
  mAdcI : Nat
  mAdcQ : Nat
  mJammerGps : Nat
  mJammerGlo : Nat
  mJammerBds : Nat
  mJammerGal : Nat
  mRecErrorRecovery : Nat
  mAgcGps : FloatValue
  mAgcGlo : FloatValue
  mAgcBds : FloatValue
  mAgcGal : FloatValue
  mLeapSeconds : Int
  mLeapSecUnc : Int
  mGloBpAmpI : Nat
  mGloBpAmpQ : Nat
  mBdsBpAmpI : Nat
  mBdsBpAmpQ : Nat
  mGalBpAmpI : Nat
  mGalBpAmpQ : Nat

/-- After the `memset`. -/
def SystemStatusPQWM1.zero : SystemStatusPQWM1 :=
  ⟨0, 0, 0, 0, 0, 0, 0, 0, 0, 0, 0, 0, 0, 0, 0, 0, 0, 0, .finite 0, .finite 0, .finite 0,
    .finite 0, 0, 0, 0, 0, 0, 0, 0, 0⟩

structure SystemStatusPQWP2 where
  mBestLat : FloatValue
  mBestLon : FloatValue
  mBestAlt : FloatValue
  mBestHepe : FloatValue
  mBestAltUnc : FloatValue

section Parsers
variable (floats : FloatLibrary) (str_in : Text) (len_in : Int)

def SystemStatusPQWM1parser : SystemStatusPQWM1 :=
  let mField := SystemStatusNmeaBase str_in len_in
  let mM1 := SystemStatusPQWM1.zero
  if mField.length ≤ 22 then { mM1 with mTimeValid := 0 }
  else
    let mM1 := { mM1 with
      mGpsWeek := decimal 16 (fieldAt mField 1)
      mGpsTowMs := decimal 32 (fieldAt mField 2)
      mTimeValid := decimal 8 (fieldAt mField 3)
      mTimeSource := decimal 8 (fieldAt mField 4)
      mTimeUnc := atoi (fieldAt mField 5)
      mClockFreqBias := atoi (fieldAt mField 6)
      mClockFreqBiasUnc := atoi (fieldAt mField 7)
      mXoState := decimal 8 (fieldAt mField 8)
      mPgaGain := atoi (fieldAt mField 9)
      mGpsBpAmpI := decimal 32 (fieldAt mField 10)
      mGpsBpAmpQ := decimal 32 (fieldAt mField 11)
      mAdcI := decimal 32 (fieldAt mField 12)
      mAdcQ := decimal 32 (fieldAt mField 13)
      mJammerGps := decimal 32 (fieldAt mField 14)
      mJammerGlo := decimal 32 (fieldAt mField 15)
      mJammerBds := decimal 32 (fieldAt mField 16)
      mJammerGal := decimal 32 (fieldAt mField 17)
      mRecErrorRecovery := decimal 32 (fieldAt mField 18)
      mAgcGps := floats.atof (fieldAt mField 19)
      mAgcGlo := floats.atof (fieldAt mField 20)
      mAgcBds := floats.atof (fieldAt mField 21)
      mAgcGal := floats.atof (fieldAt mField 22) }
    let mM1 :=
      if 24 < mField.length then
        { mM1 with
          mLeapSeconds := atoi (fieldAt mField 23)
          mLeapSecUnc := atoi (fieldAt mField 24) }
      else mM1
    if 30 < mField.length then
      { mM1 with
        mGloBpAmpI := decimal 32 (fieldAt mField 25)
        mGloBpAmpQ := decimal 32 (fieldAt mField 26)
        mBdsBpAmpI := decimal 32 (fieldAt mField 27)
        mBdsBpAmpQ := decimal 32 (fieldAt mField 28)
        mGalBpAmpI := decimal 32 (fieldAt mField 29)
        mGalBpAmpQ := decimal 32 (fieldAt mField 30) }
    else mM1

/-- The way of the other parsers: with fewer fields than `eMax` nothing is assigned, with as
many everything is. -/
def parseFields {α : Type} (eMax : Nat) (assigned : List Text → α) (stack : α) : α :=
  let mField := SystemStatusNmeaBase str_in len_in
  if mField.length < eMax then stack else assigned mField

/-- The fields of `SystemStatusPQWP1`, and of the other structures up to `SystemStatusPQWS1`,
are those of the reports that are made of them. -/
def SystemStatusPQWP1parser (mP1 : SystemStatusInjectedPosition) :
    SystemStatusInjectedPosition :=
  parseFields str_in len_in 9 (fun mField =>
    { mEpiValidity := hexadecimal 8 (fieldAt mField 2)
      mEpiLat := floats.toFloat (floats.atof (fieldAt mField 3))
      mEpiLon := floats.toFloat (floats.atof (fieldAt mField 4))
      mEpiAlt := floats.toFloat (floats.atof (fieldAt mField 5))
      mEpiHepe := floats.toFloat (.finite (atoi (fieldAt mField 6)))
      mEpiAltUnc := floats.toFloat (floats.atof (fieldAt mField 7))
      mEpiSrc := decimal 8 (fieldAt mField 8) }) mP1

def SystemStatusPQWP2parser (mP2 : SystemStatusPQWP2) : SystemStatusPQWP2 :=
  parseFields str_in len_in 7 (fun mField =>
    { mBestLat := floats.toFloat (floats.atof (fieldAt mField 2))
      mBestLon := floats.toFloat (floats.atof (fieldAt mField 3))
      mBestAlt := floats.toFloat (floats.atof (fieldAt mField 4))
      mBestHepe := floats.toFloat (floats.atof (fieldAt mField 5))
      mBestAltUnc := floats.toFloat (floats.atof (fieldAt mField 6)) }) mP2

def SystemStatusPQWP3parser (mP3 : SystemStatusXtra) : SystemStatusXtra :=
  parseFields str_in len_in 13 (fun mField =>
    { mXtraValidMask := hexadecimal 8 (fieldAt mField 2)
      mGpsXtraAge := decimal 32 (fieldAt mField 3)
      mGloXtraAge := decimal 32 (fieldAt mField 4)
      mBdsXtraAge := decimal 32 (fieldAt mField 5)
      mGalXtraAge := decimal 32 (fieldAt mField 6)
      mQzssXtraAge := decimal 32 (fieldAt mField 7)
      mGpsXtraValid := hexadecimal 32 (fieldAt mField 8)
      mGloXtraValid := hexadecimal 32 (fieldAt mField 9)
      mBdsXtraValid := hexadecimal 64 (fieldAt mField 10)
      mGalXtraValid := hexadecimal 64 (fieldAt mField 11)
      mQzssXtraValid := hexadecimal 8 (fieldAt mField 12) }) mP3

def SystemStatusPQWP4parser (mP4 : SystemStatusEphemeris) : SystemStatusEphemeris :=
  parseFields str_in len_in 7 (fun mField =>
    { mGpsEpheValid := hexadecimal 32 (fieldAt mField 2)
      mGloEpheValid := hexadecimal 32 (fieldAt mField 3)
      mBdsEpheValid := hexadecimal 64 (fieldAt mField 4)
      mGalEpheValid := hexadecimal 64 (fieldAt mField 5)
      mQzssEpheValid := hexadecimal 8 (fieldAt mField 6) }) mP4

def SystemStatusPQWP5parser (mP5 : SystemStatusSvHealth) : SystemStatusSvHealth :=
  parseFields str_in len_in 17 (fun mField =>
    { mGpsUnknownMask := hexadecimal 32 (fieldAt mField 2)
      mGloUnknownMask := hexadecimal 32 (fieldAt mField 3)
      mBdsUnknownMask := hexadecimal 64 (fieldAt mField 4)
      mGalUnknownMask := hexadecimal 64 (fieldAt mField 5)
      mQzssUnknownMask := hexadecimal 8 (fieldAt mField 6)
      mGpsGoodMask := hexadecimal 32 (fieldAt mField 7)
      mGloGoodMask := hexadecimal 32 (fieldAt mField 8)
      mBdsGoodMask := hexadecimal 64 (fieldAt mField 9)
      mGalGoodMask := hexadecimal 64 (fieldAt mField 10)
      mQzssGoodMask := hexadecimal 8 (fieldAt mField 11)
      mGpsBadMask := hexadecimal 32 (fieldAt mField 12)
      mGloBadMask := hexadecimal 32 (fieldAt mField 13)
      mBdsBadMask := hexadecimal 64 (fieldAt mField 14)
      mGalBadMask := hexadecimal 64 (fieldAt mField 15)
      mQzssBadMask := hexadecimal 8 (fieldAt mField 16) }) mP5

def SystemStatusPQWP6parser (mFixInfoMask : Nat) : Nat :=
  parseFields str_in len_in 3 (fun mField => hexadecimal 32 (fieldAt mField 2)) mFixInfoMask

/-- The two enumerations have 32 bits. -/
def SystemStatusPQWP7parser (mP7 : SystemStatusNavData) : SystemStatusNavData :=
  parseFields str_in len_in (2 + SV_ALL_NUM * 3) (fun mField =>
    ⟨fun i =>
      { mType := decimal 32 (fieldAt mField (i * 3 + 2))
        mSource := decimal 32 (fieldAt mField (i * 3 + 3))
        mAgeSec := atoi (fieldAt mField (i * 3 + 4)) }⟩) mP7

def SystemStatusPQWS1parser (mS1 : SystemStatusPositionFailure) : SystemStatusPositionFailure :=
  parseFields str_in len_in 4 (fun mField =>
    { mFixInfoMask := decimal 32 (fieldAt mField 2)
      mHepeLimit := decimal 32 (fieldAt mField 3) }) mS1

end Parsers

/-- The sentences that the dispatcher knows. -/
inductive DebugKind where
  | PQWM1 | PQWP1 | PQWP2 | PQWP3 | PQWP4 | PQWP5 | PQWP6 | PQWP7 | PQWS1
  deriving DecidableEq

namespace DebugKind

/-- In the order in which the dispatcher asks. -/
def all : List DebugKind := [PQWM1, PQWP1, PQWP2, PQWP3, PQWP4, PQWP5, PQWP6, PQWP7, PQWS1]

def talker : DebugKind → Text
  | .PQWM1 => "$PQWM1".toList
  | .PQWP1 => "$PQWP1".toList
  | .PQWP2 => "$PQWP2".toList
  | .PQWP3 => "$PQWP3".toList
  | .PQWP4 => "$PQWP4".toList
  | .PQWP5 => "$PQWP5".toList
  | .PQWP6 => "$PQWP6".toList
  | .PQWP7 => "$PQWP7".toList
  | .PQWS1 => "$PQWS1".toList

/-- The first kind whose name `strncmp` finds at the start. -/
def of (data : Text) : Option DebugKind := all.find? fun kind => kind.talker.isPrefixOf data

end DebugKind

/-- What lies on the stack where each of the parsers puts its result. -/
structure Stack where
  mP1 : SystemStatusInjectedPosition
  mP2 : SystemStatusPQWP2
  mP3 : SystemStatusXtra
  mP4 : SystemStatusEphemeris
  mP5 : SystemStatusSvHealth
  mP6 : Nat
  mP7 : SystemStatusNavData
  mS1 : SystemStatusPositionFailure

section Dispatcher
variable (floats : FloatLibrary) (stack : Stack) (data : Text) (len : Int)

/-- `strlcpy` into `buf`, which ends with a zero. -/
def debugBuf : Text := (cString data).take DEBUG_NMEA_MAXSIZE.toNat

/-- The result of the parser that the dispatcher calls, as the reports take it over. -/
def debugSentence : DebugSentence :=
  let buf := debugBuf data
  match DebugKind.of data with
  | some .PQWM1 =>
    let s := SystemStatusPQWM1parser floats buf len
    .PQWM1
      ⟨s.mGpsWeek, s.mGpsTowMs, s.mTimeValid, s.mTimeSource, s.mTimeUnc, s.mClockFreqBias,
        s.mClockFreqBiasUnc, s.mLeapSeconds, s.mLeapSecUnc⟩
      s.mXoState
      ⟨s.mPgaGain, s.mGpsBpAmpI, s.mGpsBpAmpQ, s.mAdcI, s.mAdcQ, s.mJammerGps, s.mJammerGlo,
        s.mJammerBds, s.mJammerGal, s.mAgcGps, s.mAgcGlo, s.mAgcBds, s.mAgcGal, s.mGloBpAmpI,
        s.mGloBpAmpQ, s.mBdsBpAmpI, s.mBdsBpAmpQ, s.mGalBpAmpI, s.mGalBpAmpQ⟩
      s.mRecErrorRecovery
  | some .PQWP1 => .PQWP1 (SystemStatusPQWP1parser floats buf len stack.mP1)
  | some .PQWP2 =>
    let s := SystemStatusPQWP2parser floats buf len stack.mP2
    .PQWP2 s.mBestLat s.mBestLon s.mBestAlt s.mBestHepe s.mBestAltUnc
  | some .PQWP3 => .PQWP3 (SystemStatusPQWP3parser buf len stack.mP3)
  | some .PQWP4 => .PQWP4 (SystemStatusPQWP4parser buf len stack.mP4)
  | some .PQWP5 => .PQWP5 (SystemStatusPQWP5parser buf len stack.mP5)
  | some .PQWP6 => .PQWP6 (SystemStatusPQWP6parser buf len stack.mP6)
  | some .PQWP7 => .PQWP7 (SystemStatusPQWP7parser buf len stack.mP7)
  | some .PQWS1 => .PQWS1 (SystemStatusPQWS1parser buf len stack.mS1)
  | none => .other

/-- `SystemStatus::setNmeaString`: whether it takes the sentence, and what it leaves. -/
def setNmeaString (cache : SystemStatusReports) (now : Nat) : Bool × SystemStatusReports :=
  if loc_nmea_is_debug data len then
    (true, cache.setNmeaString now (debugSentence floats stack data len))
  else (false, cache)

end Dispatcher

end Msm8917Common.Status
