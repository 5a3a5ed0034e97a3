import Mathlib.Algebra.Group.Nat.Defs
import Msm8917Common.Allocations
import Msm8917Common.RilRequests

/-! The requests of the radio service: `ril_service.cpp` from `memsetAndFreeStrings`
to `RadioImpl::setSimCardPower`. A request is added to the pending list, its strings
are copied for the vendor library, `onRequest` is called, and the copies are freed. -/
namespace Msm8917Common.RilService
open Allocations Ril

def RIL_E_REQUEST_NOT_SUPPORTED : Int := 6
def RIL_E_NO_MEMORY : Int := 37
def RIL_E_INVALID_ARGUMENTS : Int := 44

/-- The bytes of a `hidl_string`, without the zero behind them. -/
structure HidlString where
  buffer : List UInt8
  deriving DecidableEq

namespace HidlString

def size (string : HidlString) : Nat := string.buffer.length

def c_str (string : HidlString) : List UInt8 := string.buffer.takeWhile (· ≠ 0)

/-- The string that is made of a `const char *`. -/
def ofCStr (string : HidlString) : HidlString := ⟨string.c_str⟩

end HidlString

/-- What the service allocates: a copy of a string, or an array. -/
inductive Block where
  | string (bytes : List UInt8)
  | array
  deriving DecidableEq

/-- What the vendor library reads behind a `char *`. -/
abbrev CString := Option (List UInt8)

def text : Option Block → CString
  | some (.string bytes) => some bytes
  | _ => none

structure RilDataProfileInfo where
  profileId : Int
  apn : CString
  protocol : CString
  authType : Int
  user : CString
  password : CString
  type : Int
  maxConnsTime : Int
  maxConns : Int
  waitTime : Int
  enabled : Int

structure RilDataProfileInfo_v15 extends RilDataProfileInfo where
  roamingProtocol : CString
  supportedTypesBitmask : Int
  bearerBitmask : Int
  mtu : Int
  mvnoType : List UInt8
  mvnoMatchData : CString

/-- Its strings are the caller's own. -/
structure RilCarrier where
  mcc : List UInt8
  mnc : List UInt8
  match_type : Int
  match_data : List UInt8

/-- As `telephony/ril_cdma_sms.h` has it, which does not come with these sources. -/
structure RilCdmaSmsAddress where
  digit_mode : Int
  number_mode : Int
  number_type : Int
  number_plan : Int
  number_of_digits : UInt8
  digits : List UInt8
  deriving DecidableEq

structure RilCdmaSmsSubaddress where
  subaddressType : Int
  odd : Int
  number_of_digits : UInt8
  digits : List UInt8
  deriving DecidableEq

structure RilCdmaSmsMessage where
  uTeleserviceID : Int
  bIsServicePresent : Int
  uServicecategory : Int
  sAddress : RilCdmaSmsAddress
  sSubAddress : RilCdmaSmsSubaddress
  uBearerDataLen : Int
  aBearerData : List UInt8
  deriving DecidableEq

structure RilGsmBroadcastSmsConfigInfo where
  fromServiceId : Int
  toServiceId : Int
  fromCodeScheme : Int
  toCodeScheme : Int
  selected : Int

structure RilCdmaBroadcastSmsConfigInfo where
  service_category : Int
  language : Int
  selected : Int

/-- The data that `onRequest` is called with, one for each type that `ril.h` has,
as the vendor library reads it. -/
inductive RilData where
  | null
  | string (string : CString)
  | strings (strings : List CString)
  | ints (ints : List Int)
  | raw (bytes : List UInt8)
  | callForwardInfo (status reason serviceClass toa timeSeconds : Int) (number : CString)
  | simApdu (sessionid cla instruction p1 p2 p3 : Int) (data : CString)
  | dial (address : CString) (clir : Int)
      (uusInfo : Option (Int × Int × Nat × CString))
  | simIo (command fileid : Int) (path : CString) (p1 p2 p3 : Int) (data pin2 aidPtr : CString)
  | smsWriteArgs (status : Int) (pdu smsc : CString)
  | openChannelParams (p2 : Int) (aidPtr : CString)
  | nvReadItem (itemID : Int)
  | nvWriteItem (itemID : Int) (value : CString)
  | selectUiccSub (slot app_index sub_type act_status : Int)
  | simAuthentication (authContext : Int) (authData aid : CString)
  | initialAttachApn (apn protocol : CString) (authtype : Int) (username password : CString)
  | initialAttachApn_v15 (apn protocol roamingProtocol : CString) (authtype : Int)
      (username password : CString) (supportedTypesBitmask bearerBitmask modemCognitive mtu : Int)
      (mvnoType : List UInt8) (mvnoMatchData : CString)
  | imsGsmSms (retry messageRef : Int) (smscPdu pdu : CString)
  | imsCdmaSms (retry messageRef : Int) (message : RilCdmaSmsMessage)
  | cdmaSms (message : RilCdmaSmsMessage)
  | cdmaSmsAck (uErrorClass uSMSCauseCode : Int)
  | gsmBroadcastConfig (gsmBci : List RilGsmBroadcastSmsConfigInfo)
  | cdmaBroadcastConfig (cdmaBci : List RilCdmaBroadcastSmsConfigInfo)
  | cdmaSmsWriteArgs (status : Int) (message : RilCdmaSmsMessage)
  | radioCapability (version session phase rat : Int) (logicalModemUuid : List UInt8)
      (status : Int)
  | dataProfiles (profiles : List RilDataProfileInfo)
  | dataProfiles_v15 (profiles : List RilDataProfileInfo_v15)
  | carrierRestrictions (allowed excluded : List RilCarrier)

/-- One call of `onRequest`. `t` is the address of the request. -/
structure OnRequest where
  request : Nat
  data : RilData
  t : Nat
  socket_id : Int

/-- The service and the vendor library behind it. `undefined`: something was freed
that must not be. -/
structure RadioState where
  ril : RilState
  memory : Memory Block
  onRequests : List OnRequest
  errorResponses : List RadioCall
  undefined : Bool

def RadioState.start : RadioState := ⟨.start, ⟨fun _ => none, 0, 0⟩, [], [], false⟩

/-- A failure without an error is a return without a response. -/
abbrev DispatchStep (ν : Type) := Step ν Block (Option Int)

/-- A dispatcher of the source between `addRequestToList` and its return. -/
structure Dispatch where
  Var : Type
  deceq : DecidableEq Var
  request : Nat
  /-- Whether the number is read from the request's table entry. -/
  byTable : Bool
  /-- Whether a request that is not allocated is answered with a return. -/
  nullChecked : Bool
  /-- Whether its variables start as null pointers. -/
  zeroed : Bool
  steps : List (DispatchStep Var)
  data : (Var → CString) → RilData
  frees : List Var

instance (dispatch : Dispatch) : DecidableEq dispatch.Var := dispatch.deceq

namespace RadioState

/-- The request that was added, or the null pointer. -/
def addRequestToList (build : RilBuild) (serial slotId : Int) (request : Nat) (allocated : Bool)
    (state : RadioState) : Option RequestInfo × RadioState :=
  let ril := state.ril.addRequestToList build serial slotId request allocated
  (if allocated then (ril.pending (addHook build.simCount slotId)).head? else none,
    { state with ril := ril })

def sendErrorResponse (pRI : Option RequestInfo) (err : Int) (state : RadioState) : RadioState :=
  match pRI with
  | none => { state with ril := { state.ril with crashed := true } }
  | some pRI =>
    match pRI.pCI.bind (·.responseFunction) with
    | none => { state with ril := { state.ril with crashed := true } }
    | some function => { state with
        errorResponses := state.errorResponses ++ [.responseFunction pRI.address function
          pRI.socket_id RESPONSE_SOLICITED pRI.token err none] }

/-- The number that `onRequest` is given. -/
def requestNumber (dispatch : Dispatch) (pRI : RequestInfo) : Option Nat :=
  if dispatch.byTable then pRI.pCI.map (·.requestNumber) else some dispatch.request

/-- `CALL_ONREQUEST`. The vendor library may complete requests before it returns. -/
def callOnRequest (build : RilBuild) (dispatch : Dispatch) (pRI : RequestInfo) (slotId : Int)
    (data : RilData) (during : List RilEvent) (state : RadioState) : RadioState :=
  match requestNumber dispatch pRI with
  | none => { state with ril := { state.ril with crashed := true } }
  | some request => { state with
      onRequests := state.onRequests ++ [⟨request, data, pRI.address, slotId⟩]
      ril := during.foldl (RilState.step build) state.ril }

/-- What a dispatcher does with the request it has added. -/
def dispatchRequest (build : RilBuild) (chosen : Nat → Option Nat) (dispatch : Dispatch)
    (pRI : RequestInfo) (slotId : Int) (during : List RilEvent) (state : RadioState) : RadioState :=
  match run chosen dispatch.steps (Allocations.start dispatch.zeroed) state.memory with
  | .undefined => { state with undefined := true }
  | .failed none memory => { state with memory := memory }
  | .failed (some err) memory => { state with memory := memory }.sendErrorResponse (some pRI) err
  | .done vars memory =>
    let state := { state with memory := memory }.callOnRequest build dispatch pRI slotId
      (dispatch.data fun var => text (read memory.heap (vars var))) during
    match state.memory.freeAll (dispatch.frees.map vars) with
    | none => { state with undefined := true }
    | some memory => { state with memory := memory }

/-- `allocated`: whether the request itself could be allocated. -/
def dispatch (build : RilBuild) (chosen : Nat → Option Nat) (dispatch : Dispatch)
    (serial slotId : Int) (allocated : Bool) (during : List RilEvent) (state : RadioState) :
    RadioState :=
  match state.addRequestToList build serial slotId dispatch.request allocated with
  | (some pRI, state) => state.dispatchRequest build chosen dispatch pRI slotId during
  | (none, state) =>
    if dispatch.nullChecked then state
    else { state with ril := { state.ril with crashed := true } }

end RadioState

section copies

variable {ν : Type}

/-- Copies a string to `dest`. On a failure the dispatcher frees `releases` and returns. -/
def copyHidlStringToRil (dest : ν) (src : HidlString) (allowEmpty : Bool) (releases : List ν) :
    List (DispatchStep ν) :=
  if src.size = 0 ∧ allowEmpty = false then [.setNull dest]
  else [
    .allocate dest (.string (src.c_str.take src.size)) (some RIL_E_NO_MEMORY) releases,
    -- `strlcpy` reports a truncated copy, and the copy itself is not freed
    .check (src.c_str.length < src.size + 1) none releases]

def callocArray (dest : ν) (releases : List ν) : DispatchStep ν :=
  .allocate dest .array (some RIL_E_NO_MEMORY) releases

end copies

/-- A dispatcher that only reads what it is called with. -/
def withoutCopies (request : Nat) (byTable : Bool) (data : RilData) : Dispatch where
  Var := Empty
  deceq := inferInstance
  request := request
  byTable := byTable
  nullChecked := true
  zeroed := true
  steps := []
  data := fun _ => data
  frees := []

def dispatchVoid (request : Nat) : Dispatch := withoutCopies request false .null

def dispatchRaw (request : Nat) (rawBytes : List UInt8) : Dispatch :=
  withoutCopies request false (.raw rawBytes)

/-- A dispatcher that has one string. -/
def withOneCopy (request : Nat) (byTable zeroed : Bool) (string : HidlString)
    (data : CString → RilData) : Dispatch where
  Var := Unit
  deceq := inferInstance
  request := request
  byTable := byTable
  nullChecked := true
  zeroed := zeroed
  steps := copyHidlStringToRil () string false []
  data := fun copied => data (copied ())
  frees := [()]

def dispatchString (request : Nat) (str : HidlString) : Dispatch :=
  withOneCopy request false false str.ofCStr .string

structure CallForwardInfo where
  status : Int
  reason : Int
  serviceClass : Int
  toa : Int
  number : HidlString
  timeSeconds : Int

def dispatchCallForwardStatus (request : Nat) (callInfo : CallForwardInfo) : Dispatch :=
  withOneCopy request false false callInfo.number fun number =>
    .callForwardInfo callInfo.status callInfo.reason callInfo.serviceClass callInfo.toa
      callInfo.timeSeconds number

structure SimApdu where
  sessionId : Int
  cla : Int
  instruction : Int
  p1 : Int
  p2 : Int
  p3 : Int
  data : HidlString

def dispatchIccApdu (request : Nat) (message : SimApdu) : Dispatch :=
  withOneCopy request false true message.data fun data =>
    .simApdu message.sessionId message.cla message.instruction message.p1 message.p2 message.p3 data

/-- The array of the strings, and its elements. -/
inductive StringsVar where
  | pStrings
  | element (i : Nat)
  deriving DecidableEq

/-- The loop over the strings: a failure frees the elements before it, then the array. -/
def copyStrings (allowEmpty : Bool) : Nat → List HidlString → List (DispatchStep StringsVar)
  | _, [] => []
  | i, string :: rest =>
    copyHidlStringToRil (.element i) string allowEmpty
      ((List.range i).map .element ++ [.pStrings]) ++ copyStrings allowEmpty (i + 1) rest

def withStrings (request : Nat) (allowEmpty : Bool) (strings : List HidlString) : Dispatch where
  Var := StringsVar
  deceq := inferInstance
  request := request
  byTable := false
  nullChecked := true
  zeroed := true
  steps := callocArray .pStrings [] :: copyStrings allowEmpty 0 strings
  data := fun copied => .strings ((List.range strings.length).map fun i => copied (.element i))
  frees := (List.range strings.length).map .element ++ [.pStrings]

/-- Of `const char *`, as many as are passed. -/
def dispatchStrings (request : Nat) (allowEmpty : Bool) (strings : List HidlString) : Dispatch :=
  withStrings request allowEmpty (strings.map .ofCStr)

/-- Of a `hidl_vec`. -/
def dispatchStringVec (request : Nat) (data : List HidlString) : Dispatch :=
  withStrings request false data

def dispatchInts (request : Nat) (ints : List Int) : Dispatch where
  Var := Unit
  deceq := inferInstance
  request := request
  byTable := false
  nullChecked := true
  zeroed := false
  steps := [callocArray () []]
  data := fun _ => .ints ints
  frees := [()]

/-- Only the error response, to a request that may be null where it is not checked. -/
def answerError (request : Nat) (nullChecked : Bool) (err : Int) : Dispatch where
  Var := Empty
  deceq := inferInstance
  request := request
  byTable := false
  nullChecked := nullChecked
  zeroed := true
  steps := [.check false (some err) []]
  data := fun _ => .null
  frees := []

structure UusInfo where
  uusType : Int
  uusDcs : Int
  uusData : HidlString

structure DialInfo where
  address : HidlString
  clir : Int
  uusInfo : List UusInfo

inductive DialVar where
  | address | uusData
  deriving DecidableEq

def dial (dialInfo : DialInfo) : Dispatch where
  Var := DialVar
  deceq := inferInstance
  request := 10
  byTable := false
  nullChecked := true
  zeroed := true
  steps := copyHidlStringToRil .address dialInfo.address false [] ++
    match dialInfo.uusInfo with
    | [] => []
    | uusInfo :: _ =>
      if uusInfo.uusData.size = 0 then [.setNull .uusData]
      else copyHidlStringToRil .uusData uusInfo.uusData false [.address]
  data := fun copied => .dial (copied .address) dialInfo.clir
    (dialInfo.uusInfo.head?.map fun uusInfo =>
      (uusInfo.uusType, uusInfo.uusDcs, uusInfo.uusData.size, copied .uusData))
  frees := [.address, .uusData]

structure IccIo where
  command : Int
  fileId : Int
  path : HidlString
  p1 : Int
  p2 : Int
  p3 : Int
  data : HidlString
  pin2 : HidlString
  aid : HidlString

inductive IccIoVar where
  | path | data | pin2 | aidPtr
  deriving DecidableEq

def iccIOForApp (iccIo : IccIo) : Dispatch where
  Var := IccIoVar
  deceq := inferInstance
  request := 28
  byTable := false
  nullChecked := true
  zeroed := true
  steps := copyHidlStringToRil .path iccIo.path false [] ++
    copyHidlStringToRil .data iccIo.data false [.path] ++
    copyHidlStringToRil .pin2 iccIo.pin2 false [.path, .data] ++
    copyHidlStringToRil .aidPtr iccIo.aid false [.path, .data, .pin2]
  data := fun copied => .simIo iccIo.command iccIo.fileId (copied .path) iccIo.p1 iccIo.p2 iccIo.p3
    (copied .data) (copied .pin2) (copied .aidPtr)
  frees := [.path, .data, .pin2, .aidPtr]

inductive SmsWriteVar where
  | pdu | smsc
  deriving DecidableEq

def writeSmsToSim (status : Int) (pdu smsc : HidlString) : Dispatch where
  Var := SmsWriteVar
  deceq := inferInstance
  request := 63
  byTable := false
  nullChecked := true
  zeroed := false
  steps := copyHidlStringToRil .pdu pdu false [] ++ copyHidlStringToRil .smsc smsc false [.pdu]
  data := fun copied => .smsWriteArgs status (copied .pdu) (copied .smsc)
  frees := [.smsc, .pdu]

def nvReadItem (itemId : Int) : Dispatch := withoutCopies 118 true (.nvReadItem itemId)

def nvWriteItem (itemId : Int) (value : HidlString) : Dispatch :=
  withOneCopy 119 true true value (.nvWriteItem itemId)

def setUiccSubscription (slot appIndex subType actStatus : Int) : Dispatch :=
  withoutCopies 122 true (.selectUiccSub slot appIndex subType actStatus)

inductive SimAuthVar where
  | authData | aid
  deriving DecidableEq

def requestIccSimAuthentication (authContext : Int) (authData aid : HidlString) : Dispatch where
  Var := SimAuthVar
  deceq := inferInstance
  request := 125
  byTable := true
  nullChecked := true
  zeroed := true
  steps := copyHidlStringToRil .authData authData false [] ++
    copyHidlStringToRil .aid aid false [.authData]
  data := fun copied => .simAuthentication authContext (copied .authData) (copied .aid)
  frees := [.authData, .aid]

def iccOpenLogicalChannel (version : Int) (aid : HidlString) (p2 : Int) : Dispatch :=
  if version < 15 then dispatchString 115 aid
  else withOneCopy 115 true true aid (.openChannelParams p2)

/-- `MvnoType`, with what stands for any other number. -/
inductive MvnoType where
  | imsi | gid | spn | none | unknown
  deriving DecidableEq

/-- The bytes of a string literal. -/
def literal (text : String) : List UInt8 := text.toList.map fun char => char.toNat.toUInt8

def convertMvnoTypeToString : MvnoType → Option (List UInt8)
  | .imsi => some (literal "imsi")
  | .gid => some (literal "gid")
  | .spn => some (literal "spn")
  | .none => some []
  | .unknown => none

structure DataProfileInfo where
  profileId : Int
  apn : HidlString
  protocol : HidlString
  roamingProtocol : HidlString
  authType : Int
  user : HidlString
  password : HidlString
  type : Int
  maxConnsTime : Int
  maxConns : Int
  waitTime : Int
  enabled : Bool
  supportedApnTypesBitmap : Int
  bearerBitmap : Int
  mtu : Int
  mvnoType : MvnoType
  mvnoMatchData : HidlString

def boolToInt (value : Bool) : Int := if value then 1 else 0

/-- The text that `std::to_string` makes of a number. -/
def toString (number : Int) : HidlString :=
  ⟨if number < 0 then 45 :: (Nat.toDigits 10 number.natAbs).map fun char => char.toNat.toUInt8
    else (Nat.toDigits 10 number.natAbs).map fun char => char.toNat.toUInt8⟩

def setupDataCall (version : Int) (radioTechnology : Int) (dataProfileInfo : DataProfileInfo)
    (modemCognitive roamingAllowed isRoaming : Bool) : Dispatch :=
  if 4 ≤ version ∧ version ≤ 14 then
    let protocol := if isRoaming then dataProfileInfo.roamingProtocol else dataProfileInfo.protocol
    dispatchStrings 27 true [
      toString (radioTechnology + 2), toString dataProfileInfo.profileId, dataProfileInfo.apn,
      dataProfileInfo.user, dataProfileInfo.password, toString dataProfileInfo.authType, protocol]
  else if 15 ≤ version then
    match convertMvnoTypeToString dataProfileInfo.mvnoType with
    | none => answerError 27 true RIL_E_INVALID_ARGUMENTS
    | some mvnoTypeStr => dispatchStrings 27 true [
        toString (radioTechnology + 2), toString dataProfileInfo.profileId, dataProfileInfo.apn,
        dataProfileInfo.user, dataProfileInfo.password, toString dataProfileInfo.authType,
        dataProfileInfo.protocol, dataProfileInfo.roamingProtocol,
        toString dataProfileInfo.supportedApnTypesBitmap, toString dataProfileInfo.bearerBitmap,
        toString (boolToInt modemCognitive), toString dataProfileInfo.mtu, ⟨mvnoTypeStr⟩,
        dataProfileInfo.mvnoMatchData, toString (boolToInt roamingAllowed)]
  else answerError 27 true RIL_E_REQUEST_NOT_SUPPORTED

inductive AttachVar where
  | apn | protocol | roamingProtocol | username | password | mvnoMatchData
  deriving DecidableEq

/-- Without `NEEDS_ROAMING_PROTOCOL_FIELD` and `NEEDS_IMS_TYPE_FIELD`. -/
def setInitialAttachApn (version : Int) (dataProfileInfo : DataProfileInfo)
    (modemCognitive isRoaming : Bool) : Dispatch :=
  if version ≤ 14 then
    let protocol := if isRoaming then dataProfileInfo.roamingProtocol else dataProfileInfo.protocol
    { Var := AttachVar
      deceq := inferInstance
      request := 111
      byTable := false
      nullChecked := true
      zeroed := true
      steps := copyHidlStringToRil .apn dataProfileInfo.apn true [] ++
        copyHidlStringToRil .protocol protocol false [.apn] ++
        copyHidlStringToRil .username dataProfileInfo.user false [.apn, .protocol] ++
        copyHidlStringToRil .password dataProfileInfo.password false [.apn, .protocol, .username]
      data := fun copied => .initialAttachApn (copied .apn) (copied .protocol)
        dataProfileInfo.authType (copied .username) (copied .password)
      frees := [.apn, .protocol, .username, .password] }
  else
    let mvnoType := convertMvnoTypeToString dataProfileInfo.mvnoType
    { Var := AttachVar
      deceq := inferInstance
      request := 111
      byTable := false
      nullChecked := true
      zeroed := true
      steps := copyHidlStringToRil .apn dataProfileInfo.apn true [] ++
        copyHidlStringToRil .protocol dataProfileInfo.protocol false [.apn] ++
        copyHidlStringToRil .roamingProtocol dataProfileInfo.roamingProtocol false
          [.apn, .protocol] ++
        copyHidlStringToRil .username dataProfileInfo.user false
          [.apn, .protocol, .roamingProtocol] ++
        copyHidlStringToRil .password dataProfileInfo.password false
          [.apn, .protocol, .roamingProtocol, .username] ++
        .check mvnoType.isSome (some RIL_E_INVALID_ARGUMENTS)
          [.apn, .protocol, .roamingProtocol, .username, .password] ::
        copyHidlStringToRil .mvnoMatchData dataProfileInfo.mvnoMatchData false
          [.apn, .protocol, .roamingProtocol, .username, .password]
      data := fun copied => .initialAttachApn_v15 (copied .apn) (copied .protocol)
        (copied .roamingProtocol) dataProfileInfo.authType (copied .username) (copied .password)
        dataProfileInfo.supportedApnTypesBitmap dataProfileInfo.bearerBitmap
        (boolToInt modemCognitive) dataProfileInfo.mtu (mvnoType.getD []) (copied .mvnoMatchData)
      frees := [.apn, .protocol, .roamingProtocol, .username, .password, .mvnoMatchData] }

structure GsmSmsMessage where
  smscPdu : HidlString
  pdu : HidlString

structure CdmaSmsAddress where
  digitMode : Int
  numberMode : Int
  numberType : Int
  numberPlan : Int
  digits : List UInt8

structure CdmaSmsSubaddress where
  subaddressType : Int
  odd : Bool
  digits : List UInt8

structure CdmaSmsMessage where
  teleserviceId : Int
  isServicePresent : Bool
  serviceCategory : Int
  address : CdmaSmsAddress
  subAddress : CdmaSmsSubaddress
  bearerData : List UInt8

def RIL_CDMA_SMS_ADDRESS_MAX : Nat := 36
def RIL_CDMA_SMS_SUBADDRESS_MAX : Nat := 36
def RIL_CDMA_SMS_BEARER_DATA_MAX : Nat := 255

/-- The loop that fills an array of `max` zeros with as many bytes as it is told. -/
def copyBytes (count : Int) (max : Nat) (bytes : List UInt8) : List UInt8 :=
  let digitLimit := (min count max).toNat
  bytes.take digitLimit ++ List.replicate (max - (bytes.take digitLimit).length) 0

/-- The digits are counted in an `unsigned char`, the bearer data in an `int`. -/
def constructCdmaSms (sms : CdmaSmsMessage) : RilCdmaSmsMessage :=
  let addressDigits := sms.address.digits.length.toUInt8
  let subAddressDigits := sms.subAddress.digits.length.toUInt8
  let uBearerDataLen := (sms.bearerData.length : Int).bmod (2 ^ 32)
  { uTeleserviceID := sms.teleserviceId
    bIsServicePresent := boolToInt sms.isServicePresent
    uServicecategory := sms.serviceCategory
    sAddress :=
      { digit_mode := sms.address.digitMode
        number_mode := sms.address.numberMode
        number_type := sms.address.numberType
        number_plan := sms.address.numberPlan
        number_of_digits := addressDigits
        digits := copyBytes addressDigits.toNat RIL_CDMA_SMS_ADDRESS_MAX sms.address.digits }
    sSubAddress :=
      { subaddressType := sms.subAddress.subaddressType
        odd := boolToInt sms.subAddress.odd
        number_of_digits := subAddressDigits
        digits := copyBytes subAddressDigits.toNat RIL_CDMA_SMS_SUBADDRESS_MAX
          sms.subAddress.digits }
    uBearerDataLen := uBearerDataLen
    aBearerData := copyBytes uBearerDataLen RIL_CDMA_SMS_BEARER_DATA_MAX sms.bearerData }

def sendCdmaSms (sms : CdmaSmsMessage) : Dispatch :=
  withoutCopies 87 true (.cdmaSms (constructCdmaSms sms))

def acknowledgeLastIncomingCdmaSms (errorClass smsCauseCode : Int) : Dispatch :=
  withoutCopies 88 true (.cdmaSmsAck errorClass smsCauseCode)

structure GsmBroadcastSmsConfigInfo where
  fromServiceId : Int
  toServiceId : Int
  fromCodeScheme : Int
  toCodeScheme : Int
  selected : Bool

/-- The array is on the stack. -/
def setGsmBroadcastConfig (configInfo : List GsmBroadcastSmsConfigInfo) : Dispatch :=
  withoutCopies 90 true (.gsmBroadcastConfig (configInfo.map fun info =>
    ⟨info.fromServiceId, info.toServiceId, info.fromCodeScheme, info.toCodeScheme,
      boolToInt info.selected⟩))

structure CdmaBroadcastSmsConfigInfo where
  serviceCategory : Int
  language : Int
  selected : Bool

def setCdmaBroadcastConfig (configInfo : List CdmaBroadcastSmsConfigInfo) : Dispatch :=
  withoutCopies 93 true (.cdmaBroadcastConfig (configInfo.map fun info =>
    ⟨info.serviceCategory, info.language, boolToInt info.selected⟩))

def writeSmsToRuim (status : Int) (message : CdmaSmsMessage) : Dispatch :=
  withoutCopies 96 true (.cdmaSmsWriteArgs status (constructCdmaSms message))

def MAX_UUID_LENGTH : Nat := 64

structure RadioCapability where
  session : Int
  phase : Int
  raf : Int
  logicalModemUuid : HidlString
  status : Int

/-- The version is left zero, and `strlcpy` cuts the identifier. -/
def setRadioCapability (rc : RadioCapability) : Dispatch :=
  withoutCopies 131 true (.radioCapability 0 rc.session rc.phase rc.raf
    (rc.logicalModemUuid.c_str.take (MAX_UUID_LENGTH - 1)) rc.status)

structure ImsSmsMessage where
  tech : Int
  retry : Bool
  messageRef : Int
  cdmaMessage : List CdmaSmsMessage
  gsmMessage : List GsmSmsMessage

def RADIO_TECH_3GPP : Int := 1
def RADIO_TECH_3GPP2 : Int := 2

inductive ImsVar where
  | pStrings | smscPdu | pdu
  deriving DecidableEq

def dispatchImsGsmSms (message : ImsSmsMessage) : Dispatch where
  Var := ImsVar
  deceq := inferInstance
  request := 113
  byTable := true
  nullChecked := true
  zeroed := true
  steps := match message.gsmMessage with
    | [gsmMessage] =>
      .check true (some RIL_E_INVALID_ARGUMENTS) [] :: callocArray .pStrings [] ::
        copyHidlStringToRil .smscPdu gsmMessage.smscPdu false [.pStrings] ++
        copyHidlStringToRil .pdu gsmMessage.pdu false [.smscPdu, .pStrings]
    | _ => [.check false (some RIL_E_INVALID_ARGUMENTS) []]
  data := fun copied => .imsGsmSms (boolToInt message.retry) message.messageRef
    (copied .smscPdu) (copied .pdu)
  frees := [.smscPdu, .pdu, .pStrings]

def dispatchImsCdmaSms (message : ImsSmsMessage) : Dispatch :=
  match message.cdmaMessage with
  | [cdmaMessage] =>
    withoutCopies 113 true (.imsCdmaSms (boolToInt message.retry) message.messageRef
      (constructCdmaSms cdmaMessage))
  | _ => answerError 113 true RIL_E_INVALID_ARGUMENTS

def sendImsSms (message : ImsSmsMessage) : Dispatch :=
  if message.tech = RADIO_TECH_3GPP then dispatchImsGsmSms message
  else if message.tech = RADIO_TECH_3GPP2 then dispatchImsCdmaSms message
  else answerError 113 true RIL_E_INVALID_ARGUMENTS

inductive ProfileField where
  | apn | protocol | roamingProtocol | user | password | mvnoMatchData
  deriving DecidableEq

inductive ProfilesVar where
  | dataProfiles | dataProfilePtrs
  | field (i : Nat) (name : ProfileField)
  deriving DecidableEq

/-- Field by field over all profiles, then the two arrays. -/
def freeSetDataProfileData (num : Nat) (fields : List ProfileField) : List ProfilesVar :=
  (fields.flatMap fun name => (List.range num).map fun i => .field i name) ++
    [.dataProfiles, .dataProfilePtrs]

def profileFields : List ProfileField := [.apn, .protocol, .user, .password]

def profileFields_v15 : List ProfileField :=
  [.apn, .protocol, .roamingProtocol, .user, .password, .mvnoMatchData]

/-- One round of the loop over the profiles. -/
def copyDataProfile (isRoaming : Bool) (num i : Nat) (profile : DataProfileInfo) :
    List (DispatchStep ProfilesVar) :=
  let releases := freeSetDataProfileData num profileFields
  let protocol := if isRoaming then profile.roamingProtocol else profile.protocol
  copyHidlStringToRil (.field i .apn) profile.apn true releases ++
    copyHidlStringToRil (.field i .protocol) protocol true releases ++
    copyHidlStringToRil (.field i .user) profile.user true releases ++
    copyHidlStringToRil (.field i .password) profile.password true releases

def copyDataProfile_v15 (num i : Nat) (profile : DataProfileInfo) :
    List (DispatchStep ProfilesVar) :=
  let releases := freeSetDataProfileData num profileFields_v15
  copyHidlStringToRil (.field i .apn) profile.apn true releases ++
    copyHidlStringToRil (.field i .protocol) profile.protocol false releases ++
    copyHidlStringToRil (.field i .roamingProtocol) profile.roamingProtocol true releases ++
    copyHidlStringToRil (.field i .user) profile.user true releases ++
    copyHidlStringToRil (.field i .password) profile.password true releases ++
    copyHidlStringToRil (.field i .mvnoMatchData) profile.mvnoMatchData true releases ++
    [.check (convertMvnoTypeToString profile.mvnoType).isSome (some RIL_E_INVALID_ARGUMENTS)
      releases]

/-- The loop over the profiles. -/
def copyDataProfiles (copyOne : Nat → DataProfileInfo → List (DispatchStep ProfilesVar)) :
    Nat → List DataProfileInfo → List (DispatchStep ProfilesVar)
  | _, [] => []
  | i, profile :: rest => copyOne i profile ++ copyDataProfiles copyOne (i + 1) rest

def rilDataProfile (copied : ProfilesVar → CString) (profile : DataProfileInfo) (i : Nat) :
    RilDataProfileInfo where
  profileId := profile.profileId
  apn := copied (.field i .apn)
  protocol := copied (.field i .protocol)
  authType := profile.authType
  user := copied (.field i .user)
  password := copied (.field i .password)
  type := profile.type
  maxConnsTime := profile.maxConnsTime
  maxConns := profile.maxConns
  waitTime := profile.waitTime
  enabled := boolToInt profile.enabled

def rilDataProfile_v15 (copied : ProfilesVar → CString) (profile : DataProfileInfo) (i : Nat) :
    RilDataProfileInfo_v15 where
  toRilDataProfileInfo := rilDataProfile copied profile i
  roamingProtocol := copied (.field i .roamingProtocol)
  supportedTypesBitmask := profile.supportedApnTypesBitmap
  bearerBitmask := profile.bearerBitmap
  mtu := profile.mtu
  mvnoType := (convertMvnoTypeToString profile.mvnoType).getD []
  mvnoMatchData := copied (.field i .mvnoMatchData)

def setDataProfile (version : Int) (profiles : List DataProfileInfo) (isRoaming : Bool) :
    Dispatch :=
  let num := profiles.length
  if version ≤ 14 then
    { Var := ProfilesVar
      deceq := inferInstance
      request := 128
      byTable := false
      nullChecked := true
      zeroed := true
      steps := callocArray .dataProfiles [] :: callocArray .dataProfilePtrs [.dataProfiles] ::
        copyDataProfiles (copyDataProfile isRoaming num) 0 profiles
      data := fun copied => .dataProfiles (profiles.mapIdx fun i profile =>
        rilDataProfile copied profile i)
      frees := freeSetDataProfileData num profileFields }
  else
    { Var := ProfilesVar
      deceq := inferInstance
      request := 128
      byTable := false
      nullChecked := true
      zeroed := true
      steps := callocArray .dataProfiles [] :: callocArray .dataProfilePtrs [.dataProfiles] ::
        copyDataProfiles (copyDataProfile_v15 num) 0 profiles
      data := fun copied => .dataProfiles_v15 (profiles.mapIdx fun i profile =>
        rilDataProfile_v15 copied profile i)
      frees := freeSetDataProfileData num profileFields_v15 }

structure Carrier where
  mcc : HidlString
  mnc : HidlString
  matchType : Int
  matchData : HidlString

inductive CarriersVar where
  | allowedCarriers | excludedCarriers
  deriving DecidableEq

def setAllowedCarriers (allowedCarriers excludedCarriers : List Carrier) : Dispatch where
  Var := CarriersVar
  deceq := inferInstance
  request := 136
  byTable := true
  nullChecked := true
  zeroed := true
  steps := [callocArray .allowedCarriers [],
    callocArray .excludedCarriers [.allowedCarriers]]
  data := fun _ =>
    let carrier := fun carrier : Carrier =>
      ⟨carrier.mcc.c_str, carrier.mnc.c_str, carrier.matchType, carrier.matchData.c_str⟩
    .carrierRestrictions (allowedCarriers.map carrier) (excludedCarriers.map carrier)
  frees := [.allowedCarriers, .excludedCarriers]

def LOW_DATA_EXPECTED : Int := 2

/-- The null request is not checked for on the way to the error response. -/
def sendDeviceState (version deviceStateType : Int) (state : Bool) : Dispatch :=
  if version < 15 then
    if deviceStateType = LOW_DATA_EXPECTED then dispatchInts 61 [boolToInt (!state)]
    else answerError 138 false RIL_E_REQUEST_NOT_SUPPORTED
  else dispatchInts 138 [deviceStateType, boolToInt state]

def setIndicationFilter (version indicationFilter : Int) : Dispatch :=
  if version < 15 then answerError 139 false RIL_E_REQUEST_NOT_SUPPORTED
  else dispatchInts 139 [indicationFilter]

/-- A request of the framework. The dispatchers stand for all the methods of the
service that do nothing but call them. -/
inductive RadioRequest where
  | dispatchVoid (request : Nat)
  | dispatchRaw (request : Nat) (rawBytes : List UInt8)
  | dispatchString (request : Nat) (str : HidlString)
  | dispatchStrings (request : Nat) (allowEmpty : Bool) (strings : List HidlString)
  | dispatchStringVec (request : Nat) (data : List HidlString)
  | dispatchInts (request : Nat) (ints : List Int)
  | dispatchCallForwardStatus (request : Nat) (callInfo : CallForwardInfo)
  | dispatchIccApdu (request : Nat) (message : SimApdu)
  | dial (dialInfo : DialInfo)
  | setupDataCall (radioTechnology : Int) (dataProfileInfo : DataProfileInfo)
      (modemCognitive roamingAllowed isRoaming : Bool)
  | iccIOForApp (iccIo : IccIo)
  | writeSmsToSim (status : Int) (pdu smsc : HidlString)
  | setInitialAttachApn (dataProfileInfo : DataProfileInfo) (modemCognitive isRoaming : Bool)
  | sendCdmaSms (sms : CdmaSmsMessage)
  | acknowledgeLastIncomingCdmaSms (errorClass smsCauseCode : Int)
  | setGsmBroadcastConfig (configInfo : List GsmBroadcastSmsConfigInfo)
  | setCdmaBroadcastConfig (configInfo : List CdmaBroadcastSmsConfigInfo)
  | writeSmsToRuim (status : Int) (message : CdmaSmsMessage)
  | sendImsSms (message : ImsSmsMessage)
  | iccOpenLogicalChannel (aid : HidlString) (p2 : Int)
  | nvReadItem (itemId : Int)
  | nvWriteItem (itemId : Int) (value : HidlString)
  | setUiccSubscription (slot appIndex subType actStatus : Int)
  | requestIccSimAuthentication (authContext : Int) (authData aid : HidlString)
  | setDataProfile (profiles : List DataProfileInfo) (isRoaming : Bool)
  | setRadioCapability (rc : RadioCapability)
  | setAllowedCarriers (allowedCarriers excludedCarriers : List Carrier)
  | sendDeviceState (deviceStateType : Int) (state : Bool)
  | setIndicationFilter (indicationFilter : Int)

def RadioRequest.dispatch (version : Int) : RadioRequest → Dispatch
  | .dispatchVoid request => RilService.dispatchVoid request
  | .dispatchRaw request rawBytes => RilService.dispatchRaw request rawBytes
  | .dispatchString request str => RilService.dispatchString request str
  | .dispatchStrings request allowEmpty strings =>
    RilService.dispatchStrings request allowEmpty strings
  | .dispatchStringVec request data => RilService.dispatchStringVec request data
  | .dispatchInts request ints => RilService.dispatchInts request ints
  | .dispatchCallForwardStatus request callInfo =>
    RilService.dispatchCallForwardStatus request callInfo
  | .dispatchIccApdu request message => RilService.dispatchIccApdu request message
  | .dial dialInfo => RilService.dial dialInfo
  | .setupDataCall radioTechnology dataProfileInfo modemCognitive roamingAllowed isRoaming =>
    RilService.setupDataCall version radioTechnology dataProfileInfo modemCognitive roamingAllowed
      isRoaming
  | .iccIOForApp iccIo => RilService.iccIOForApp iccIo
  | .writeSmsToSim status pdu smsc => RilService.writeSmsToSim status pdu smsc
  | .setInitialAttachApn dataProfileInfo modemCognitive isRoaming =>
    RilService.setInitialAttachApn version dataProfileInfo modemCognitive isRoaming
  | .sendCdmaSms sms => RilService.sendCdmaSms sms
  | .acknowledgeLastIncomingCdmaSms errorClass smsCauseCode =>
    RilService.acknowledgeLastIncomingCdmaSms errorClass smsCauseCode
  | .setGsmBroadcastConfig configInfo => RilService.setGsmBroadcastConfig configInfo
  | .setCdmaBroadcastConfig configInfo => RilService.setCdmaBroadcastConfig configInfo
  | .writeSmsToRuim status message => RilService.writeSmsToRuim status message
  | .sendImsSms message => RilService.sendImsSms message
  | .iccOpenLogicalChannel aid p2 => RilService.iccOpenLogicalChannel version aid p2
  | .nvReadItem itemId => RilService.nvReadItem itemId
  | .nvWriteItem itemId value => RilService.nvWriteItem itemId value
  | .setUiccSubscription slot appIndex subType actStatus =>
    RilService.setUiccSubscription slot appIndex subType actStatus
  | .requestIccSimAuthentication authContext authData aid =>
    RilService.requestIccSimAuthentication authContext authData aid
  | .setDataProfile profiles isRoaming => RilService.setDataProfile version profiles isRoaming
  | .setRadioCapability rc => RilService.setRadioCapability rc
  | .setAllowedCarriers allowedCarriers excludedCarriers =>
    RilService.setAllowedCarriers allowedCarriers excludedCarriers
  | .sendDeviceState deviceStateType state =>
    RilService.sendDeviceState version deviceStateType state
  | .setIndicationFilter indicationFilter =>
    RilService.setIndicationFilter version indicationFilter

/-- A request, with what the vendor library does before `onRequest` returns, or what it
does by itself. -/
inductive RadioEvent where
  | request (call : RadioRequest) (serial slotId : Int) (allocated : Bool)
      (during : List RilEvent)
  | vendor (event : RilEvent)

def RadioState.step (build : RilBuild) (chosen : Nat → Option Nat) (state : RadioState)
    (event : RadioEvent) : RadioState :=
  if state.ril.crashed ∨ state.undefined then state
  else match event with
    | .request call serial slotId allocated during =>
      state.dispatch build chosen (call.dispatch build.version) serial slotId allocated during
    | .vendor event => { state with ril := state.ril.step build event }

end Msm8917Common.RilService
