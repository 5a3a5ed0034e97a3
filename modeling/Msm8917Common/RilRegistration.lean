import Msm8917Common.RilResponse

/-! Where the phone is registered, as `ril_service.cpp` takes it from the vendor's code:
`getVoiceRegistrationStateResponse` and `getDataRegistrationStateResponse`. The vendor's
code answers with a structure or, in its older form, with an array of texts. -/
namespace Msm8917Common.RilRegistration
open CLayout CText RilResponse

inductive RIL_CellInfoType where
  | none
  | gsm
  | cdma
  | lte
  | wcdma
  | tdScdma
  deriving DecidableEq

def RIL_CellInfoType.toWord : RIL_CellInfoType → Word
  | .none => 0
  | .gsm => 1
  | .cdma => 2
  | .lte => 3
  | .wcdma => 4
  | .tdScdma => 5

/-- The type with this number, or `none` where there is not one: the two take the same
way through each `switch`. -/
def RIL_CellInfoType.ofWord (word : Word) : RIL_CellInfoType :=
  if word = 1 then .gsm
  else if word = 2 then .cdma
  else if word = 3 then .lte
  else if word = 4 then .wcdma
  else if word = 5 then .tdScdma
  else .none

inductive RIL_RadioTechnology where
  | unknown
  | gprs
  | edge
  | umts
  | is95a
  | is95b
  | oneXRtt
  | evdo0
  | evdoA
  | hsdpa
  | hsupa
  | hspa
  | evdoB
  | ehrpd
  | lte
  | hspap
  | gsm
  | tdScdma
  | iwlan
  | lteCa
  deriving DecidableEq

/-- The technologies in the order of their numbers. -/
def radioTechnologies : List RIL_RadioTechnology :=
  [.unknown, .gprs, .edge, .umts, .is95a, .is95b, .oneXRtt, .evdo0, .evdoA, .hsdpa, .hsupa, .hspa,
    .evdoB, .ehrpd, .lte, .hspap, .gsm, .tdScdma, .iwlan, .lteCa]

def RIL_RadioTechnology.ofInt (radioTech : Int) : Option RIL_RadioTechnology :=
  if radioTech < 0 then none else radioTechnologies[radioTech.toNat]?

/-- The `switch` of `getCellInfoTypeRadioTechnology`. -/
def cellInfoTypeOf (radioTech : Int) : RIL_CellInfoType :=
  match RIL_RadioTechnology.ofInt radioTech with
  | some .gprs | some .edge | some .gsm => .gsm
  | some .umts | some .hsdpa | some .hsupa | some .hspa | some .hspap => .wcdma
  | some .is95a | some .is95b | some .oneXRtt | some .evdo0 | some .evdoA | some .evdoB
  | some .ehrpd => .cdma
  | some .lte | some .lteCa => .lte
  | some .tdScdma => .tdScdma
  | some .unknown | some .iwlan | none => .none

/-- As in all that follows, `none` is a read of memory that cannot be read. -/
def getCellInfoTypeRadioTechnology (strings : Strings) (rat : Word) : Option RIL_CellInfoType :=
  if rat = 0 then some .none
  else (strings rat).map fun text => cellInfoTypeOf (atoi text)

abbrev Chars := List.Vector Byte 4

def isDigit (byte : Byte) : Bool := 48 ≤ byte.toNat && byte.toNat ≤ 57

/-- The digits in front of the first zero, if there are two or three and nothing else. -/
def convertRilPlmnValue (rawValue : Chars) : List Byte :=
  let text := rawValue.toList.takeWhile (· ≠ 0)
  if text.length < 2 ∨ 3 < text.length then []
  else if text.all isDigit then text
  else []

/-- `bsic` and the first letters of the operator's name share a word. -/
structure RIL_CellIdentityGsm_v12 where
  mcc : Chars
  mnc : Chars
  lac : Word
  cid : Word
  arfcn : Word
  bsic : Byte
  alphaShort : List.Vector Byte 3

structure RIL_CellIdentityWcdma_v12 where
  mcc : Chars
  mnc : Chars
  lac : Word
  cid : Word
  psc : Word
  uarfcn : Word

structure RIL_CellIdentityCdma where
  networkId : Word
  systemId : Word
  basestationId : Word
  longitude : Word
  latitude : Word

structure RIL_CellIdentityLte_v12 where
  mcc : Chars
  mnc : Chars
  ci : Word
  pci : Word
  tac : Word
  earfcn : Word

structure RIL_CellIdentityTdscdma where
  mcc : Chars
  mnc : Chars
  lac : Word
  cid : Word
  cpid : Word

def MAX_OPERATOR_NAME_LEN : Nat := 512

/-- The words of the union of the five: the largest is `RIL_CellIdentityLte_v12` with
two names of the operator and the bandwidth. -/
def unionSize : Nat := 6 + 2 * MAX_OPERATOR_NAME_LEN / 4 + 1

structure RIL_CellIdentity_v16 where
  cellInfoType : Word
  union : List.Vector Word unionSize

structure RIL_VoiceRegistrationStateResponse where
  regState : Word
  rat : Word
  cssSupported : Word
  roamingIndicator : Word
  systemIsInPrl : Word
  defaultRoamingIndicator : Word
  reasonForDenial : Word
  cellIdentity : RIL_CellIdentity_v16

structure RIL_DataRegistrationStateResponse where
  regState : Word
  rat : Word
  reasonDataDenied : Word
  maxDataCalls : Word
  cellIdentity : RIL_CellIdentity_v16

namespace Layouts
open Layout

/-- The members of the union, up to what is read of them. -/
def gsm : Layout RIL_CellIdentityGsm_v12 :=
  (bytes.pair (bytes.pair (word.pair (word.pair (word.pair (bytes.as consEquiv.symm)))))).as
    { toFun := fun (a, b, c, d, e, f, g) => ⟨a, b, c, d, e, f, g⟩
      invFun := fun gsm =>
        (gsm.mcc, gsm.mnc, gsm.lac, gsm.cid, gsm.arfcn, gsm.bsic, gsm.alphaShort)
      left_inv := fun _ => rfl
      right_inv := fun _ => rfl }

def wcdma : Layout RIL_CellIdentityWcdma_v12 :=
  (bytes.pair (bytes.pair (word.pair (word.pair (word.pair word))))).as
    { toFun := fun (a, b, c, d, e, f) => ⟨a, b, c, d, e, f⟩
      invFun := fun wcdma =>
        (wcdma.mcc, wcdma.mnc, wcdma.lac, wcdma.cid, wcdma.psc, wcdma.uarfcn)
      left_inv := fun _ => rfl
      right_inv := fun _ => rfl }

def cdma : Layout RIL_CellIdentityCdma :=
  (word.pair (word.pair (word.pair (word.pair word)))).as
    { toFun := fun (a, b, c, d, e) => ⟨a, b, c, d, e⟩
      invFun := fun cdma =>
        (cdma.networkId, cdma.systemId, cdma.basestationId, cdma.longitude, cdma.latitude)
      left_inv := fun _ => rfl
      right_inv := fun _ => rfl }

def lte : Layout RIL_CellIdentityLte_v12 :=
  (bytes.pair (bytes.pair (word.pair (word.pair (word.pair word))))).as
    { toFun := fun (a, b, c, d, e, f) => ⟨a, b, c, d, e, f⟩
      invFun := fun lte => (lte.mcc, lte.mnc, lte.ci, lte.pci, lte.tac, lte.earfcn)
      left_inv := fun _ => rfl
      right_inv := fun _ => rfl }

def tdscdma : Layout RIL_CellIdentityTdscdma :=
  (bytes.pair (bytes.pair (word.pair (word.pair word)))).as
    { toFun := fun (a, b, c, d, e) => ⟨a, b, c, d, e⟩
      invFun := fun tdscdma =>
        (tdscdma.mcc, tdscdma.mnc, tdscdma.lac, tdscdma.cid, tdscdma.cpid)
      left_inv := fun _ => rfl
      right_inv := fun _ => rfl }

def cellIdentity : Layout RIL_CellIdentity_v16 :=
  (word.pair (word.array unionSize)).as
    { toFun := fun parts => ⟨parts.1, parts.2⟩
      invFun := fun identity => (identity.cellInfoType, identity.union)
      left_inv := fun _ => rfl
      right_inv := fun _ => rfl }

def voice : Layout RIL_VoiceRegistrationStateResponse :=
  (word.pair (word.pair (word.pair (word.pair (word.pair (word.pair
    (word.pair cellIdentity))))))).as
    { toFun := fun (a, b, c, d, e, f, g, h) => ⟨a, b, c, d, e, f, g, h⟩
      invFun := fun voice => (voice.regState, voice.rat, voice.cssSupported,
        voice.roamingIndicator, voice.systemIsInPrl, voice.defaultRoamingIndicator,
        voice.reasonForDenial, voice.cellIdentity)
      left_inv := fun _ => rfl
      right_inv := fun _ => rfl }

def data : Layout RIL_DataRegistrationStateResponse :=
  (word.pair (word.pair (word.pair (word.pair cellIdentity)))).as
    { toFun := fun (a, b, c, d, e) => ⟨a, b, c, d, e⟩
      invFun := fun data =>
        (data.regState, data.rat, data.reasonDataDenied, data.maxDataCalls, data.cellIdentity)
      left_inv := fun _ => rfl
      right_inv := fun _ => rfl }

end Layouts

structure CellIdentityGsm where
  mcc : List Byte
  mnc : List Byte
  lac : Word
  cid : Word
  arfcn : Word
  bsic : Byte
  deriving DecidableEq

structure CellIdentityWcdma where
  mcc : List Byte
  mnc : List Byte
  lac : Word
  cid : Word
  psc : Word
  uarfcn : Word
  deriving DecidableEq

structure CellIdentityCdma where
  networkId : Word
  systemId : Word
  baseStationId : Word
  longitude : Word
  latitude : Word
  deriving DecidableEq

structure CellIdentityLte where
  mcc : List Byte
  mnc : List Byte
  ci : Word
  pci : Word
  tac : Word
  earfcn : Word
  deriving DecidableEq

structure CellIdentityTdscdma where
  mcc : List Byte
  mnc : List Byte
  lac : Word
  cid : Word
  cpid : Word
  deriving DecidableEq

/-- At most one of the lists has an element. -/
structure CellIdentity where
  cellInfoType : Word
  cellIdentityGsm : List CellIdentityGsm
  cellIdentityWcdma : List CellIdentityWcdma
  cellIdentityCdma : List CellIdentityCdma
  cellIdentityLte : List CellIdentityLte
  cellIdentityTdscdma : List CellIdentityTdscdma
  deriving DecidableEq

def CellIdentity.ofType (cellInfoType : Word) : CellIdentity := ⟨cellInfoType, [], [], [], [], []⟩

def fillCellIdentityResponse (rilCellIdentity : RIL_CellIdentity_v16) : Option CellIdentity :=
  let cellIdentity := CellIdentity.ofType rilCellIdentity.cellInfoType
  let memory := rilCellIdentity.union.toList
  match RIL_CellInfoType.ofWord rilCellIdentity.cellInfoType with
  | .gsm =>
    (Layouts.gsm.read memory).map fun gsm =>
      { cellIdentity with
        cellIdentityGsm :=
          [{ mcc := convertRilPlmnValue gsm.mcc
             mnc := convertRilPlmnValue gsm.mnc
             lac := gsm.lac
             cid := gsm.cid
             arfcn := gsm.arfcn
             bsic := gsm.bsic }] }
  | .wcdma =>
    (Layouts.wcdma.read memory).map fun wcdma =>
      { cellIdentity with
        cellIdentityWcdma :=
          [{ mcc := convertRilPlmnValue wcdma.mcc
             mnc := convertRilPlmnValue wcdma.mnc
             lac := wcdma.lac
             cid := wcdma.cid
             psc := wcdma.psc
             uarfcn := wcdma.uarfcn }] }
  | .cdma =>
    (Layouts.cdma.read memory).map fun cdma =>
      { cellIdentity with
        cellIdentityCdma :=
          [{ networkId := cdma.networkId
             systemId := cdma.systemId
             baseStationId := cdma.basestationId
             longitude := cdma.longitude
             latitude := cdma.latitude }] }
  | .lte =>
    (Layouts.lte.read memory).map fun lte =>
      { cellIdentity with
        cellIdentityLte :=
          [{ mcc := convertRilPlmnValue lte.mcc
             mnc := convertRilPlmnValue lte.mnc
             ci := lte.ci
             pci := lte.pci
             tac := lte.tac
             earfcn := lte.earfcn }] }
  | .tdScdma =>
    (Layouts.tdscdma.read memory).map fun tdscdma =>
      { cellIdentity with
        cellIdentityTdscdma :=
          [{ mcc := convertRilPlmnValue tdscdma.mcc
             mnc := convertRilPlmnValue tdscdma.mnc
             lac := tdscdma.lac
             cid := tdscdma.cid
             cpid := tdscdma.cpid }] }
  | .none => some cellIdentity

/-- An entry of the array as a number, or `defaultVal` where it is `NULL`. -/
def ATOI_NULL_HANDLED_DEF (strings : Strings) (entry defaultVal : Word) : Option Word :=
  if entry = 0 then some defaultVal
  else (strings entry).map fun text => .ofInt 32 (atoi text)

def ATOI_NULL_HANDLED (strings : Strings) (entry : Word) : Option Word :=
  ATOI_NULL_HANDLED_DEF strings entry (-1)

section Entries
variable (strings : Strings) (response : List Word) (index numStrings : Nat)

/-- The entry with this index as a number, or -1 where there is none. -/
def convertEntry (base : Nat) : Option Word :=
  if index < numStrings then
    response[index]?.bind fun entry =>
      if entry = 0 then some (-1)
      else (strings entry).map fun text => .ofInt 32 (strtol base text)
  else some (-1)

def convertResponseStringEntryToInt : Option Word :=
  convertEntry strings response index numStrings 10

def convertResponseHexStringEntryToInt : Option Word :=
  convertEntry strings response index numStrings 16

end Entries

/-- The union after `memset` to -1. -/
def unsetUnion : List.Vector Word unionSize := List.Vector.replicate unionSize (-1)

/-- Assignments to the fields of one member of the union. -/
def assign {α : Type} (member : Layout α) (change : α → α) (union : List.Vector Word unionSize) :
    List.Vector Word unionSize :=
  ⟨member.update change union.toList, (member.length_update change _).trans union.toList_length⟩

section Fill
variable (strings : Strings) (numStrings : Nat) (response : List Word)

def fillCellIdentityFromVoiceRegStateResponseString : Option CellIdentity := do
  let rat ← response[3]?
  let cellInfoType ← getCellInfoTypeRadioTechnology strings rat
  let hexEntry := fun index =>
    convertResponseHexStringEntryToInt strings response index numStrings
  let entry := fun index => convertResponseStringEntryToInt strings response index numStrings
  let union ←
    match cellInfoType with
    | .gsm => do
      let lac ← hexEntry 1
      let cid ← hexEntry 2
      some (assign Layouts.gsm (fun gsm => { gsm with lac := lac, cid := cid }) unsetUnion)
    | .wcdma => do
      let lac ← hexEntry 1
      let cid ← hexEntry 2
      let psc ← entry 14
      some (assign Layouts.wcdma
        (fun wcdma => { wcdma with lac := lac, cid := cid, psc := psc }) unsetUnion)
    | .tdScdma => do
      let lac ← hexEntry 1
      let cid ← hexEntry 2
      some (assign Layouts.tdscdma (fun tdscdma => { tdscdma with lac := lac, cid := cid })
        unsetUnion)
    | .cdma => do
      let basestationId ← entry 4
      let longitude ← entry 5
      let latitude ← entry 6
      let systemId ← entry 8
      let networkId ← entry 9
      some (assign Layouts.cdma
        (fun _ => ⟨networkId, systemId, basestationId, longitude, latitude⟩) unsetUnion)
    | .lte => do
      let tac ← hexEntry 1
      let ci ← hexEntry 2
      some (assign Layouts.lte (fun lte => { lte with tac := tac, ci := ci }) unsetUnion)
    | .none => some unsetUnion
  fillCellIdentityResponse { cellInfoType := cellInfoType.toWord, union := union }

def fillCellIdentityFromDataRegStateResponseString : Option CellIdentity := do
  let rat ← response[3]?
  let cellInfoType ← getCellInfoTypeRadioTechnology strings rat
  let hexEntry := fun index =>
    convertResponseHexStringEntryToInt strings response index numStrings
  let entry := fun index => convertResponseStringEntryToInt strings response index numStrings
  let union ←
    match cellInfoType with
    | .gsm => do
      let lac ← hexEntry 1
      let cid ← hexEntry 2
      some (assign Layouts.gsm (fun gsm => { gsm with lac := lac, cid := cid }) unsetUnion)
    | .wcdma => do
      let lac ← hexEntry 1
      let cid ← hexEntry 2
      some (assign Layouts.wcdma (fun wcdma => { wcdma with lac := lac, cid := cid }) unsetUnion)
    | .tdScdma => do
      let lac ← hexEntry 1
      let cid ← hexEntry 2
      some (assign Layouts.tdscdma (fun tdscdma => { tdscdma with lac := lac, cid := cid })
        unsetUnion)
    | .lte => do
      let tac ← entry 6
      let pci ← entry 7
      let ci ← entry 8
      some (assign Layouts.lte (fun lte => { lte with tac := tac, pci := pci, ci := ci })
        unsetUnion)
    | .cdma | .none => some unsetUnion
  fillCellIdentityResponse { cellInfoType := cellInfoType.toWord, union := union }

end Fill

/-- The loop of `looksLikeLegacyRegistrationStringArray`. -/
def inspect : List Word → Nat → Bool
  | [], plausiblePointers => decide (0 < plausiblePointers)
  | value :: rest, plausiblePointers =>
    if value = 0 then inspect rest plausiblePointers
    else if value.toNat < 4096 then false
    else inspect rest (plausiblePointers + 1)

def looksLikeLegacyRegistrationStringArray (response : Response) (minimumStrings : Nat) : Bool :=
  if response.responseLen < minimumStrings * 4 ∨ response.responseLen % 4 ≠ 0 then false
  else
    let count := response.responseLen / 4
    let inspectCount := if count < 6 then count else 6
    inspect (response.words.take inspectCount) 0

/-- `cssSupported` is a `bool` of the interface. -/
structure VoiceRegStateResult where
  regState : Word
  rat : Word
  cssSupported : Bool
  roamingIndicator : Word
  systemIsInPrl : Word
  defaultRoamingIndicator : Word
  reasonForDenial : Word
  cellIdentity : CellIdentity
  deriving DecidableEq

def VoiceRegStateResult.empty : VoiceRegStateResult := ⟨0, 0, false, 0, 0, 0, 0, .ofType 0⟩

structure DataRegStateResult where
  regState : Word
  rat : Word
  reasonDataDenied : Word
  maxDataCalls : Word
  cellIdentity : CellIdentity
  deriving DecidableEq

def DataRegStateResult.empty : DataRegStateResult := ⟨0, 0, 0, 0, .ofType 0⟩

section Responses
variable (strings : Strings)

/-- The branch for an array of texts. -/
def voiceFromStrings (resp : List Word) (numStrings : Nat) : Option VoiceRegStateResult := do
  let regState ← resp[0]?.bind (ATOI_NULL_HANDLED_DEF strings · 4)
  let rat ← resp[3]?.bind (ATOI_NULL_HANDLED strings ·)
  let cssSupported ← resp[7]?.bind (ATOI_NULL_HANDLED_DEF strings · 0)
  let roamingIndicator ← resp[10]?.bind (ATOI_NULL_HANDLED strings ·)
  let systemIsInPrl ← resp[11]?.bind (ATOI_NULL_HANDLED_DEF strings · 0)
  let defaultRoamingIndicator ← resp[12]?.bind (ATOI_NULL_HANDLED_DEF strings · 0)
  let reasonForDenial ← resp[13]?.bind (ATOI_NULL_HANDLED_DEF strings · 0)
  let cellIdentity ← fillCellIdentityFromVoiceRegStateResponseString strings numStrings resp
  some
    { regState := regState
      rat := rat
      cssSupported := cssSupported ≠ 0
      roamingIndicator := roamingIndicator
      systemIsInPrl := systemIsInPrl
      defaultRoamingIndicator := defaultRoamingIndicator
      reasonForDenial := reasonForDenial
      cellIdentity := cellIdentity }

/-- The branch for a structure. -/
def voiceFromStructure (response : List Word) : Option VoiceRegStateResult := do
  let voiceRegState ← Layouts.voice.read response
  let cellIdentity ← fillCellIdentityResponse voiceRegState.cellIdentity
  some
    { regState := voiceRegState.regState
      rat := voiceRegState.rat
      cssSupported := voiceRegState.cssSupported ≠ 0
      roamingIndicator := voiceRegState.roamingIndicator
      systemIsInPrl := voiceRegState.systemIsInPrl
      defaultRoamingIndicator := voiceRegState.defaultRoamingIndicator
      reasonForDenial := voiceRegState.reasonForDenial
      cellIdentity := cellIdentity }

def dataFromStrings (resp : List Word) (numStrings : Nat) : Option DataRegStateResult := do
  let regState ← resp[0]?.bind (ATOI_NULL_HANDLED_DEF strings · 4)
  let rat ← resp[3]?.bind (ATOI_NULL_HANDLED_DEF strings · 0)
  let reasonDataDenied ← resp[4]?.bind (ATOI_NULL_HANDLED strings ·)
  let maxDataCalls ← resp[5]?.bind (ATOI_NULL_HANDLED_DEF strings · 1)
  let cellIdentity ← fillCellIdentityFromDataRegStateResponseString strings numStrings resp
  some
    { regState := regState
      rat := rat
      reasonDataDenied := reasonDataDenied
      maxDataCalls := maxDataCalls
      cellIdentity := cellIdentity }

def dataFromStructure (response : List Word) : Option DataRegStateResult := do
  let dataRegState ← Layouts.data.read response
  let cellIdentity ← fillCellIdentityResponse dataRegState.cellIdentity
  some
    { regState := dataRegState.regState
      rat := dataRegState.rat
      reasonDataDenied := dataRegState.reasonDataDenied
      maxDataCalls := dataRegState.maxDataCalls
      cellIdentity := cellIdentity }

/-- How both responses tell the forms apart: the array, the structure and what is neither. -/
def registrationResponse {Result : Type} (minimumStrings structureSize : Nat)
    (fromStrings : List Word → Nat → Option Result) (fromStructure : List Word → Option Result)
    (empty : Result) (serial : Word) (responseType : Nat) (e : Word) (response : Option Response) :
    Option (RadioResponseInfo × Result) :=
  let responseInfo := populateResponseInfo serial responseType e
  match response with
  | none => some (responseInfo.invalid e, empty)
  | some response =>
    let numStrings := response.responseLen / 4
    if looksLikeLegacyRegistrationStringArray response minimumStrings then
      (fromStrings response.words numStrings).map fun result => (responseInfo, result)
    else if structureSize ≤ response.responseLen then
      (fromStructure response.words).map fun result => (responseInfo, result)
    else some (responseInfo.invalid e, empty)

/-- What the framework is told of the registration for calls. -/
def getVoiceRegistrationStateResponse (serial : Word) (responseType : Nat) (e : Word)
    (response : Option Response) : Option (RadioResponseInfo × VoiceRegStateResult) :=
  registrationResponse 15 (4 * Layouts.voice.size) (voiceFromStrings strings) voiceFromStructure
    .empty serial responseType e response

/-- What the framework is told of the registration for data. -/
def getDataRegistrationStateResponse (serial : Word) (responseType : Nat) (e : Word)
    (response : Option Response) : Option (RadioResponseInfo × DataRegStateResult) :=
  registrationResponse 6 (4 * Layouts.data.size) (dataFromStrings strings) dataFromStructure
    .empty serial responseType e response

end Responses

end Msm8917Common.RilRegistration
