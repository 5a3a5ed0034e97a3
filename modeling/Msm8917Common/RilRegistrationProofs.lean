import Msm8917Common.RilRegistration

/-! What the framework learns of the registration from a structure. The two forms of the
answer are told apart by the first six words alone: a structure is taken for an array of
texts where none of them is a small number and not all of them are zero. -/
namespace Msm8917Common.RilRegistration
open CLayout CText RilResponse

/-- None of the words is too small for a pointer, and not all of them are `NULL`. -/
def LookLikePointers (words : List Word) : Prop :=
  (∀ word ∈ words, word = 0 ∨ 4096 ≤ word.toNat) ∧ ∃ word ∈ words, word ≠ 0

theorem inspect_iff {words : List Word} {plausiblePointers : Nat} :
    inspect words plausiblePointers = true ↔
      (∀ word ∈ words, word = 0 ∨ 4096 ≤ word.toNat) ∧
        (0 < plausiblePointers ∨ ∃ word ∈ words, word ≠ 0) := by
  induction words generalizing plausiblePointers with
  | nil => simp [inspect]
  | cons value rest ih =>
    unfold inspect
    by_cases null : value = 0
    · rw [if_pos null, ih, List.forall_mem_cons, List.exists_mem_cons_iff]
      simp only [null, true_or, true_and, ne_eq, not_true_eq_false, false_or]
    · by_cases small : value.toNat < 4096
      · rw [if_neg null, if_pos small, List.forall_mem_cons]
        have neither : ¬ (value = 0 ∨ 4096 ≤ value.toNat) :=
          fun either => either.elim null (Nat.not_le.mpr small)
        simp only [neither, false_and, Bool.false_eq_true]
      · rw [if_neg null, if_neg small, ih, List.forall_mem_cons, List.exists_mem_cons_iff]
        simp only [Nat.not_lt.mp small, or_true, true_and, Nat.succ_pos, true_or, and_true, null,
          ne_eq, not_false_eq_true]

theorem looksLike_iff {response : Response} {minimumStrings : Nat} :
    looksLikeLegacyRegistrationStringArray response minimumStrings = true ↔
      minimumStrings * 4 ≤ response.responseLen ∧ response.responseLen % 4 = 0 ∧
        LookLikePointers (response.words.take 6) := by
  have inspected : response.words.take
      (if response.responseLen / 4 < 6 then response.responseLen / 4 else 6) =
      response.words.take 6 := by
    split
    · next short =>
      rw [← response.whole, List.take_length, List.take_of_length_le]
      rw [response.whole]
      exact short.le
    · rfl
  unfold looksLikeLegacyRegistrationStringArray
  split
  · next refused =>
    constructor
    · exact fun never => absurd never Bool.false_ne_true
    · rintro ⟨long, whole, _⟩
      exact absurd refused (not_or.mpr ⟨Nat.not_lt.mpr long, not_not.mpr whole⟩)
  · next accepted =>
    obtain ⟨long, whole⟩ := not_or.mp accepted
    dsimp only
    rw [inspected, inspect_iff]
    simp only [Nat.not_lt.mp long, not_not.mp whole, true_and, Nat.lt_irrefl, false_or,
      LookLikePointers]

/-- The code of a country or of an operator: two or three digits. -/
def IsPlmn (digits : List Byte) : Prop :=
  digits.all isDigit = true ∧ 2 ≤ digits.length ∧ digits.length ≤ 3

/-- Four characters hold a code and a zero, or no code. -/
def HoldsPlmn (raw : Chars) (text : List Byte) : Prop :=
  (IsPlmn text ∧ text ++ [0] <+: raw.toList) ∨
    (text = [] ∧ ∀ digits, IsPlmn digits → ¬ digits ++ [0] <+: raw.toList)

/-- A text in front of a zero ends there. -/
theorem takeWhile_of_held {digits memory : List Byte} (plmn : IsPlmn digits)
    (held : digits ++ [0] <+: memory) : memory.takeWhile (· ≠ 0) = digits := by
  obtain ⟨rest, rfl⟩ := held
  have noZero : ∀ byte ∈ digits, decide (byte ≠ 0) = true := by
    intro byte member
    have digit := List.all_eq_true.mp plmn.1 byte member
    refine decide_eq_true fun zero => ?_
    rw [zero] at digit
    exact absurd digit (by decide)
  rw [List.append_assoc, List.takeWhile_append_of_pos noZero]
  simp

theorem convertRilPlmnValue_holds (raw : Chars) : HoldsPlmn raw (convertRilPlmnValue raw) := by
  have prefixes : raw.toList.takeWhile (· ≠ 0) ++ raw.toList.dropWhile (· ≠ 0) = raw.toList :=
    List.takeWhile_append_dropWhile
  have others (refused : ¬ IsPlmn (raw.toList.takeWhile (· ≠ 0))) :
      ∀ digits, IsPlmn digits → ¬ digits ++ [0] <+: raw.toList := by
    intro digits plmn held
    rw [takeWhile_of_held plmn held] at refused
    exact refused plmn
  unfold convertRilPlmnValue
  generalize text : raw.toList.takeWhile (· ≠ 0) = taken at prefixes others
  dsimp only
  split
  · next length => exact .inr ⟨rfl, others fun plmn => by
      have bounds := plmn.2
      omega⟩
  · next length =>
    split
    · next digits =>
      have plmn : IsPlmn taken := ⟨digits, by omega, by omega⟩
      refine .inl ⟨plmn, ?_⟩
      -- Four characters do not end with a code of three: a zero comes next.
      cases behind : raw.toList.dropWhile (· ≠ 0) with
      | nil =>
        rw [behind, List.append_nil] at prefixes
        have four : taken.length = 4 := (congrArg List.length prefixes).trans raw.toList_length
        exact absurd plmn.2.2 (by omega)
      | cons byte rest =>
        have zero : byte = 0 := by
          have stopped := List.head?_dropWhile_not (fun byte : Byte => decide (byte ≠ 0)) raw.toList
          rw [behind] at stopped
          simpa using stopped
        rw [behind, zero] at prefixes
        exact ⟨rest, by rw [List.append_assoc]; exact prefixes⟩
    · next digits => exact .inr ⟨rfl, others fun plmn => digits plmn.1⟩

/-- A cell as the vendor's code describes it, by one member of the union or by none. -/
inductive Cell where
  | gsm (identity : RIL_CellIdentityGsm_v12)
  | wcdma (identity : RIL_CellIdentityWcdma_v12)
  | cdma (identity : RIL_CellIdentityCdma)
  | lte (identity : RIL_CellIdentityLte_v12)
  | tdscdma (identity : RIL_CellIdentityTdscdma)
  | none (cellInfoType : Word) (unknown : RIL_CellInfoType.ofWord cellInfoType = .none)

def Cell.cellInfoType : Cell → Word
  | .gsm _ => RIL_CellInfoType.gsm.toWord
  | .wcdma _ => RIL_CellInfoType.wcdma.toWord
  | .cdma _ => RIL_CellInfoType.cdma.toWord
  | .lte _ => RIL_CellInfoType.lte.toWord
  | .tdscdma _ => RIL_CellInfoType.tdScdma.toWord
  | .none cellInfoType _ => cellInfoType

def Cell.words : Cell → List Word
  | .gsm identity => Layouts.gsm.write identity
  | .wcdma identity => Layouts.wcdma.write identity
  | .cdma identity => Layouts.cdma.write identity
  | .lte identity => Layouts.lte.write identity
  | .tdscdma identity => Layouts.tdscdma.write identity
  | .none _ _ => []

/-- The type and the union describe a cell, whatever the rest of the union is. -/
structure Cell.Written (cell : Cell) (identity : RIL_CellIdentity_v16) : Prop where
  type : identity.cellInfoType = cell.cellInfoType
  member : cell.words <+: identity.union.toList

/-- What the framework is told of a cell. -/
inductive CellReports : Cell → CellIdentity → Prop where
  | gsm {identity : RIL_CellIdentityGsm_v12} {mcc mnc : List Byte} :
    HoldsPlmn identity.mcc mcc → HoldsPlmn identity.mnc mnc →
    CellReports (.gsm identity) { CellIdentity.ofType RIL_CellInfoType.gsm.toWord with
      cellIdentityGsm :=
        [⟨mcc, mnc, identity.lac, identity.cid, identity.arfcn, identity.bsic⟩] }
  | wcdma {identity : RIL_CellIdentityWcdma_v12} {mcc mnc : List Byte} :
    HoldsPlmn identity.mcc mcc → HoldsPlmn identity.mnc mnc →
    CellReports (.wcdma identity) { CellIdentity.ofType RIL_CellInfoType.wcdma.toWord with
      cellIdentityWcdma :=
        [⟨mcc, mnc, identity.lac, identity.cid, identity.psc, identity.uarfcn⟩] }
  | cdma {identity : RIL_CellIdentityCdma} :
    CellReports (.cdma identity) { CellIdentity.ofType RIL_CellInfoType.cdma.toWord with
      cellIdentityCdma := [⟨identity.networkId, identity.systemId, identity.basestationId,
        identity.longitude, identity.latitude⟩] }
  | lte {identity : RIL_CellIdentityLte_v12} {mcc mnc : List Byte} :
    HoldsPlmn identity.mcc mcc → HoldsPlmn identity.mnc mnc →
    CellReports (.lte identity) { CellIdentity.ofType RIL_CellInfoType.lte.toWord with
      cellIdentityLte :=
        [⟨mcc, mnc, identity.ci, identity.pci, identity.tac, identity.earfcn⟩] }
  | tdscdma {identity : RIL_CellIdentityTdscdma} {mcc mnc : List Byte} :
    HoldsPlmn identity.mcc mcc → HoldsPlmn identity.mnc mnc →
    CellReports (.tdscdma identity) { CellIdentity.ofType RIL_CellInfoType.tdScdma.toWord with
      cellIdentityTdscdma := [⟨mcc, mnc, identity.lac, identity.cid, identity.cpid⟩] }
  | none {cellInfoType : Word} (unknown : RIL_CellInfoType.ofWord cellInfoType = .none) :
    CellReports (.none cellInfoType unknown) (CellIdentity.ofType cellInfoType)

theorem read_of_begins {α : Type} {layout : Layout α} {value : α} {memory : List Word}
    (written : layout.write value <+: memory) : layout.read memory = some value := by
  obtain ⟨rest, rfl⟩ := written
  exact layout.read_write value rest

/-- A cell that is written is reported. -/
theorem fillCellIdentityResponse_reports {cell : Cell} {identity : RIL_CellIdentity_v16}
    (written : cell.Written identity) :
    ∃ report, fillCellIdentityResponse identity = some report ∧ CellReports cell report := by
  obtain ⟨cellInfoType, union⟩ := identity
  obtain ⟨rfl, member⟩ := written
  cases cell with
  | gsm identity =>
    have read : Layouts.gsm.read union.toList = some identity := read_of_begins member
    exact ⟨_, congrArg (Option.map _) read,
      .gsm (convertRilPlmnValue_holds _) (convertRilPlmnValue_holds _)⟩
  | wcdma identity =>
    have read : Layouts.wcdma.read union.toList = some identity := read_of_begins member
    exact ⟨_, congrArg (Option.map _) read,
      .wcdma (convertRilPlmnValue_holds _) (convertRilPlmnValue_holds _)⟩
  | cdma identity =>
    have read : Layouts.cdma.read union.toList = some identity := read_of_begins member
    exact ⟨_, congrArg (Option.map _) read, .cdma⟩
  | lte identity =>
    have read : Layouts.lte.read union.toList = some identity := read_of_begins member
    exact ⟨_, congrArg (Option.map _) read,
      .lte (convertRilPlmnValue_holds _) (convertRilPlmnValue_holds _)⟩
  | tdscdma identity =>
    have read : Layouts.tdscdma.read union.toList = some identity := read_of_begins member
    exact ⟨_, congrArg (Option.map _) read,
      .tdscdma (convertRilPlmnValue_holds _) (convertRilPlmnValue_holds _)⟩
  | none cellInfoType unknown =>
    refine ⟨CellIdentity.ofType cellInfoType, ?_, .none unknown⟩
    simp only [fillCellIdentityResponse, Cell.cellInfoType, unknown]

/-- The registration states of `RIL_RegState`. -/
def regStates : List Word := [0, 1, 2, 3, 4, 5, 10, 12, 13, 14]

/-- A state that looks like a pointer is the first one, and looks like `NULL`. -/
theorem eq_zero_of_documented {regState : Word} (documented : regState ∈ regStates)
    (pointer : regState = 0 ∨ 4096 ≤ regState.toNat) : regState = 0 := by
  have all : ∀ regState ∈ regStates, regState.toNat < 4096 := by simp [regStates]
  have small := all regState documented
  exact pointer.resolve_right (by omega)

/-- What the framework is told of a structure. -/
structure VoiceReports (state : RIL_VoiceRegistrationStateResponse) (cell : Cell)
    (report : VoiceRegStateResult) : Prop where
  regState : report.regState = state.regState
  rat : report.rat = state.rat
  cssSupported : report.cssSupported = decide (state.cssSupported ≠ 0)
  roamingIndicator : report.roamingIndicator = state.roamingIndicator
  systemIsInPrl : report.systemIsInPrl = state.systemIsInPrl
  defaultRoamingIndicator : report.defaultRoamingIndicator = state.defaultRoamingIndicator
  reasonForDenial : report.reasonForDenial = state.reasonForDenial
  cellIdentity : CellReports cell report.cellIdentity

structure DataReports (state : RIL_DataRegistrationStateResponse) (cell : Cell)
    (report : DataRegStateResult) : Prop where
  regState : report.regState = state.regState
  rat : report.rat = state.rat
  reasonDataDenied : report.reasonDataDenied = state.reasonDataDenied
  maxDataCalls : report.maxDataCalls = state.maxDataCalls
  cellIdentity : CellReports cell report.cellIdentity

theorem voiceFromStructure_reports {state : RIL_VoiceRegistrationStateResponse} {cell : Cell}
    {memory : List Word} (written : cell.Written state.cellIdentity)
    (begins : Layouts.voice.write state <+: memory) :
    ∃ report, voiceFromStructure memory = some report ∧ VoiceReports state cell report := by
  obtain ⟨cellIdentity, filled, reports⟩ := fillCellIdentityResponse_reports written
  simp only [voiceFromStructure, read_of_begins begins, filled, Option.bind_eq_bind,
    Option.bind_some]
  exact ⟨_, rfl, rfl, rfl, rfl, rfl, rfl, rfl, rfl, reports⟩

theorem dataFromStructure_reports {state : RIL_DataRegistrationStateResponse} {cell : Cell}
    {memory : List Word} (written : cell.Written state.cellIdentity)
    (begins : Layouts.data.write state <+: memory) :
    ∃ report, dataFromStructure memory = some report ∧ DataReports state cell report := by
  obtain ⟨cellIdentity, filled, reports⟩ := fillCellIdentityResponse_reports written
  simp only [dataFromStructure, read_of_begins begins, filled, Option.bind_eq_bind,
    Option.bind_some]
  exact ⟨_, rfl, rfl, rfl, rfl, rfl, reports⟩

/-- An array that begins with `NULL` leaves the state of the registration unknown. -/
theorem regState_voiceFromStrings {strings : Strings} {resp : List Word} {numStrings : Nat}
    {report : VoiceRegStateResult} (null : resp[0]? = some 0)
    (read : voiceFromStrings strings resp numStrings = some report) : report.regState = 4 := by
  simp only [voiceFromStrings, null, Option.bind_some, ATOI_NULL_HANDLED_DEF, if_true,
    Option.bind_eq_bind, Option.bind_eq_some_iff] at read
  obtain ⟨_, _, _, _, _, _, _, _, _, _, _, _, _, _, same⟩ := read
  cases same
  rfl

theorem regState_dataFromStrings {strings : Strings} {resp : List Word} {numStrings : Nat}
    {report : DataRegStateResult} (null : resp[0]? = some 0)
    (read : dataFromStrings strings resp numStrings = some report) : report.regState = 4 := by
  simp only [dataFromStrings, null, Option.bind_some, ATOI_NULL_HANDLED_DEF, if_true,
    Option.bind_eq_bind, Option.bind_eq_some_iff] at read
  obtain ⟨_, _, _, _, _, _, _, _, same⟩ := read
  cases same
  rfl

theorem size_voice : Layouts.voice.size = 271 := by
  simp [Layouts.voice, Layouts.cellIdentity, unionSize, MAX_OPERATOR_NAME_LEN]

theorem size_data : Layouts.data.size = 268 := by
  simp [Layouts.data, Layouts.cellIdentity, unionSize, MAX_OPERATOR_NAME_LEN]

/-- What makes a structure an array of texts for the code that reads it. -/
def TakenForStrings (response : Response) (firstSix : List Word) : Prop :=
  response.responseLen % 4 = 0 ∧ LookLikePointers firstSix

/-- The first six words of a structure. -/
def RIL_VoiceRegistrationStateResponse.firstSix (state : RIL_VoiceRegistrationStateResponse) :
    List Word :=
  [state.regState, state.rat, state.cssSupported, state.roamingIndicator, state.systemIsInPrl,
    state.defaultRoamingIndicator]

def RIL_DataRegistrationStateResponse.firstSix (state : RIL_DataRegistrationStateResponse) :
    List Word :=
  [state.regState, state.rat, state.reasonDataDenied, state.maxDataCalls,
    state.cellIdentity.cellInfoType, state.cellIdentity.union.head]

theorem take_of_begins {words memory : List Word} {n : Nat} (begins : words <+: memory)
    (long : n ≤ words.length) : memory.take n = words.take n := by
  obtain ⟨rest, rfl⟩ := begins
  exact List.take_append_of_le_length long

theorem long_of_begins {words : List Word} {response : Response}
    (begins : words <+: response.words) : 4 * words.length ≤ response.responseLen := by
  have inside := begins.length_le
  rw [response.whole] at inside
  omega

section Structure
variable (serial : Word) (responseType : Nat) (e : Word) {response : Response}

section Forms
variable {Result : Type} {minimumStrings structureSize : Nat}
  {fromStrings : List Word → Nat → Option Result} {fromStructure : List Word → Option Result}
  {empty : Result} {serial : Word} {responseType : Nat} {e : Word}

theorem registrationResponse_of_legacy
    (legacy : looksLikeLegacyRegistrationStringArray response minimumStrings = true) :
    registrationResponse minimumStrings structureSize fromStrings fromStructure empty serial
        responseType e (some response) =
      (fromStrings response.words (response.responseLen / 4)).map fun result =>
        (populateResponseInfo serial responseType e, result) := if_pos legacy

theorem registrationResponse_of_structure
    (notLegacy : ¬ looksLikeLegacyRegistrationStringArray response minimumStrings = true)
    (long : structureSize ≤ response.responseLen) :
    registrationResponse minimumStrings structureSize fromStrings fromStructure empty serial
        responseType e (some response) =
      (fromStructure response.words).map fun result =>
        (populateResponseInfo serial responseType e, result) :=
  (if_neg notLegacy).trans (if_pos long)

theorem registrationResponse_of_neither
    (notLegacy : ¬ looksLikeLegacyRegistrationStringArray response minimumStrings = true)
    (short : ¬ structureSize ≤ response.responseLen) :
    registrationResponse minimumStrings structureSize fromStrings fromStructure empty serial
        responseType e (some response) =
      some ((populateResponseInfo serial responseType e).invalid e, empty) :=
  (if_neg notLegacy).trans (if_neg short)

end Forms

/-- A structure is reported if and only if it is not taken for strings, where strings
would be reported otherwise. -/
theorem structure_is_reported_iff {Result : Type} {minimumStrings structureSize : Nat}
    {fromStrings : List Word → Nat → Option Result} {fromStructure : List Word → Option Result}
    {empty : Result} {Reports : Result → Prop} {firstSix : List Word}
    (first : response.words.take 6 = firstSix) (long : structureSize ≤ response.responseLen)
    (enough : minimumStrings * 4 ≤ structureSize)
    (reported : ∃ report, fromStructure response.words = some report ∧ Reports report)
    (differs : LookLikePointers firstSix → ∀ numStrings report,
      fromStrings response.words numStrings = some report → ¬ Reports report) :
    (∃ report, registrationResponse minimumStrings structureSize fromStrings fromStructure empty
        serial responseType e (some response) =
          some (populateResponseInfo serial responseType e, report) ∧ Reports report) ↔
      ¬ TakenForStrings response firstSix := by
  have legacy : looksLikeLegacyRegistrationStringArray response minimumStrings = true ↔
      TakenForStrings response firstSix := by
    rw [looksLike_iff, first, TakenForStrings]
    exact and_iff_right (enough.trans long)
  by_cases taken : TakenForStrings response firstSix
  · refine iff_of_false ?_ (not_not.mpr taken)
    rintro ⟨report, answered, reports⟩
    rw [registrationResponse_of_legacy (legacy.mpr taken)] at answered
    obtain ⟨result, read, same⟩ := Option.map_eq_some_iff.mp answered
    cases same
    exact differs taken.2 _ _ read reports
  · refine iff_of_true ?_ taken
    obtain ⟨report, read, reports⟩ := reported
    refine ⟨report, ?_, reports⟩
    rw [registrationResponse_of_structure (legacy.not.mpr taken) long, read, Option.map_some]

variable (strings : Strings) {cell : Cell}

/-- The structure for calls is reported field for field if and only if its first six words
do not look like pointers. The private fields that may follow it change nothing. -/
theorem voice_structure_is_reported_iff (state : RIL_VoiceRegistrationStateResponse)
    (documented : state.regState ∈ regStates) (written : cell.Written state.cellIdentity)
    (begins : Layouts.voice.write state <+: response.words) :
    (∃ report, getVoiceRegistrationStateResponse strings serial responseType e (some response) =
        some (populateResponseInfo serial responseType e, report) ∧
      VoiceReports state cell report) ↔ ¬ TakenForStrings response state.firstSix := by
  have length := Layouts.voice.length_write state
  have first : response.words.take 6 = state.firstSix := by
    rw [size_voice] at length
    exact take_of_begins begins (by omega)
  have long := long_of_begins begins
  rw [length] at long
  have enough : 15 * 4 ≤ 4 * Layouts.voice.size := by
    rw [size_voice]
    decide
  refine structure_is_reported_iff serial responseType e first long enough
    (voiceFromStructure_reports written begins) ?_
  intro pointers numStrings report read reports
  have zero := eq_zero_of_documented documented (pointers.1 _ List.mem_cons_self)
  have null : response.words[0]? = some 0 := by
    obtain ⟨rest, split⟩ := begins
    rw [← split, ← zero]
    rfl
  have unknown := (regState_voiceFromStrings null read).symm.trans (reports.regState.trans zero)
  exact absurd unknown (by decide)

/-- A phone without a network that does not search, as the interface describes it. -/
def unregistered : RIL_VoiceRegistrationStateResponse :=
  ⟨0, 0, 0, -1, -1, -1, 0, ⟨RIL_CellInfoType.none.toWord, unsetUnion⟩⟩

def unregisteredResponse : Response where
  words := Layouts.voice.write unregistered
  responseLen := 1084
  whole := (Layouts.voice.length_write unregistered).trans size_voice

theorem unregistered_phone_is_not_reported :
    ¬ ∃ report, getVoiceRegistrationStateResponse (fun _ => none) 7 0 RIL_E_SUCCESS
        (some unregisteredResponse) = some (populateResponseInfo 7 0 RIL_E_SUCCESS, report) ∧
      VoiceReports unregistered (.none 0 rfl) report := by
  have taken : TakenForStrings unregisteredResponse unregistered.firstSix := by
    refine ⟨rfl, ?_, -1, ?_, by decide⟩
    · simp [RIL_VoiceRegistrationStateResponse.firstSix, unregistered]
    · simp [RIL_VoiceRegistrationStateResponse.firstSix, unregistered]
  have written : (Cell.none 0 rfl).Written unregistered.cellIdentity := ⟨rfl, List.nil_prefix⟩
  exact fun reported => (voice_structure_is_reported_iff 7 0 RIL_E_SUCCESS (fun _ => none)
    unregistered List.mem_cons_self written (List.prefix_refl _)).mp reported taken

/-- The structure for data, of which the first word of the union is looked at as well.
One whose length is no multiple of four is never taken for strings. -/
theorem data_structure_is_reported_iff (state : RIL_DataRegistrationStateResponse)
    (documented : state.regState ∈ regStates) (written : cell.Written state.cellIdentity)
    (begins : Layouts.data.write state <+: response.words) :
    (∃ report, getDataRegistrationStateResponse strings serial responseType e (some response) =
        some (populateResponseInfo serial responseType e, report) ∧
      DataReports state cell report) ↔ ¬ TakenForStrings response state.firstSix := by
  have length := Layouts.data.length_write state
  have first : response.words.take 6 = state.firstSix := by
    rw [size_data] at length
    exact take_of_begins begins (by omega)
  have long := long_of_begins begins
  rw [length] at long
  have enough : 6 * 4 ≤ 4 * Layouts.data.size := by
    rw [size_data]
    decide
  refine structure_is_reported_iff serial responseType e first long enough
    (dataFromStructure_reports written begins) ?_
  intro pointers numStrings report read reports
  have zero := eq_zero_of_documented documented (pointers.1 _ List.mem_cons_self)
  have null : response.words[0]? = some 0 := by
    obtain ⟨rest, split⟩ := begins
    rw [← split, ← zero]
    rfl
  have unknown := (regState_dataFromStrings null read).symm.trans (reports.regState.trans zero)
  exact absurd unknown (by decide)

/-- A phone in its home network with LTE, and some more words than the structure has. -/
def registered : RIL_DataRegistrationStateResponse :=
  ⟨1, 14, 0, 16, ⟨RIL_CellInfoType.none.toWord, unsetUnion⟩⟩

def registeredResponse : Response where
  words := Layouts.data.write registered ++ [1, 2, 3]
  responseLen := 1084
  whole := by rw [List.length_append, Layouts.data.length_write, size_data]; rfl

theorem registered_phone_is_reported :
    ∃ report, getDataRegistrationStateResponse (fun _ => none) 7 0 RIL_E_SUCCESS
        (some registeredResponse) = some (populateResponseInfo 7 0 RIL_E_SUCCESS, report) ∧
      DataReports registered (.none 0 rfl) report := by
  have written : (Cell.none 0 rfl).Written registered.cellIdentity := ⟨rfl, List.nil_prefix⟩
  refine (data_structure_is_reported_iff 7 0 RIL_E_SUCCESS (fun _ => none) registered
    (by simp [regStates, registered]) written (List.prefix_append _ _)).mpr ?_
  rintro ⟨_, pointers, _⟩
  have small := pointers 1 List.mem_cons_self
  exact absurd small (by decide)

end Structure

end Msm8917Common.RilRegistration
