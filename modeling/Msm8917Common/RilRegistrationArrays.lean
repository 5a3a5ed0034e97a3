import Msm8917Common.RilRegistrationProofs

/-! What the framework learns of the registration from an array of texts, the older form of
the answer: the numbers that are printed in the texts, and defaults for those that are not
there. An array whose first six texts are not there is not taken for one. -/
namespace Msm8917Common.RilRegistration
open CLayout CText RilResponse

/-- The texts of the entries with the indices 1 and 2 are in base sixteen. -/
def Prints (index : Nat) (number : Int) (text : Text) : Prop :=
  if index = 1 ∨ index = 2 then ∃ value : Nat, number = value ∧ PrintsHex value text
  else PrintsDecimal number text

/-- An entry is `NULL`, or points to a text in which its number is printed. -/
def EntryShows (strings : Strings) (index : Nat) (entry : Word) : Option Int → Prop
  | none => entry = 0
  | some number => 4096 ≤ entry.toNat ∧ ∃ text, strings entry = some text ∧ Prints index number text

/-- An array of texts, and the numbers in them. -/
structure ArrayShows (strings : Strings) (response : Response) (numbers : List (Option Int)) :
    Prop where
  whole : response.responseLen = 4 * response.words.length
  length : response.words.length = numbers.length
  entries : ∀ index entry number, response.words[index]? = some entry →
    numbers[index]? = some number → EntryShows strings index entry number

/-- An `int` is the nearest that it can be to a number. -/
def nearest (number : Int) : Int := max LONG_MIN (min LONG_MAX number)

/-- A number of the array, or the default for an entry that is `NULL` or not there. -/
def numberAt (numbers : List (Option Int)) (index : Nat) (defaultVal : Word) : Word :=
  match numbers[index]?.join with
  | some number => .ofInt 32 (nearest number)
  | none => defaultVal

theorem strtol_of_prints {index : Nat} {number : Int} {text : Text}
    (prints : Prints index number text) :
    strtol (if index = 1 ∨ index = 2 then 16 else 10) text = nearest number := by
  unfold Prints at prints
  split at prints
  · next hex =>
    obtain ⟨value, rfl, prints⟩ := prints
    rw [if_pos hex, strtol_of_printsHex prints]
    unfold nearest LONG_MIN LONG_MAX
    omega
  · next decimal =>
    rw [if_neg decimal]
    exact atoi_of_printsDecimal prints

section Numbers
variable {strings : Strings} {response : Response} {numbers : List (Option Int)}

theorem ne_zero_of_large {entry : Word} (large : 4096 ≤ entry.toNat) : entry ≠ 0 := by
  rintro rfl
  exact absurd large (by decide)

/-- What a read of an entry gives. -/
theorem read_entry (shows : ArrayShows strings response numbers) {index : Nat}
    (inside : index < numbers.length) :
    ∃ entry, response.words[index]? = some entry ∧
      ((entry = 0 ∧ numbers[index]?.join = none) ∨
        (entry ≠ 0 ∧ ∃ text number, strings entry = some text ∧
          numbers[index]?.join = some number ∧
          strtol (if index = 1 ∨ index = 2 then 16 else 10) text = nearest number)) := by
  have here := List.getElem?_eq_getElem (shows.length.symm ▸ inside)
  have there := List.getElem?_eq_getElem inside
  refine ⟨_, here, ?_⟩
  have shown := shows.entries index _ _ here there
  cases number : numbers[index] with
  | none =>
    rw [number] at shown
    exact .inl ⟨shown, by rw [there, number]; rfl⟩
  | some value =>
    rw [number] at shown
    obtain ⟨large, text, readable, prints⟩ := shown
    exact .inr ⟨ne_zero_of_large large, text, value, readable, by rw [there, number]; rfl,
      strtol_of_prints prints⟩

theorem atoi_entry (shows : ArrayShows strings response numbers) {index : Nat}
    (inside : index < numbers.length) (decimal : ¬ (index = 1 ∨ index = 2)) (defaultVal : Word) :
    (response.words[index]?.bind (ATOI_NULL_HANDLED_DEF strings · defaultVal)) =
      some (numberAt numbers index defaultVal) := by
  obtain ⟨entry, read, ⟨null, absent⟩ | ⟨notNull, text, number, readable, written, value⟩⟩ :=
    read_entry shows inside
  · rw [read, Option.bind_some, ATOI_NULL_HANDLED_DEF, if_pos null, numberAt, absent]
  · rw [if_neg decimal] at value
    rw [read, Option.bind_some, ATOI_NULL_HANDLED_DEF, if_neg notNull, readable, Option.map_some,
      numberAt, written, atoi, value]

theorem convertEntry_eq (shows : ArrayShows strings response numbers) (index : Nat) {base : Nat}
    (same : base = if index = 1 ∨ index = 2 then 16 else 10) :
    convertEntry strings response.words index (response.responseLen / 4) base =
      some (numberAt numbers index (-1)) := by
  have count : response.responseLen / 4 = numbers.length := by
    rw [← response.whole, shows.length]
  unfold convertEntry
  rw [count]
  by_cases inside : index < numbers.length
  · obtain ⟨entry, read, ⟨null, absent⟩ | ⟨notNull, text, number, readable, written, value⟩⟩ :=
      read_entry shows inside
    · rw [if_pos inside, read, Option.bind_some, if_pos null, numberAt, absent]
    · rw [if_pos inside, read, Option.bind_some, if_neg notNull, readable, Option.map_some,
        numberAt, written, same, value]
  · have outside : numbers[index]? = none := List.getElem?_eq_none (Nat.not_lt.mp inside)
    rw [if_neg inside, numberAt, outside]
    rfl

/-- The type of a cell, by the entry for the radio technology. -/
def cellTypeAt (numbers : List (Option Int)) : RIL_CellInfoType :=
  match numbers[3]?.join with
  | some rat => cellInfoTypeOf (nearest rat)
  | none => .none

theorem type_entry (shows : ArrayShows strings response numbers) (inside : 3 < numbers.length) :
    (response.words[3]?.bind (getCellInfoTypeRadioTechnology strings ·)) =
      some (cellTypeAt numbers) := by
  obtain ⟨entry, read, ⟨null, absent⟩ | ⟨notNull, text, number, readable, written, value⟩⟩ :=
    read_entry shows inside
  · rw [read, Option.bind_some, getCellInfoTypeRadioTechnology, if_pos null, cellTypeAt, absent]
  · have decimal : strtol 10 text = nearest number := value
    rw [read, Option.bind_some, getCellInfoTypeRadioTechnology, if_neg notNull, readable,
      Option.map_some, cellTypeAt, written, atoi, decimal]

end Numbers

theorem ofWord_toWord (cellInfoType : RIL_CellInfoType) :
    RIL_CellInfoType.ofWord cellInfoType.toWord = cellInfoType := by
  cases cellInfoType <;> rfl

theorem read_assign {α : Type} {member : Layout α} {change : α → α} {value : α}
    (read : member.read unsetUnion.toList = some value) :
    member.read (assign member change unsetUnion).toList = some (change value) :=
  Layout.read_update read

/-- Four characters after `memset` to -1. -/
def unsetChars : Chars := bytesOf (-1)

theorem plmn_unset : convertRilPlmnValue unsetChars = [] := by decide

theorem bsic_unset : unsetChars.head = 255 := by decide

theorem read_unset_gsm : Layouts.gsm.read unsetUnion.toList =
    some ⟨unsetChars, unsetChars, -1, -1, -1, unsetChars.head, unsetChars.tail⟩ := rfl

theorem read_unset_wcdma : Layouts.wcdma.read unsetUnion.toList =
    some ⟨unsetChars, unsetChars, -1, -1, -1, -1⟩ := rfl

theorem read_unset_cdma : Layouts.cdma.read unsetUnion.toList = some ⟨-1, -1, -1, -1, -1⟩ := rfl

theorem read_unset_lte : Layouts.lte.read unsetUnion.toList =
    some ⟨unsetChars, unsetChars, -1, -1, -1, -1⟩ := rfl

theorem read_unset_tdscdma : Layouts.tdscdma.read unsetUnion.toList =
    some ⟨unsetChars, unsetChars, -1, -1, -1⟩ := rfl

/-- What the framework is told of the cell by an array for calls. A country and an
operator are not in the array. -/
def voiceCell (numbers : List (Option Int)) : CellIdentity :=
  let number := fun index => numberAt numbers index (-1)
  let cellIdentity := CellIdentity.ofType (cellTypeAt numbers).toWord
  match cellTypeAt numbers with
  | .gsm => { cellIdentity with cellIdentityGsm := [⟨[], [], number 1, number 2, -1, 255⟩] }
  | .wcdma =>
    { cellIdentity with cellIdentityWcdma := [⟨[], [], number 1, number 2, number 14, -1⟩] }
  | .cdma =>
    { cellIdentity with
      cellIdentityCdma := [⟨number 9, number 8, number 4, number 5, number 6⟩] }
  | .lte => { cellIdentity with cellIdentityLte := [⟨[], [], number 2, -1, number 1, -1⟩] }
  | .tdScdma => { cellIdentity with cellIdentityTdscdma := [⟨[], [], number 1, number 2, -1⟩] }
  | .none => cellIdentity

/-- And by an array for data, which leaves a CDMA cell as it was set at first. -/
def dataCell (numbers : List (Option Int)) : CellIdentity :=
  let number := fun index => numberAt numbers index (-1)
  let cellIdentity := CellIdentity.ofType (cellTypeAt numbers).toWord
  match cellTypeAt numbers with
  | .gsm => { cellIdentity with cellIdentityGsm := [⟨[], [], number 1, number 2, -1, 255⟩] }
  | .wcdma => { cellIdentity with cellIdentityWcdma := [⟨[], [], number 1, number 2, -1, -1⟩] }
  | .cdma => { cellIdentity with cellIdentityCdma := [⟨-1, -1, -1, -1, -1⟩] }
  | .lte =>
    { cellIdentity with cellIdentityLte := [⟨[], [], number 8, number 7, number 6, -1⟩] }
  | .tdScdma => { cellIdentity with cellIdentityTdscdma := [⟨[], [], number 1, number 2, -1⟩] }
  | .none => cellIdentity

section Numbers
variable {strings : Strings} {response : Response} {numbers : List (Option Int)}

theorem hex_entry (shows : ArrayShows strings response numbers) {index : Nat}
    (hex : index = 1 ∨ index = 2) :
    convertResponseHexStringEntryToInt strings response.words index (response.responseLen / 4) =
      some (numberAt numbers index (-1)) :=
  convertEntry_eq shows index (if_pos hex).symm

theorem decimal_entry (shows : ArrayShows strings response numbers) {index : Nat}
    (decimal : ¬ (index = 1 ∨ index = 2)) :
    convertResponseStringEntryToInt strings response.words index (response.responseLen / 4) =
      some (numberAt numbers index (-1)) :=
  convertEntry_eq shows index (if_neg decimal).symm

theorem fillVoice_eq (shows : ArrayShows strings response numbers) (long : 3 < numbers.length) :
    fillCellIdentityFromVoiceRegStateResponseString strings (response.responseLen / 4)
      response.words = some (voiceCell numbers) := by
  obtain ⟨rat, here, typed⟩ := Option.bind_eq_some_iff.mp (type_entry shows long)
  simp only [fillCellIdentityFromVoiceRegStateResponseString, here, typed, Option.bind_eq_bind,
    Option.bind_some]
  cases type : cellTypeAt numbers with
  | gsm =>
    simp only [hex_entry shows (.inl rfl), hex_entry shows (.inr rfl), Option.bind_some,
      fillCellIdentityResponse, ofWord_toWord, read_assign read_unset_gsm, Option.map_some,
      plmn_unset, bsic_unset, voiceCell, type]
  | wcdma =>
    simp only [hex_entry shows (.inl rfl), hex_entry shows (.inr rfl),
      decimal_entry shows (show ¬ (14 = 1 ∨ 14 = 2) by decide), Option.bind_some,
      fillCellIdentityResponse, ofWord_toWord, read_assign read_unset_wcdma, Option.map_some,
      plmn_unset, voiceCell, type]
  | cdma =>
    simp only [decimal_entry shows (show ¬ (4 = 1 ∨ 4 = 2) by decide),
      decimal_entry shows (show ¬ (5 = 1 ∨ 5 = 2) by decide),
      decimal_entry shows (show ¬ (6 = 1 ∨ 6 = 2) by decide),
      decimal_entry shows (show ¬ (8 = 1 ∨ 8 = 2) by decide),
      decimal_entry shows (show ¬ (9 = 1 ∨ 9 = 2) by decide), Option.bind_some,
      fillCellIdentityResponse, ofWord_toWord, read_assign read_unset_cdma, Option.map_some,
      voiceCell, type]
  | lte =>
    simp only [hex_entry shows (.inl rfl), hex_entry shows (.inr rfl), Option.bind_some,
      fillCellIdentityResponse, ofWord_toWord, read_assign read_unset_lte, Option.map_some,
      plmn_unset, voiceCell, type]
  | tdScdma =>
    simp only [hex_entry shows (.inl rfl), hex_entry shows (.inr rfl), Option.bind_some,
      fillCellIdentityResponse, ofWord_toWord, read_assign read_unset_tdscdma, Option.map_some,
      plmn_unset, voiceCell, type]
  | none => simp only [fillCellIdentityResponse, ofWord_toWord, voiceCell, type]

theorem fillData_eq (shows : ArrayShows strings response numbers) (long : 3 < numbers.length) :
    fillCellIdentityFromDataRegStateResponseString strings (response.responseLen / 4)
      response.words = some (dataCell numbers) := by
  obtain ⟨rat, here, typed⟩ := Option.bind_eq_some_iff.mp (type_entry shows long)
  simp only [fillCellIdentityFromDataRegStateResponseString, here, typed, Option.bind_eq_bind,
    Option.bind_some]
  cases type : cellTypeAt numbers with
  | gsm =>
    simp only [hex_entry shows (.inl rfl), hex_entry shows (.inr rfl), Option.bind_some,
      fillCellIdentityResponse, ofWord_toWord, read_assign read_unset_gsm, Option.map_some,
      plmn_unset, bsic_unset, dataCell, type]
  | wcdma =>
    simp only [hex_entry shows (.inl rfl), hex_entry shows (.inr rfl), Option.bind_some,
      fillCellIdentityResponse, ofWord_toWord, read_assign read_unset_wcdma, Option.map_some,
      plmn_unset, dataCell, type]
  | cdma =>
    simp only [fillCellIdentityResponse, ofWord_toWord, read_unset_cdma, Option.map_some,
      dataCell, type]
  | lte =>
    simp only [decimal_entry shows (show ¬ (6 = 1 ∨ 6 = 2) by decide),
      decimal_entry shows (show ¬ (7 = 1 ∨ 7 = 2) by decide),
      decimal_entry shows (show ¬ (8 = 1 ∨ 8 = 2) by decide), Option.bind_some,
      fillCellIdentityResponse, ofWord_toWord, read_assign read_unset_lte, Option.map_some,
      plmn_unset, dataCell, type]
  | tdScdma =>
    simp only [hex_entry shows (.inl rfl), hex_entry shows (.inr rfl), Option.bind_some,
      fillCellIdentityResponse, ofWord_toWord, read_assign read_unset_tdscdma, Option.map_some,
      plmn_unset, dataCell, type]
  | none => simp only [fillCellIdentityResponse, ofWord_toWord, dataCell, type]

/-- What the framework is told of an array for calls. -/
def voiceOfNumbers (numbers : List (Option Int)) : VoiceRegStateResult where
  regState := numberAt numbers 0 4
  rat := numberAt numbers 3 (-1)
  cssSupported := numberAt numbers 7 0 ≠ 0
  roamingIndicator := numberAt numbers 10 (-1)
  systemIsInPrl := numberAt numbers 11 0
  defaultRoamingIndicator := numberAt numbers 12 0
  reasonForDenial := numberAt numbers 13 0
  cellIdentity := voiceCell numbers

def dataOfNumbers (numbers : List (Option Int)) : DataRegStateResult where
  regState := numberAt numbers 0 4
  rat := numberAt numbers 3 0
  reasonDataDenied := numberAt numbers 4 (-1)
  maxDataCalls := numberAt numbers 5 1
  cellIdentity := dataCell numbers

theorem voiceFromStrings_eq (shows : ArrayShows strings response numbers)
    (long : 15 ≤ numbers.length) :
    voiceFromStrings strings response.words (response.responseLen / 4) =
      some (voiceOfNumbers numbers) := by
  have entry (index : Nat) (inside : index < 15) (decimal : ¬ (index = 1 ∨ index = 2))
      (defaultVal : Word) := atoi_entry shows (inside.trans_le long) decimal defaultVal
  simp only [voiceFromStrings, ATOI_NULL_HANDLED, entry 0 (by decide) (by decide),
    entry 3 (by decide) (by decide), entry 7 (by decide) (by decide),
    entry 10 (by decide) (by decide), entry 11 (by decide) (by decide),
    entry 12 (by decide) (by decide), entry 13 (by decide) (by decide),
    fillVoice_eq shows (by omega), Option.bind_eq_bind, Option.bind_some]
  rfl

theorem dataFromStrings_eq (shows : ArrayShows strings response numbers)
    (long : 6 ≤ numbers.length) :
    dataFromStrings strings response.words (response.responseLen / 4) =
      some (dataOfNumbers numbers) := by
  have entry (index : Nat) (inside : index < 6) (decimal : ¬ (index = 1 ∨ index = 2))
      (defaultVal : Word) := atoi_entry shows (inside.trans_le long) decimal defaultVal
  simp only [dataFromStrings, ATOI_NULL_HANDLED, entry 0 (by decide) (by decide),
    entry 3 (by decide) (by decide), entry 4 (by decide) (by decide),
    entry 5 (by decide) (by decide), fillData_eq shows (by omega), Option.bind_eq_bind,
    Option.bind_some]
  rfl

end Numbers

theorem looksLikeNull_or_pointer {strings : Strings} {index : Nat} {entry : Word}
    {number : Option Int} (shown : EntryShows strings index entry number) :
    (entry = 0 ∨ 4096 ≤ entry.toNat) ∧ (entry ≠ 0 ↔ number ≠ none) := by
  cases number with
  | none => exact ⟨.inl shown, iff_of_false (not_not.mpr shown) (not_not.mpr rfl)⟩
  | some value =>
    exact ⟨.inr shown.1, iff_of_true (ne_zero_of_large shown.1) (Option.some_ne_none value)⟩

/-- An array looks like one if and only if one of its first six entries is not `NULL`. -/
theorem lookLikePointers_iff {strings : Strings} {response : Response}
    {numbers : List (Option Int)} (shows : ArrayShows strings response numbers) :
    LookLikePointers (response.words.take 6) ↔ ∃ number ∈ numbers.take 6, number ≠ none := by
  have shown : ∀ index (here : index < response.words.length) (there : index < numbers.length),
      EntryShows strings index response.words[index] numbers[index] :=
    fun index here there => shows.entries index _ _ (List.getElem?_eq_getElem here)
      (List.getElem?_eq_getElem there)
  have length := shows.length
  constructor
  · rintro ⟨_, word, member, notNull⟩
    obtain ⟨index, inside, rfl⟩ := List.mem_take_iff_getElem.mp member
    have here := shown index (by omega) (by omega)
    exact ⟨_, List.mem_take_iff_getElem.mpr ⟨index, length ▸ inside, rfl⟩,
      (looksLikeNull_or_pointer here).2.mp notNull⟩
  · rintro ⟨number, member, present⟩
    obtain ⟨index, inside, rfl⟩ := List.mem_take_iff_getElem.mp member
    have here := shown index (by omega) (by omega)
    refine ⟨?_, _, List.mem_take_iff_getElem.mpr ⟨index, by omega, rfl⟩,
      (looksLikeNull_or_pointer here).2.mpr present⟩
    intro word member
    obtain ⟨other, inside, rfl⟩ := List.mem_take_iff_getElem.mp member
    exact (looksLikeNull_or_pointer (shown other (by omega) (by omega))).1

section Strings
variable {strings : Strings} {response : Response} {numbers : List (Option Int)}
  (serial : Word) (responseType : Nat) (e : Word)

/-- An array of texts is reported if and only if it looks like one, where no other form of
the answer gives the same. -/
theorem array_is_reported_iff {Result : Type} {minimumStrings structureSize : Nat}
    {fromStrings : List Word → Nat → Option Result} {fromStructure : List Word → Option Result}
    {empty result : Result} (shows : ArrayShows strings response numbers)
    (long : minimumStrings ≤ numbers.length)
    (read : fromStrings response.words (response.responseLen / 4) = some result)
    (structureDiffers : response.words[0]? = some 0 → numbers[0]? = some none →
      fromStructure response.words ≠ some result)
    (emptyDiffers : numbers[0]? = some none → empty ≠ result) (first : 0 < numbers.length) :
    registrationResponse minimumStrings structureSize fromStrings fromStructure empty serial
        responseType e (some response) =
      some (populateResponseInfo serial responseType e, result) ↔
    ∃ number ∈ numbers.take 6, number ≠ none := by
  have legacy : looksLikeLegacyRegistrationStringArray response minimumStrings = true ↔
      ∃ number ∈ numbers.take 6, number ≠ none := by
    rw [looksLike_iff, lookLikePointers_iff shows, shows.whole, shows.length]
    constructor
    · exact fun looks => looks.2.2
    · exact fun present => ⟨by omega, by omega, present⟩
  by_cases present : ∃ number ∈ numbers.take 6, number ≠ none
  · refine iff_of_true ?_ present
    rw [registrationResponse_of_legacy (legacy.mpr present), read, Option.map_some]
  · refine iff_of_false ?_ present
    have absent : numbers[0]? = some none := by
      rw [List.getElem?_eq_getElem first]
      by_contra other
      refine present ⟨numbers[0], List.mem_take_iff_getElem.mpr ⟨0, by omega, rfl⟩, ?_⟩
      exact fun none => other (congrArg some none)
    have null : response.words[0]? = some 0 := by
      obtain ⟨entry, here, ⟨zero, _⟩ | ⟨_, _, number, _, written, _⟩⟩ := read_entry shows first
      · rw [here, zero]
      · rw [absent] at written
        cases written
    intro answered
    by_cases large : structureSize ≤ response.responseLen
    · rw [registrationResponse_of_structure (legacy.not.mpr present) large] at answered
      obtain ⟨other, read, same⟩ := Option.map_eq_some_iff.mp answered
      cases same
      exact structureDiffers null absent read
    · rw [registrationResponse_of_neither (legacy.not.mpr present) large] at answered
      exact emptyDiffers absent (congrArg Prod.snd (Option.some.inj answered))

/-- A structure that begins with zero is not registered and does not search. -/
theorem regState_voiceFromStructure {memory : List Word} {report : VoiceRegStateResult}
    (null : memory[0]? = some 0) (read : voiceFromStructure memory = some report) :
    report.regState = 0 := by
  obtain ⟨state, readState, read⟩ := Option.bind_eq_some_iff.mp read
  obtain ⟨_, _, read⟩ := Option.bind_eq_some_iff.mp read
  cases read
  obtain ⟨rest, rfl⟩ := Layouts.voice.write_read readState
  exact Option.some.inj null

theorem regState_dataFromStructure {memory : List Word} {report : DataRegStateResult}
    (null : memory[0]? = some 0) (read : dataFromStructure memory = some report) :
    report.regState = 0 := by
  obtain ⟨state, readState, read⟩ := Option.bind_eq_some_iff.mp read
  obtain ⟨_, _, read⟩ := Option.bind_eq_some_iff.mp read
  cases read
  obtain ⟨rest, rfl⟩ := Layouts.data.write_read readState
  exact Option.some.inj null

theorem regState_voiceOfNumbers (absent : numbers[0]? = some none) :
    (voiceOfNumbers numbers).regState = 4 := by
  simp only [voiceOfNumbers, numberAt, absent, Option.join_some]

theorem regState_dataOfNumbers (absent : numbers[0]? = some none) :
    (dataOfNumbers numbers).regState = 4 := by
  simp only [dataOfNumbers, numberAt, absent, Option.join_some]

/-- An array for calls is reported with the numbers in it, the nearest that an `int` can
be, if and only if one of its first six texts is there. -/
theorem voice_array_is_reported_iff (shows : ArrayShows strings response numbers)
    (long : 15 ≤ numbers.length) :
    getVoiceRegistrationStateResponse strings serial responseType e (some response) =
      some (populateResponseInfo serial responseType e, voiceOfNumbers numbers) ↔
    ∃ number ∈ numbers.take 6, number ≠ none := by
  refine array_is_reported_iff serial responseType e shows long (voiceFromStrings_eq shows long)
    ?_ ?_ (by omega)
  · intro null absent read
    have zero := regState_voiceFromStructure null read
    exact absurd ((regState_voiceOfNumbers absent).symm.trans zero) (by decide)
  · intro absent same
    have zero := (regState_voiceOfNumbers absent).symm.trans (congrArg (·.regState) same.symm)
    exact absurd zero (by decide)

/-- The texts of a phone in its home network with LTE. -/
def homeTexts : Strings := fun address =>
  if address = 4096 then some ['1']
  else if address = 4097 then some ['1', 'a', '2', 'b']
  else if address = 4098 then some ['1', '4']
  else none

def homeNumbers : List (Option Int) :=
  [some 1, some 6699, none, some 14] ++ List.replicate 11 none

def homeResponse : Response where
  words := [4096, 4097, 0, 4098] ++ List.replicate 11 0
  responseLen := 60
  whole := rfl

/-- The four texts of a phone in its home network, with any number of entries behind them. -/
theorem home_shows {response : Response} (rest : Nat)
    (words : response.words = [4096, 4097, 0, 4098] ++ List.replicate rest 0)
    (whole : response.responseLen = 4 * response.words.length) :
    ArrayShows homeTexts response
      ([some 1, some 6699, none, some 14] ++ List.replicate rest none) := by
  refine ⟨whole, by simp [words], ?_⟩
  rw [words]
  intro index entry number here there
  rcases index with _ | _ | _ | _ | index
  · cases here
    cases there
    exact ⟨by decide, ['1'], by decide, ['1'], by decide, isDecimalDigit_of_all (by decide),
      .inl ⟨rfl, rfl⟩⟩
  · cases here
    cases there
    exact ⟨by decide, ['1', 'a', '2', 'b'], by decide, 6699, rfl, [], ['1', 'a', '2', 'b'],
      .inl rfl, by decide, isHexDigit_of_all (by decide), rfl, rfl⟩
  · cases here
    cases there
    rfl
  · cases here
    cases there
    exact ⟨by decide, ['1', '4'], by decide, ['1', '4'], by decide,
      isDecimalDigit_of_all (by decide), .inl ⟨rfl, rfl⟩⟩
  · have null : (List.replicate rest (0 : Word))[index]? = some entry := here
    have absent : (List.replicate rest (none : Option Int))[index]? = some number := there
    rw [List.eq_of_mem_replicate (List.mem_of_getElem? null),
      List.eq_of_mem_replicate (List.mem_of_getElem? absent)]
    rfl

theorem homeResponse_shows : ArrayShows homeTexts homeResponse homeNumbers :=
  home_shows 11 rfl rfl

theorem home_array_is_reported :
    getVoiceRegistrationStateResponse homeTexts 7 0 RIL_E_SUCCESS (some homeResponse) =
      some (populateResponseInfo 7 0 RIL_E_SUCCESS, voiceOfNumbers homeNumbers) :=
  (voice_array_is_reported_iff 7 0 RIL_E_SUCCESS homeResponse_shows (by decide)).mpr
    ⟨some 1, List.mem_cons_self, Option.some_ne_none 1⟩

/-- An array for data needs six texts. The entries for an LTE cell come behind them. -/
theorem data_array_is_reported_iff (shows : ArrayShows strings response numbers)
    (long : 6 ≤ numbers.length) :
    getDataRegistrationStateResponse strings serial responseType e (some response) =
      some (populateResponseInfo serial responseType e, dataOfNumbers numbers) ↔
    ∃ number ∈ numbers.take 6, number ≠ none := by
  refine array_is_reported_iff serial responseType e shows long (dataFromStrings_eq shows long)
    ?_ ?_ (by omega)
  · intro null absent read
    have zero := regState_dataFromStructure null read
    exact absurd ((regState_dataOfNumbers absent).symm.trans zero) (by decide)
  · intro absent same
    have zero := (regState_dataOfNumbers absent).symm.trans (congrArg (·.regState) same.symm)
    exact absurd zero (by decide)

/-- Six entries in a network with LTE, whose own entries would come behind them. -/
def lteNumbers : List (Option Int) :=
  [some 1, some 6699, none, some 14] ++ List.replicate 2 none

def lteResponse : Response where
  words := [4096, 4097, 0, 4098] ++ List.replicate 2 0
  responseLen := 24
  whole := rfl

theorem lte_array_is_reported :
    getDataRegistrationStateResponse homeTexts 7 0 RIL_E_SUCCESS (some lteResponse) =
        some (populateResponseInfo 7 0 RIL_E_SUCCESS, dataOfNumbers lteNumbers) ∧
      (dataOfNumbers lteNumbers).cellIdentity.cellIdentityLte = [⟨[], [], -1, -1, -1, -1⟩] :=
  ⟨(data_array_is_reported_iff 7 0 RIL_E_SUCCESS (home_shows 2 rfl rfl) (by decide)).mpr
    ⟨some 1, List.mem_cons_self, Option.some_ne_none 1⟩, by decide⟩

end Strings

end Msm8917Common.RilRegistration
