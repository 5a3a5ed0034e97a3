import Mathlib.Data.List.TakeWhile
import Msm8917Common.RilRequestsProofs
import Msm8917Common.RilService

/-! Every request of the radio service gives back the memory of its copies, on every
way out, and is either forwarded with exactly the strings it came with or answered
with one error. Over a run with a vendor library that completes what it was handed,
no request is answered twice; one that the service answers itself is never removed
from its list. -/
namespace Msm8917Common.RilService
open Allocations Ril

theorem c_str_length_le (string : HidlString) : string.c_str.length ≤ string.size :=
  (List.takeWhile_prefix _).length_le

section copies

variable {ν : Type} {dest : ν} {src : HidlString} {allowEmpty : Bool} {releases : List ν}

/-- No copy is truncated: the text ends in front of the size that is asked for. -/
theorem copy_whole : copyHidlStringToRil dest src allowEmpty releases =
    if src.size = 0 ∧ allowEmpty = false then [.setNull dest]
    else [.allocate dest (.string src.c_str) (some RIL_E_NO_MEMORY) releases,
      .check true none releases] := by
  have short := c_str_length_le src
  rw [copyHidlStringToRil, List.take_of_length_le short, decide_eq_true (Nat.lt_succ_of_le short)]

@[simp] theorem rejected_copy :
    rejected (copyHidlStringToRil dest src allowEmpty releases) = none := by
  rw [copy_whole]
  split <;> rfl

@[simp] theorem setAfter_copy (set : List ν) :
    setAfter set (copyHidlStringToRil dest src allowEmpty releases) = dest :: set := by
  rw [copy_whole]
  split <;> rfl

theorem balanced_copy {zeroed : Bool} {set : List ν} (unset : dest ∉ set)
    (covers : Covers zeroed set (dest :: set) releases) :
    WellBalanced zeroed set (copyHidlStringToRil dest src allowEmpty releases) := by
  rw [copy_whole]
  split
  · exact ⟨unset, trivial⟩
  · exact ⟨unset, covers, by simp, trivial⟩

/-- What the vendor library is to read: an empty string may be passed as null. -/
def copyOf (src : HidlString) (allowEmpty : Bool) : CString :=
  if src.size = 0 ∧ allowEmpty = false then none else some src.c_str

theorem contents_copy [DecidableEq ν] (var : ν) :
    contents (copyHidlStringToRil dest src allowEmpty releases) var =
      if var = dest then (copyOf src allowEmpty).map .string else none := by
  rw [copy_whole, copyOf]
  split <;> simp [contents]

end copies

/-- Every failure of the steps has an error to answer with. -/
def Answers {ν : Type} (steps : List (DispatchStep ν)) : Prop :=
  rejected steps ≠ some none ∧ ∀ failure ∈ shortages steps, failure = some RIL_E_NO_MEMORY

theorem answers_nil {ν : Type} : Answers ([] : List (DispatchStep ν)) := by
  simp [Answers, rejected, shortages]

theorem Answers.append {ν : Type} {steps more : List (DispatchStep ν)} (first : Answers steps)
    (second : Answers more) : Answers (steps ++ more) := by
  constructor
  · intro silent
    rw [rejected_append, Option.or_eq_some_iff] at silent
    rcases silent with early | ⟨-, late⟩
    · exact first.1 early
    · exact second.1 late
  · intro failure member
    rw [shortages_append] at member
    rcases List.mem_append.mp member with early | late
    · exact first.2 failure early
    · exact second.2 failure late

theorem answers_copy {ν : Type} (dest : ν) (src : HidlString) (allowEmpty : Bool)
    (releases : List ν) : Answers (copyHidlStringToRil dest src allowEmpty releases) := by
  refine ⟨by simp, fun failure member => ?_⟩
  rw [copy_whole] at member
  split at member
  · cases member
  · exact List.mem_singleton.mp member

theorem Answers.array {ν : Type} {steps : List (DispatchStep ν)} (rest : Answers steps) (dest : ν)
    (releases : List ν) : Answers (callocArray dest releases :: steps) :=
  ⟨rest.1, by simpa [callocArray, shortages] using rest.2⟩

theorem Answers.check {ν : Type} {steps : List (DispatchStep ν)} (rest : Answers steps)
    (passes : Bool) (err : Int) (releases : List ν) :
    Answers (.check passes (some err) releases :: steps) := by
  cases passes with
  | true => exact rest
  | false => exact ⟨by simp [rejected], rest.2⟩

/-- The steps of a dispatcher and its last frees: every way out frees what is held,
and every failure has an answer. -/
structure Fits {ν : Type} (zeroed : Bool) (steps : List (DispatchStep ν)) (frees : List ν) :
    Prop where
  balanced : WellBalanced zeroed [] steps
  covers : Covers zeroed (setAfter [] steps) (setAfter [] steps) frees
  answers : Answers steps

def WellFormed (dispatch : Dispatch) : Prop :=
  Fits dispatch.zeroed dispatch.steps dispatch.frees

theorem wellFormed_withoutCopies (request : Nat) (byTable : Bool) (data : RilData) :
    WellFormed (withoutCopies request byTable data) := by
  dsimp only [WellFormed, withoutCopies]
  exact ⟨trivial, by decide, answers_nil⟩

theorem wellFormed_answerError (request : Nat) (nullChecked : Bool) (err : Int) :
    WellFormed (answerError request nullChecked err) := by
  dsimp only [WellFormed, answerError]
  exact ⟨⟨fun _ => by decide, trivial⟩, covers_zeroed List.nodup_nil (fun _ held => held),
    answers_nil.check _ _ _⟩

theorem wellFormed_withOneCopy (request : Nat) (byTable zeroed : Bool) (string : HidlString)
    (data : CString → RilData) : WellFormed (withOneCopy request byTable zeroed string data) := by
  dsimp only [WellFormed, withOneCopy]
  refine ⟨balanced_copy List.not_mem_nil ?_, ?_, answers_copy _ _ _ _⟩
  · cases zeroed <;> decide
  · rw [setAfter_copy]
    cases zeroed <;> decide

theorem wellFormed_dispatchInts (request : Nat) (ints : List Int) :
    WellFormed (dispatchInts request ints) := by
  dsimp only [WellFormed, dispatchInts, callocArray]
  exact ⟨⟨by decide, by decide, trivial⟩, by decide, answers_nil.array _ _⟩

theorem wellFormed_dial (dialInfo : DialInfo) : WellFormed (dial dialInfo) := by
  obtain ⟨address, clir, uusInfo⟩ := dialInfo
  dsimp only [WellFormed, dial]
  split
  · refine ⟨?_, ?_, (answers_copy _ _ _ _).append answers_nil⟩
    · exact balanced_append.mpr ⟨balanced_copy (by decide) (by decide), trivial⟩
    · rw [setAfter_append, setAfter_copy]
      decide
  · split
    · refine ⟨balanced_append.mpr ⟨balanced_copy (by decide) (by decide), ?_⟩, ?_,
        (answers_copy _ _ _ _).append ⟨by simp [rejected], by simp [shortages]⟩⟩
      · rw [setAfter_copy]
        exact ⟨by decide, trivial⟩
      · rw [setAfter_append, setAfter_copy]
        decide
    · refine ⟨balanced_append.mpr ⟨balanced_copy (by decide) (by decide), ?_⟩, ?_,
        (answers_copy _ _ _ _).append (answers_copy _ _ _ _)⟩
      · rw [setAfter_copy]
        exact balanced_copy (by decide) (by decide)
      · rw [setAfter_append, setAfter_copy, setAfter_copy]
        decide

theorem wellFormed_iccIOForApp (iccIo : IccIo) : WellFormed (iccIOForApp iccIo) := by
  dsimp only [WellFormed, iccIOForApp]
  refine ⟨?_, ?_, (((answers_copy _ _ _ _).append (answers_copy _ _ _ _)).append
    (answers_copy _ _ _ _)).append (answers_copy _ _ _ _)⟩
  · simp only [balanced_append, setAfter_append, setAfter_copy]
    refine ⟨⟨⟨?_, ?_⟩, ?_⟩, ?_⟩ <;> exact balanced_copy (by decide) (by decide)
  · simp only [setAfter_append, setAfter_copy]
    decide

theorem wellFormed_writeSmsToSim (status : Int) (pdu smsc : HidlString) :
    WellFormed (writeSmsToSim status pdu smsc) := by
  dsimp only [WellFormed, writeSmsToSim]
  refine ⟨?_, ?_, (answers_copy _ _ _ _).append (answers_copy _ _ _ _)⟩
  · simp only [balanced_append, setAfter_copy]
    constructor <;> exact balanced_copy (by decide) (by decide)
  · simp only [setAfter_append, setAfter_copy]
    decide

theorem wellFormed_requestIccSimAuthentication (authContext : Int) (authData aid : HidlString) :
    WellFormed (requestIccSimAuthentication authContext authData aid) := by
  dsimp only [WellFormed, requestIccSimAuthentication]
  refine ⟨?_, ?_, (answers_copy _ _ _ _).append (answers_copy _ _ _ _)⟩
  · simp only [balanced_append, setAfter_copy]
    constructor <;> exact balanced_copy (by decide) (by decide)
  · simp only [setAfter_append, setAfter_copy]
    decide

theorem wellFormed_setInitialAttachApn (version : Int) (dataProfileInfo : DataProfileInfo)
    (modemCognitive isRoaming : Bool) :
    WellFormed (setInitialAttachApn version dataProfileInfo modemCognitive isRoaming) := by
  unfold setInitialAttachApn
  split
  · dsimp only [WellFormed]
    refine ⟨?_, ?_, (((answers_copy _ _ _ _).append (answers_copy _ _ _ _)).append
      (answers_copy _ _ _ _)).append (answers_copy _ _ _ _)⟩
    · simp only [balanced_append, setAfter_append, setAfter_copy]
      refine ⟨⟨⟨?_, ?_⟩, ?_⟩, ?_⟩ <;> exact balanced_copy (by decide) (by decide)
    · simp only [setAfter_append, setAfter_copy]
      decide
  · dsimp only [WellFormed]
    refine ⟨?_, ?_, ((((((answers_copy _ _ _ _).append (answers_copy _ _ _ _)).append
      (answers_copy _ _ _ _)).append (answers_copy _ _ _ _)).append (answers_copy _ _ _ _)).append
      ((answers_copy _ _ _ _).check _ _ _))⟩
    · simp only [balanced_append, setAfter_append, setAfter_copy]
      refine ⟨⟨⟨⟨⟨?_, ?_⟩, ?_⟩, ?_⟩, ?_⟩, fun _ => by decide, ?_⟩ <;>
        exact balanced_copy (by decide) (by decide)
    · simp only [setAfter_append, setAfter_copy, setAfter]
      decide

theorem wellFormed_sendImsSms (message : ImsSmsMessage) : WellFormed (sendImsSms message) := by
  unfold sendImsSms
  split
  · dsimp only [WellFormed, dispatchImsGsmSms]
    split
    · refine ⟨?_, ?_, (((answers_copy _ _ _ _).array _ _).check _ _ _).append
        (answers_copy _ _ _ _)⟩
      · simp only [balanced_append, List.cons_append, callocArray, WellBalanced, setAfter_copy]
        refine ⟨by decide, by decide, by decide, ?_, ?_⟩ <;> exact balanced_copy (by decide) (by decide)
      · simp only [List.cons_append, callocArray, setAfter, setAfter_append, setAfter_copy]
        decide
    · exact ⟨⟨fun _ => by decide, trivial⟩, by decide, answers_nil.check _ _ _⟩
  · split
    · unfold dispatchImsCdmaSms
      split
      · exact wellFormed_withoutCopies _ _ _
      · exact wellFormed_answerError _ _ _
    · exact wellFormed_answerError _ _ _

theorem wellFormed_setAllowedCarriers (allowedCarriers excludedCarriers : List Carrier) :
    WellFormed (setAllowedCarriers allowedCarriers excludedCarriers) := by
  dsimp only [WellFormed, setAllowedCarriers, callocArray]
  exact ⟨⟨by decide, by decide, by decide, by decide, trivial⟩, by decide,
    (answers_nil.array _ _).array _ _⟩

section strings

theorem nodup_elements (count : Nat) :
    ((List.range count).map StringsVar.element ++ [StringsVar.pStrings]).Nodup := by
  refine List.Nodup.append (List.nodup_range.map ?_) (List.nodup_singleton _) ?_
  · intro i j same
    cases same
    rfl
  · simp

/-- What is set when the loop comes to a string is what its failure frees. -/
theorem balanced_copyStrings (allowEmpty : Bool) (strings : List HidlString) (i : Nat)
    (set : List StringsVar)
    (isSet : ∀ var, var ∈ set ↔ var ∈ (List.range i).map StringsVar.element ++ [StringsVar.pStrings]) :
    WellBalanced true set (copyStrings allowEmpty i strings) ∧
      ∀ var, var ∈ setAfter set (copyStrings allowEmpty i strings) ↔
        var ∈ (List.range (i + strings.length)).map StringsVar.element ++ [StringsVar.pStrings] := by
  induction strings generalizing i set with
  | nil => exact ⟨trivial, isSet⟩
  | cons string rest ih =>
    have unset : StringsVar.element i ∉ set := by
      rw [isSet]
      simp
    have covers : Covers true set (.element i :: set)
        ((List.range i).map .element ++ [.pStrings]) :=
      covers_zeroed (nodup_elements i) fun var => (isSet var).mp
    have next : ∀ var, var ∈ StringsVar.element i :: set ↔
        var ∈ (List.range (i + 1)).map StringsVar.element ++ [StringsVar.pStrings] := by
      intro var
      rw [List.mem_cons, isSet, List.range_succ]
      simp [or_left_comm, eq_comm]
    obtain ⟨balanced, after⟩ := ih (i + 1) _ next
    simp only [copyStrings, balanced_append, setAfter_append, setAfter_copy]
    refine ⟨⟨balanced_copy unset covers, balanced⟩, ?_⟩
    rw [List.length_cons, show i + (rest.length + 1) = i + 1 + rest.length by omega]
    exact after

theorem answers_copyStrings (allowEmpty : Bool) (strings : List HidlString) (i : Nat) :
    Answers (copyStrings allowEmpty i strings) := by
  induction strings generalizing i with
  | nil => exact answers_nil
  | cons string rest ih => exact (answers_copy _ _ _ _).append (ih (i + 1))

theorem wellFormed_withStrings (request : Nat) (allowEmpty : Bool) (strings : List HidlString) :
    WellFormed (withStrings request allowEmpty strings) := by
  dsimp only [WellFormed, withStrings, callocArray]
  obtain ⟨balanced, after⟩ := balanced_copyStrings allowEmpty strings 0 [.pStrings] (by simp)
  rw [Nat.zero_add] at after
  refine ⟨⟨List.not_mem_nil, by decide, balanced⟩, ?_, (answers_copyStrings _ _ _).array _ _⟩
  exact covers_zeroed (nodup_elements _) fun var => (after var).mp

end strings

section profiles

variable {num : Nat} {fields : List ProfileField}

theorem mem_freeSetDataProfileData {i : Nat} {name : ProfileField} :
    .field i name ∈ freeSetDataProfileData num fields ↔ i < num ∧ name ∈ fields := by
  simp [freeSetDataProfileData, and_comm]

/-- Field by field, no variable is freed twice. -/
theorem nodup_freeSetDataProfileData (distinct : fields.Nodup) :
    (freeSetDataProfileData num fields).Nodup := by
  refine List.Nodup.append ?_ (by decide) (by simp)
  refine List.nodup_flatMap.mpr ⟨fun name _ => List.nodup_range.map ?_, ?_⟩
  · intro i j same
    cases same
    rfl
  · refine distinct.imp_of_mem fun _ _ different => ?_
    simp [Function.onFun, List.disjoint_left, different.symm]

/-- Only profiles in front of this one are set, and their fields are freed. -/
def SetBefore (num : Nat) (fields : List ProfileField) (i : Nat) (set : List ProfilesVar) : Prop :=
  (∀ j name, .field j name ∈ set → j < i) ∧ ∀ var ∈ set, var ∈ freeSetDataProfileData num fields

/-- Copies into some more fields of one profile. -/
theorem balanced_profile_copy {set : List ProfilesVar} {i : Nat} {name : ProfileField}
    (distinct : fields.Nodup) (freed : ∀ var ∈ set, var ∈ freeSetDataProfileData num fields)
    (unset : .field i name ∉ set) (src : HidlString) (allowEmpty : Bool) :
    WellBalanced true set (copyHidlStringToRil (.field i name) src allowEmpty
      (freeSetDataProfileData num fields)) :=
  balanced_copy unset (covers_zeroed (nodup_freeSetDataProfileData distinct) freed)

theorem balanced_copyDataProfiles
    {copyOne : Nat → DataProfileInfo → List (DispatchStep ProfilesVar)}
    (one : ∀ i profile set, i < num → SetBefore num fields i set →
      WellBalanced true set (copyOne i profile) ∧
        SetBefore num fields (i + 1) (setAfter set (copyOne i profile)))
    (profiles : List DataProfileInfo) (i : Nat) (set : List ProfilesVar)
    (before : SetBefore num fields i set) (inside : i + profiles.length = num) :
    WellBalanced true set (copyDataProfiles copyOne i profiles) ∧
      SetBefore num fields num (setAfter set (copyDataProfiles copyOne i profiles)) := by
  induction profiles generalizing i set with
  | nil =>
    obtain rfl : i = num := inside
    exact ⟨trivial, before⟩
  | cons profile rest ih =>
    rw [List.length_cons] at inside
    obtain ⟨first, next⟩ := one i profile set (by omega) before
    obtain ⟨balanced, after⟩ := ih (i + 1) _ next (by omega)
    simp only [copyDataProfiles, balanced_append, setAfter_append]
    exact ⟨⟨first, balanced⟩, after⟩

theorem answers_copyDataProfiles
    {copyOne : Nat → DataProfileInfo → List (DispatchStep ProfilesVar)}
    (one : ∀ i profile, Answers (copyOne i profile)) (profiles : List DataProfileInfo) (i : Nat) :
    Answers (copyDataProfiles copyOne i profiles) := by
  induction profiles generalizing i with
  | nil => exact answers_nil
  | cons profile rest ih => exact (one i profile).append (ih (i + 1))

/-- The fields of a profile that are set, in front of what was set before it. -/
theorem setBefore_fields {i : Nat} {set : List ProfilesVar} (before : SetBefore num fields i set)
    (inside : i < num) (names : List ProfileField) (known : ∀ name ∈ names, name ∈ fields) :
    SetBefore num fields (i + 1) (names.map (.field i) ++ set) := by
  constructor
  · intro j name member
    rcases List.mem_append.mp member with new | old
    · simp only [List.mem_map, ProfilesVar.field.injEq] at new
      obtain ⟨-, -, rfl, -⟩ := new
      exact Nat.lt_succ_self _
    · exact Nat.lt_succ_of_lt (before.1 j name old)
  · intro var member
    rcases List.mem_append.mp member with new | old
    · obtain ⟨name, isName, rfl⟩ := List.mem_map.mp new
      exact mem_freeSetDataProfileData.mpr ⟨inside, known name isName⟩
    · exact before.2 var old

theorem copyDataProfile_fits (isRoaming : Bool) (i : Nat) (profile : DataProfileInfo)
    (set : List ProfilesVar) (inside : i < num) (before : SetBefore num profileFields i set) :
    WellBalanced true set (copyDataProfile isRoaming num i profile) ∧
      SetBefore num profileFields (i + 1)
        (setAfter set (copyDataProfile isRoaming num i profile)) := by
  have unset : ∀ name, .field i name ∉ set :=
    fun name member => Nat.lt_irrefl i (before.1 i name member)
  have freed : ∀ names : List ProfileField, (∀ name ∈ names, name ∈ profileFields) →
      ∀ var ∈ names.map (.field i) ++ set, var ∈ freeSetDataProfileData num profileFields :=
    fun names known => (setBefore_fields before inside names known).2
  simp only [copyDataProfile, balanced_append, setAfter_append, setAfter_copy]
  refine ⟨⟨⟨⟨?_, ?_⟩, ?_⟩, ?_⟩, setBefore_fields before inside
    [.password, .user, .protocol, .apn] (by decide)⟩
  · exact balanced_profile_copy (by decide) (freed [] (by decide)) (by simp [unset]) _ _
  · exact balanced_profile_copy (by decide) (freed [.apn] (by decide)) (by simp [unset]) _ _
  · exact balanced_profile_copy (by decide) (freed [.protocol, .apn] (by decide))
      (by simp [unset]) _ _
  · exact balanced_profile_copy (by decide) (freed [.user, .protocol, .apn] (by decide))
      (by simp [unset]) _ _

theorem copyDataProfile_v15_fits (i : Nat) (profile : DataProfileInfo)
    (set : List ProfilesVar) (inside : i < num) (before : SetBefore num profileFields_v15 i set) :
    WellBalanced true set (copyDataProfile_v15 num i profile) ∧
      SetBefore num profileFields_v15 (i + 1)
        (setAfter set (copyDataProfile_v15 num i profile)) := by
  have unset : ∀ name, .field i name ∉ set :=
    fun name member => Nat.lt_irrefl i (before.1 i name member)
  have known : ∀ names : List ProfileField, ∀ name ∈ names, name ∈ profileFields_v15 := by
    intro names name _
    cases name <;> decide
  have freed : ∀ names : List ProfileField, ∀ var ∈ names.map (.field i) ++ set,
      var ∈ freeSetDataProfileData num profileFields_v15 :=
    fun names => (setBefore_fields before inside names (known names)).2
  simp only [copyDataProfile_v15, balanced_append, setAfter_append, setAfter_copy, setAfter]
  refine ⟨⟨⟨⟨⟨⟨⟨?_, ?_⟩, ?_⟩, ?_⟩, ?_⟩, ?_⟩, ?_, trivial⟩, setBefore_fields before inside
    [.mvnoMatchData, .password, .user, .roamingProtocol, .protocol, .apn] (known _)⟩
  · exact balanced_profile_copy (by decide) (freed []) (by simp [unset]) _ _
  · exact balanced_profile_copy (by decide) (freed [.apn]) (by simp [unset]) _ _
  · exact balanced_profile_copy (by decide) (freed [.protocol, .apn]) (by simp [unset]) _ _
  · exact balanced_profile_copy (by decide) (freed [.roamingProtocol, .protocol, .apn])
      (by simp [unset]) _ _
  · exact balanced_profile_copy (by decide) (freed [.user, .roamingProtocol, .protocol, .apn])
      (by simp [unset]) _ _
  · exact balanced_profile_copy (by decide)
      (freed [.password, .user, .roamingProtocol, .protocol, .apn]) (by simp [unset]) _ _
  · exact fun _ => covers_zeroed (nodup_freeSetDataProfileData (by decide))
      (freed [.mvnoMatchData, .password, .user, .roamingProtocol, .protocol, .apn])

theorem setBefore_arrays (num : Nat) (fields : List ProfileField) :
    SetBefore num fields 0 [.dataProfilePtrs, .dataProfiles] := by
  constructor <;> simp [freeSetDataProfileData]

/-- The loop over the profiles, with the two arrays in front of it. -/
theorem fits_profiles {copyOne : Nat → DataProfileInfo → List (DispatchStep ProfilesVar)}
    {profiles : List DataProfileInfo} (distinct : fields.Nodup)
    (one : ∀ i profile set, i < profiles.length → SetBefore profiles.length fields i set →
      WellBalanced true set (copyOne i profile) ∧
        SetBefore profiles.length fields (i + 1) (setAfter set (copyOne i profile)))
    (answers : ∀ i profile, Answers (copyOne i profile)) :
    Fits true (callocArray .dataProfiles [] :: callocArray .dataProfilePtrs [.dataProfiles] ::
      copyDataProfiles copyOne 0 profiles) (freeSetDataProfileData profiles.length fields) := by
  obtain ⟨balanced, after⟩ := balanced_copyDataProfiles one profiles 0 _
    (setBefore_arrays profiles.length fields) (Nat.zero_add _)
  refine ⟨⟨by decide, by decide, by decide, by decide, balanced⟩, ?_,
    ((answers_copyDataProfiles answers _ _).array _ _).array _ _⟩
  exact covers_zeroed (nodup_freeSetDataProfileData distinct) after.2

theorem wellFormed_setDataProfile (version : Int) (profiles : List DataProfileInfo)
    (isRoaming : Bool) : WellFormed (setDataProfile version profiles isRoaming) := by
  unfold setDataProfile
  dsimp only
  split
  · dsimp only [WellFormed]
    refine fits_profiles (by decide) (fun i profile set => copyDataProfile_fits isRoaming i profile set)
      fun i profile => ?_
    exact (((answers_copy _ _ _ _).append (answers_copy _ _ _ _)).append
      (answers_copy _ _ _ _)).append (answers_copy _ _ _ _)
  · dsimp only [WellFormed]
    refine fits_profiles (by decide) (fun i profile set => copyDataProfile_v15_fits i profile set)
      fun i profile => ?_
    exact ((((((answers_copy _ _ _ _).append (answers_copy _ _ _ _)).append
      (answers_copy _ _ _ _)).append (answers_copy _ _ _ _)).append (answers_copy _ _ _ _)).append
      (answers_copy _ _ _ _)).append (answers_nil.check _ _ _)

end profiles

/-- Every dispatcher frees what it holds, and answers what it does not forward. -/
theorem wellFormed_dispatch (version : Int) (request : RadioRequest) :
    WellFormed (request.dispatch version) := by
  cases request with
  | dispatchVoid | dispatchRaw | nvReadItem | setUiccSubscription | sendCdmaSms
    | acknowledgeLastIncomingCdmaSms | setGsmBroadcastConfig | setCdmaBroadcastConfig
    | writeSmsToRuim | setRadioCapability => exact wellFormed_withoutCopies _ _ _
  | dispatchString | dispatchCallForwardStatus | dispatchIccApdu | nvWriteItem =>
    exact wellFormed_withOneCopy _ _ _ _ _
  | dispatchStrings | dispatchStringVec => exact wellFormed_withStrings _ _ _
  | dispatchInts => exact wellFormed_dispatchInts _ _
  | dial => exact wellFormed_dial _
  | setupDataCall =>
    dsimp only [RadioRequest.dispatch, setupDataCall]
    split
    · exact wellFormed_withStrings _ _ _
    · split
      · split
        · exact wellFormed_answerError _ _ _
        · exact wellFormed_withStrings _ _ _
      · exact wellFormed_answerError _ _ _
  | iccIOForApp => exact wellFormed_iccIOForApp _
  | writeSmsToSim => exact wellFormed_writeSmsToSim _ _ _
  | setInitialAttachApn => exact wellFormed_setInitialAttachApn _ _ _ _
  | sendImsSms => exact wellFormed_sendImsSms _
  | iccOpenLogicalChannel =>
    dsimp only [RadioRequest.dispatch, iccOpenLogicalChannel]
    split <;> exact wellFormed_withOneCopy _ _ _ _ _
  | requestIccSimAuthentication => exact wellFormed_requestIccSimAuthentication _ _ _
  | setDataProfile => exact wellFormed_setDataProfile _ _ _
  | setAllowedCarriers => exact wellFormed_setAllowedCarriers _ _
  | sendDeviceState =>
    dsimp only [RadioRequest.dispatch, sendDeviceState]
    split
    · split
      · exact wellFormed_dispatchInts _ _
      · exact wellFormed_answerError _ _ _
    · exact wellFormed_dispatchInts _ _
  | setIndicationFilter =>
    dsimp only [RadioRequest.dispatch, setIndicationFilter]
    split
    · exact wellFormed_answerError _ _ _
    · exact wellFormed_dispatchInts _ _

@[simp] theorem text_copy (string : CString) : text (string.map .string) = string := by
  cases string <;> rfl

@[simp] theorem text_string (bytes : List UInt8) : text (some (.string bytes)) = some bytes := rfl

@[simp] theorem text_none : text none = none := rfl

/-- What stands in the variables of a dispatcher when it calls `onRequest`. -/
def strings (dispatch : Dispatch) (var : dispatch.Var) : CString :=
  text (contents dispatch.steps var)

/-- The data that a dispatcher forwards. -/
def forwarded (dispatch : Dispatch) : RilData := dispatch.data (strings dispatch)

/-- The check that keeps a dispatcher from forwarding. -/
def refusal (dispatch : Dispatch) : Option (Option Int) := rejected dispatch.steps

/-- The request is forwarded, once, with the strings of its steps. -/
def Forwards (build : RilBuild) (dispatch : Dispatch) (pRI : RequestInfo) (slotId : Int)
    (during : List RilEvent) (state next : RadioState) : Prop :=
  refusal dispatch = none ∧ next.memory.refused = state.memory.refused ∧
    next.ril = during.foldl (RilState.step build) state.ril ∧
    next.errorResponses = state.errorResponses ∧
    next.onRequests = state.onRequests ++
      [⟨dispatch.request, forwarded dispatch, pRI.address, slotId⟩]

/-- The request is answered, once: with the error of its check, or because memory ran out. -/
def AnswersError (dispatch : Dispatch) (pRI : RequestInfo) (function : Nat)
    (state next : RadioState) : Prop :=
  ∃ err, (refusal dispatch = some (some err) ∧
        next.memory.refused = state.memory.refused ∨
      err = RIL_E_NO_MEMORY ∧ next.memory.refused = state.memory.refused + 1) ∧
    next.ril = state.ril ∧ next.onRequests = state.onRequests ∧
    next.errorResponses = state.errorResponses ++
      [.responseFunction pRI.address function pRI.socket_id RESPONSE_SOLICITED pRI.token err none]

theorem dispatchRequest_settles (build : RilBuild) (chosen : Nat → Option Nat)
    {dispatch : Dispatch} (fits : WellFormed dispatch) (pRI : RequestInfo) {function : Nat}
    (answerable : pRI.pCI = some ⟨dispatch.request, some function⟩) (slotId : Int)
    (during : List RilEvent) (state : RadioState) :
    let next := state.dispatchRequest build chosen dispatch pRI slotId during
    next.memory.heap = state.memory.heap ∧ next.undefined = state.undefined ∧
      (Forwards build dispatch pRI slotId during state next ∨
        AnswersError dispatch pRI function state next) := by
  have ends := run_balanced chosen dispatch.steps
    (held_start dispatch.zeroed state.memory.heap) fits.balanced
  dsimp only
  unfold RadioState.dispatchRequest
  cases outcome : run chosen dispatch.steps (Allocations.start dispatch.zeroed) state.memory with
  | undefined =>
    rw [outcome] at ends
    exact ends.elim
  | failed failure memory =>
    rw [outcome] at ends
    obtain ⟨restored, why⟩ := ends
    cases failure with
    | none =>
      rcases why with ⟨silent, -⟩ | ⟨short, -⟩
      · exact absurd silent fits.answers.1
      · exact absurd (fits.answers.2 none short) (by simp)
    | some err =>
      simp only [RadioState.sendErrorResponse, answerable, Option.bind_some]
      refine ⟨restored, trivial, .inr ⟨err, ?_, rfl, rfl, rfl⟩⟩
      exact why.imp_right fun ⟨short, refused⟩ => ⟨by simpa using fits.answers.2 _ short, refused⟩
  | done vars memory =>
    rw [outcome] at ends
    obtain ⟨passes, refused, held⟩ := ends
    have number : RadioState.requestNumber dispatch pRI = some dispatch.request := by
      simp [RadioState.requestNumber, answerable]
    have reads : (fun var => text (read memory.heap (vars var))) = strings dispatch := by
      funext var
      rw [held.reads]
      simp [strings]
    have freed := held_freeAll held fits.covers (initialised_of_set held)
    simp only [RadioState.callOnRequest, number, reads, freed]
    exact ⟨trivial, trivial, .inl ⟨passes, refused, rfl, rfl, rfl⟩⟩

/-- What the vendor library is to read for a request that is forwarded: the strings
as they came, null for an empty one where the source says so. -/
def payload (version : Int) : RadioRequest → RilData
  | .dispatchVoid _ => .null
  | .dispatchRaw _ rawBytes => .raw rawBytes
  | .dispatchString _ str => .string (copyOf str.ofCStr false)
  | .dispatchStrings _ allowEmpty strings =>
    .strings (strings.map fun string => copyOf string.ofCStr allowEmpty)
  | .dispatchStringVec _ data => .strings (data.map fun string => copyOf string false)
  | .dispatchInts _ ints => .ints ints
  | .dispatchCallForwardStatus _ callInfo =>
    .callForwardInfo callInfo.status callInfo.reason callInfo.serviceClass callInfo.toa
      callInfo.timeSeconds (copyOf callInfo.number false)
  | .dispatchIccApdu _ message =>
    .simApdu message.sessionId message.cla message.instruction message.p1 message.p2 message.p3
      (copyOf message.data false)
  | .dial dialInfo =>
    .dial (copyOf dialInfo.address false) dialInfo.clir (dialInfo.uusInfo.head?.map fun uusInfo =>
      (uusInfo.uusType, uusInfo.uusDcs, uusInfo.uusData.size, copyOf uusInfo.uusData false))
  | .setupDataCall radioTechnology profile modemCognitive roamingAllowed isRoaming =>
    let first := [toString (radioTechnology + 2), toString profile.profileId, profile.apn,
      profile.user, profile.password, toString profile.authType]
    let strings := if version ≤ 14 then
        first ++ [if isRoaming then profile.roamingProtocol else profile.protocol]
      else first ++ [profile.protocol, profile.roamingProtocol,
        toString profile.supportedApnTypesBitmap, toString profile.bearerBitmap,
        toString (boolToInt modemCognitive), toString profile.mtu,
        ⟨(convertMvnoTypeToString profile.mvnoType).getD []⟩, profile.mvnoMatchData,
        toString (boolToInt roamingAllowed)]
    .strings (strings.map fun string => some string.c_str)
  | .iccIOForApp iccIo =>
    .simIo iccIo.command iccIo.fileId (copyOf iccIo.path false) iccIo.p1 iccIo.p2 iccIo.p3
      (copyOf iccIo.data false) (copyOf iccIo.pin2 false) (copyOf iccIo.aid false)
  | .writeSmsToSim status pdu smsc => .smsWriteArgs status (copyOf pdu false) (copyOf smsc false)
  | .setInitialAttachApn profile modemCognitive isRoaming =>
    if version ≤ 14 then
      .initialAttachApn (some profile.apn.c_str)
        (copyOf (if isRoaming then profile.roamingProtocol else profile.protocol) false)
        profile.authType (copyOf profile.user false) (copyOf profile.password false)
    else
      .initialAttachApn_v15 (some profile.apn.c_str) (copyOf profile.protocol false)
        (copyOf profile.roamingProtocol false) profile.authType (copyOf profile.user false)
        (copyOf profile.password false) profile.supportedApnTypesBitmap profile.bearerBitmap
        (boolToInt modemCognitive) profile.mtu
        ((convertMvnoTypeToString profile.mvnoType).getD []) (copyOf profile.mvnoMatchData false)
  | .sendCdmaSms sms => .cdmaSms (constructCdmaSms sms)
  | .acknowledgeLastIncomingCdmaSms errorClass smsCauseCode => .cdmaSmsAck errorClass smsCauseCode
  | .setGsmBroadcastConfig configInfo => .gsmBroadcastConfig (configInfo.map fun info =>
      ⟨info.fromServiceId, info.toServiceId, info.fromCodeScheme, info.toCodeScheme,
        boolToInt info.selected⟩)
  | .setCdmaBroadcastConfig configInfo => .cdmaBroadcastConfig (configInfo.map fun info =>
      ⟨info.serviceCategory, info.language, boolToInt info.selected⟩)
  | .writeSmsToRuim status message => .cdmaSmsWriteArgs status (constructCdmaSms message)
  | .sendImsSms message =>
    if message.tech = RADIO_TECH_3GPP then
      .imsGsmSms (boolToInt message.retry) message.messageRef
        (message.gsmMessage.head?.bind fun gsmMessage => copyOf gsmMessage.smscPdu false)
        (message.gsmMessage.head?.bind fun gsmMessage => copyOf gsmMessage.pdu false)
    else
      match message.cdmaMessage with
      | cdmaMessage :: _ => .imsCdmaSms (boolToInt message.retry) message.messageRef
          (constructCdmaSms cdmaMessage)
      | [] => .null
  | .iccOpenLogicalChannel aid p2 =>
    if version < 15 then .string (copyOf aid.ofCStr false)
    else .openChannelParams p2 (copyOf aid false)
  | .nvReadItem itemId => .nvReadItem itemId
  | .nvWriteItem itemId value => .nvWriteItem itemId (copyOf value false)
  | .setUiccSubscription slot appIndex subType actStatus =>
    .selectUiccSub slot appIndex subType actStatus
  | .requestIccSimAuthentication authContext authData aid =>
    .simAuthentication authContext (copyOf authData false) (copyOf aid false)
  | .setDataProfile profiles isRoaming =>
    let common := fun (profile : DataProfileInfo) (protocol : CString) =>
      { profileId := profile.profileId, apn := some profile.apn.c_str, protocol := protocol,
        authType := profile.authType, user := some profile.user.c_str,
        password := some profile.password.c_str, type := profile.type,
        maxConnsTime := profile.maxConnsTime, maxConns := profile.maxConns,
        waitTime := profile.waitTime, enabled := boolToInt profile.enabled : RilDataProfileInfo }
    if version ≤ 14 then
      .dataProfiles (profiles.map fun profile => common profile
        (some (if isRoaming then profile.roamingProtocol else profile.protocol).c_str))
    else
      .dataProfiles_v15 (profiles.map fun profile =>
        { common profile (copyOf profile.protocol false) with
          roamingProtocol := some profile.roamingProtocol.c_str
          supportedTypesBitmask := profile.supportedApnTypesBitmap
          bearerBitmask := profile.bearerBitmap
          mtu := profile.mtu
          mvnoType := (convertMvnoTypeToString profile.mvnoType).getD []
          mvnoMatchData := some profile.mvnoMatchData.c_str })
  | .setRadioCapability rc => .radioCapability 0 rc.session rc.phase rc.raf
      (rc.logicalModemUuid.c_str.take (MAX_UUID_LENGTH - 1)) rc.status
  | .setAllowedCarriers allowedCarriers excludedCarriers =>
    let carrier := fun carrier : Carrier =>
      ⟨carrier.mcc.c_str, carrier.mnc.c_str, carrier.matchType, carrier.matchData.c_str⟩
    .carrierRestrictions (allowedCarriers.map carrier) (excludedCarriers.map carrier)
  | .sendDeviceState deviceStateType state =>
    if version < 15 then .ints [boolToInt (!state)]
    else .ints [deviceStateType, boolToInt state]
  | .setIndicationFilter indicationFilter => .ints [indicationFilter]

theorem copyOf_empty_allowed (string : HidlString) : copyOf string true = some string.c_str := by
  simp [copyOf]

section loops

theorem contents_copyStrings_before (allowEmpty : Bool) (data : List HidlString) {i j : Nat}
    (before : j < i) : contents (copyStrings allowEmpty i data) (.element j) = none := by
  induction data generalizing i with
  | nil => rfl
  | cons string rest ih =>
    have different : j ≠ i := Nat.ne_of_lt before
    simp [copyStrings, contents_append, contents_copy, different, ih (Nat.lt_succ_of_lt before)]

theorem contents_copyStrings (allowEmpty : Bool) (data : List HidlString) (i k : Nat) :
    contents (copyStrings allowEmpty i data) (.element (i + k)) =
      data[k]?.bind fun string => (copyOf string allowEmpty).map .string := by
  induction data generalizing i k with
  | nil => rfl
  | cons string rest ih =>
    rw [copyStrings, contents_append, contents_copy]
    cases k with
    | zero => simp [contents_copyStrings_before]
    | succ k =>
      rw [show i + (k + 1) = i + 1 + k by omega, ih]
      simp [show i + 1 + k ≠ i by omega]

theorem forwarded_withStrings (request : Nat) (allowEmpty : Bool) (data : List HidlString) :
    forwarded (withStrings request allowEmpty data) =
      .strings (data.map fun string => copyOf string allowEmpty) := by
  dsimp only [forwarded, withStrings]
  congr 1
  refine List.ext_getElem (by simp) fun k inside _ => ?_
  have bound : k < data.length := by simpa using inside
  have stored := contents_copyStrings allowEmpty data 0 k
  rw [Nat.zero_add, List.getElem?_eq_getElem bound] at stored
  simp [strings, callocArray, contents, stored]

/-- A round of the loop sets only the fields of its own profile. -/
def SetsOwn (copyOne : Nat → DataProfileInfo → List (DispatchStep ProfilesVar)) : Prop :=
  ∀ i profile j name, j ≠ i → contents (copyOne i profile) (.field j name) = none

variable {copyOne : Nat → DataProfileInfo → List (DispatchStep ProfilesVar)}

theorem contents_copyDataProfiles_before (own : SetsOwn copyOne) (profiles : List DataProfileInfo)
    {i j : Nat} (before : j < i) (name : ProfileField) :
    contents (copyDataProfiles copyOne i profiles) (.field j name) = none := by
  induction profiles generalizing i with
  | nil => rfl
  | cons profile rest ih =>
    rw [copyDataProfiles, contents_append, own i profile j name (Nat.ne_of_lt before),
      ih (Nat.lt_succ_of_lt before)]
    rfl

theorem contents_copyDataProfiles (own : SetsOwn copyOne) (profiles : List DataProfileInfo)
    (i k : Nat) (name : ProfileField) :
    contents (copyDataProfiles copyOne i profiles) (.field (i + k) name) =
      profiles[k]?.bind fun profile => contents (copyOne (i + k) profile) (.field (i + k) name) := by
  induction profiles generalizing i k with
  | nil => rfl
  | cons profile rest ih =>
    rw [copyDataProfiles, contents_append]
    cases k with
    | zero =>
      rw [Nat.add_zero, contents_copyDataProfiles_before own rest (Nat.lt_succ_self i)]
      simp
    | succ k =>
      rw [show i + (k + 1) = i + 1 + k by omega, ih, own i profile _ name (by omega)]
      simp

theorem setsOwn_copyDataProfile (isRoaming : Bool) (num : Nat) :
    SetsOwn (copyDataProfile isRoaming num) := by
  intro i profile j name different
  simp [copyDataProfile, contents_append, contents_copy, different]

theorem setsOwn_copyDataProfile_v15 (num : Nat) : SetsOwn (copyDataProfile_v15 num) := by
  intro i profile j name different
  simp [copyDataProfile_v15, contents_append, contents_copy, contents, different]

/-- What stands in the fields of a profile. -/
theorem strings_profile {profiles : List DataProfileInfo} (own : SetsOwn copyOne) {k : Nat}
    (inside : k < profiles.length) (name : ProfileField) :
    contents (callocArray .dataProfiles [] :: callocArray .dataProfilePtrs [.dataProfiles] ::
      copyDataProfiles copyOne 0 profiles) (.field k name) =
      contents (copyOne k profiles[k]) (.field k name) := by
  have stored := contents_copyDataProfiles own profiles 0 k name
  rw [Nat.zero_add, List.getElem?_eq_getElem inside] at stored
  simpa [callocArray, contents] using stored

end loops

theorem forwarded_setDataProfile (version : Int) (profiles : List DataProfileInfo)
    (isRoaming : Bool) :
    forwarded (setDataProfile version profiles isRoaming) =
      payload version (.setDataProfile profiles isRoaming) := by
  unfold setDataProfile payload
  dsimp only
  split
  · dsimp only [forwarded]
    congr 1
    refine List.ext_getElem (by simp) fun k inside _ => ?_
    have bound : k < profiles.length := by simpa using inside
    simp only [List.getElem_mapIdx, List.getElem_map, rilDataProfile, strings,
      strings_profile (setsOwn_copyDataProfile _ _) bound]
    simp [copyDataProfile, contents_append, contents_copy, copyOf_empty_allowed]
  · dsimp only [forwarded]
    congr 1
    refine List.ext_getElem (by simp) fun k inside _ => ?_
    have bound : k < profiles.length := by simpa using inside
    simp only [List.getElem_mapIdx, List.getElem_map, rilDataProfile_v15, rilDataProfile, strings,
      strings_profile (setsOwn_copyDataProfile_v15 _) bound]
    simp [copyDataProfile_v15, contents_append, contents_copy, contents, copyOf_empty_allowed]

theorem refusal_answerError (request : Nat) (nullChecked : Bool) (err : Int) :
    refusal (answerError request nullChecked err) = some (some err) := rfl

theorem ofCStr_c_str (string : HidlString) : string.ofCStr.c_str = string.c_str := by
  simp only [HidlString.ofCStr, HidlString.c_str]
  exact List.takeWhile_idem

theorem forwarded_dispatchStrings (request : Nat) (data : List HidlString) :
    forwarded (dispatchStrings request true data) =
      .strings (data.map fun string => some string.c_str) := by
  rw [dispatchStrings, forwarded_withStrings]
  simp [Function.comp_def, copyOf_empty_allowed, ofCStr_c_str]

theorem forwarded_dial (dialInfo : DialInfo) (version : Int) :
    forwarded (dial dialInfo) = payload version (.dial dialInfo) := by
  obtain ⟨address, clir, uusInfo⟩ := dialInfo
  simp only [forwarded, dial, strings, payload]
  cases uusInfo with
  | nil => simp [contents_copy]
  | cons uusInfo rest =>
    by_cases empty : uusInfo.uusData.size = 0
    · simp [empty, contents_append, contents_copy, contents, copyOf]
    · simp [empty, contents_append, contents_copy]

/-- An array that has room for the bytes begins with them. -/
theorem copyBytes_of_fits {bytes : List UInt8} {count : Int} {max : Nat}
    (fits : bytes.length ≤ max) (all : count = bytes.length) :
    (copyBytes count max bytes).take bytes.length = bytes := by
  have limit : (min count (max : Int)).toNat = bytes.length := by omega
  simp [copyBytes, limit]

/-- A CDMA message is handed on whole if it is as short as its arrays are. -/
theorem short_cdma_sms_is_whole {sms : CdmaSmsMessage}
    (address : sms.address.digits.length ≤ RIL_CDMA_SMS_ADDRESS_MAX)
    (subAddress : sms.subAddress.digits.length ≤ RIL_CDMA_SMS_SUBADDRESS_MAX)
    (bearerData : sms.bearerData.length ≤ RIL_CDMA_SMS_BEARER_DATA_MAX) :
    let rcsm := constructCdmaSms sms
    rcsm.sAddress.digits.take rcsm.sAddress.number_of_digits.toNat = sms.address.digits ∧
      rcsm.sSubAddress.digits.take rcsm.sSubAddress.number_of_digits.toNat =
        sms.subAddress.digits ∧
      rcsm.aBearerData.take rcsm.uBearerDataLen.toNat = sms.bearerData := by
  have counted : ∀ digits : List UInt8, digits.length ≤ 36 →
      digits.length.toUInt8.toNat = digits.length := fun digits short => by
    simp only [UInt8.toNat_ofNat']
    omega
  have length : (sms.bearerData.length : Int).bmod (2 ^ 32) = sms.bearerData.length := by
    have short : sms.bearerData.length ≤ 255 := bearerData
    apply Int.bmod_eq_of_le
    all_goals omega
  simp only [constructCdmaSms, counted _ address, counted _ subAddress, length, Int.toNat_natCast]
  exact ⟨copyBytes_of_fits address rfl, copyBytes_of_fits subAddress rfl,
    copyBytes_of_fits bearerData rfl⟩

theorem forwarded_dispatchImsGsmSms {message : ImsSmsMessage}
    (passes : refusal (dispatchImsGsmSms message) = none) :
    forwarded (dispatchImsGsmSms message) =
      .imsGsmSms (boolToInt message.retry) message.messageRef
        (message.gsmMessage.head?.bind fun gsmMessage => copyOf gsmMessage.smscPdu false)
        (message.gsmMessage.head?.bind fun gsmMessage => copyOf gsmMessage.pdu false) := by
  obtain ⟨tech, retry, messageRef, cdmaMessage, gsmMessage⟩ := message
  match gsmMessage with
  | [] => cases passes
  | _ :: _ :: _ => cases passes
  | [gsmMessage] =>
    simp [forwarded, dispatchImsGsmSms, strings, contents, callocArray, contents_append,
      contents_copy]

theorem forwarded_dispatchImsCdmaSms {message : ImsSmsMessage}
    (passes : refusal (dispatchImsCdmaSms message) = none) :
    forwarded (dispatchImsCdmaSms message) =
      match message.cdmaMessage with
      | cdmaMessage :: _ => .imsCdmaSms (boolToInt message.retry) message.messageRef
          (constructCdmaSms cdmaMessage)
      | [] => .null := by
  obtain ⟨tech, retry, messageRef, cdmaMessage, gsmMessage⟩ := message
  match cdmaMessage with
  | [] => cases passes
  | _ :: _ :: _ => cases passes
  | [cdmaMessage] => rfl

/-- A request that passes its checks is forwarded as it came. -/
theorem forwarded_of_passes (version : Int) (request : RadioRequest)
    (passes : refusal (request.dispatch version) = none) :
    forwarded (request.dispatch version) = payload version request := by
  cases request with
  | dispatchVoid | dispatchRaw | nvReadItem | setUiccSubscription | dispatchInts => rfl
  | sendCdmaSms | acknowledgeLastIncomingCdmaSms | setGsmBroadcastConfig => rfl
  | setCdmaBroadcastConfig | writeSmsToRuim | setRadioCapability => rfl
  | setAllowedCarriers => rfl
  | dispatchString | dispatchCallForwardStatus | dispatchIccApdu | nvWriteItem =>
    simp [RadioRequest.dispatch, dispatchString, dispatchCallForwardStatus, dispatchIccApdu,
      nvWriteItem, withOneCopy, forwarded, strings, contents_copy, payload]
  | dispatchStrings =>
    simp only [RadioRequest.dispatch, dispatchStrings, forwarded_withStrings, payload, List.map_map]
    rfl
  | dispatchStringVec => exact forwarded_withStrings _ _ _
  | dial => exact forwarded_dial _ _
  | setupDataCall radioTechnology profile modemCognitive roamingAllowed isRoaming =>
    simp only [RadioRequest.dispatch, setupDataCall] at passes ⊢
    split at passes
    · rename_i old
      simp only [if_pos old, forwarded_dispatchStrings, payload, if_pos old.2]
      rfl
    · rename_i notOld
      split at passes
      · rename_i new
        cases known : convertMvnoTypeToString profile.mvnoType with
        | none => simp [known, refusal_answerError] at passes
        | some mvnoTypeStr =>
          have notOld' : ¬ version ≤ 14 := by omega
          simp only [if_neg notOld, if_pos new, forwarded_dispatchStrings, payload, if_neg notOld',
            known]
          rfl
      · simp [refusal_answerError] at passes
  | iccIOForApp =>
    simp [RadioRequest.dispatch, iccIOForApp, forwarded, strings, contents_append, contents_copy,
      payload]
  | writeSmsToSim =>
    simp [RadioRequest.dispatch, writeSmsToSim, forwarded, strings, contents_append, contents_copy,
      payload]
  | setInitialAttachApn =>
    simp only [RadioRequest.dispatch, setInitialAttachApn, payload]
    split <;> simp [forwarded, strings, contents_append, contents_copy, contents,
      copyOf_empty_allowed]
  | sendImsSms message =>
    simp only [RadioRequest.dispatch, sendImsSms, payload] at passes ⊢
    split at passes
    · rename_i gsm
      rw [if_pos gsm, if_pos gsm]
      exact forwarded_dispatchImsGsmSms passes
    · rename_i notGsm
      rw [if_neg notGsm, if_neg notGsm]
      split at passes
      · rename_i cdma
        rw [if_pos cdma]
        exact forwarded_dispatchImsCdmaSms passes
      · cases passes
  | iccOpenLogicalChannel =>
    simp only [RadioRequest.dispatch, iccOpenLogicalChannel, payload]
    split <;> simp [dispatchString, withOneCopy, forwarded, strings, contents_copy]
  | requestIccSimAuthentication =>
    simp [RadioRequest.dispatch, requestIccSimAuthentication, forwarded, strings, contents_append,
      contents_copy, payload]
  | setDataProfile => exact forwarded_setDataProfile _ _ _
  | sendDeviceState deviceStateType state =>
    simp only [RadioRequest.dispatch, sendDeviceState, payload] at passes ⊢
    split
    · split
      · rfl
      · rename_i old notExpected
        rw [if_pos old, if_neg notExpected] at passes
        cases passes
    · rfl
  | setIndicationFilter indicationFilter =>
    simp only [RadioRequest.dispatch, setIndicationFilter, payload] at passes ⊢
    split
    · rename_i old
      rw [if_pos old] at passes
      cases passes
    · rfl

/-- What has happened of a request that was added: it is forwarded as it came, or
answered because it may not pass or because memory ran out. -/
def Settled (build : RilBuild) (request : RadioRequest) (function : Nat) (serial slotId : Int)
    (during : List RilEvent) (state next : RadioState) : Prop :=
  let dispatch := request.dispatch build.version
  let added := state.ril.addRequestToList build serial slotId dispatch.request true
  (refusal dispatch = none ∧ next.memory.refused = state.memory.refused ∧
    next.ril = during.foldl (RilState.step build) added ∧
    next.errorResponses = state.errorResponses ∧
    next.onRequests = state.onRequests ++
      [⟨dispatch.request, payload build.version request, state.ril.nextAddress, slotId⟩]) ∨
  ∃ err, (refusal dispatch = some (some err) ∧ next.memory.refused = state.memory.refused ∨
      err = RIL_E_NO_MEMORY ∧ next.memory.refused = state.memory.refused + 1) ∧
    next.ril = added ∧ next.onRequests = state.onRequests ∧
    next.errorResponses = state.errorResponses ++
      [.responseFunction state.ril.nextAddress function slotId RESPONSE_SOLICITED serial err none]

/-- The request that is added stands at the head of its list. -/
theorem dispatch_allocated (build : RilBuild) (chosen : Nat → Option Nat) (dispatch : Dispatch)
    (serial slotId : Int) (during : List RilEvent) (state : RadioState) :
    state.dispatch build chosen dispatch serial slotId true during =
      RadioState.dispatchRequest build chosen dispatch
        ⟨state.ril.nextAddress, serial, commandInfo build dispatch.request, 0, 0, slotId, 0⟩ slotId
        during { state with
          ril := state.ril.addRequestToList build serial slotId dispatch.request true } := by
  simp [RadioState.dispatch, RadioState.addRequestToList, RilState.addRequestToList]

theorem dispatch_settles (build : RilBuild) (chosen : Nat → Option Nat)
    (request : RadioRequest) (serial slotId : Int) (during : List RilEvent) (state : RadioState)
    (function : Nat)
    (answerable : commandInfo build (request.dispatch build.version).request =
      some ⟨(request.dispatch build.version).request, some function⟩) :
    let next := state.dispatch build chosen (request.dispatch build.version) serial slotId true
      during
    next.memory.heap = state.memory.heap ∧ next.undefined = state.undefined ∧
      Settled build request function serial slotId during state next := by
  rw [dispatch_allocated]
  obtain ⟨restored, defined, forwards | answers⟩ := dispatchRequest_settles build chosen
    (wellFormed_dispatch build.version request)
    ⟨state.ril.nextAddress, serial, _, 0, 0, slotId, 0⟩ answerable slotId during
    { state with ril := state.ril.addRequestToList build serial slotId _ true }
  · obtain ⟨passes, refused, ril, errors, calls⟩ := forwards
    rw [forwarded_of_passes _ _ passes] at calls
    exact ⟨restored, defined, .inl ⟨passes, refused, ril, errors, calls⟩⟩
  · exact ⟨restored, defined, .inr answers⟩

/-- Whether the service answers a request with an error whether or not it was allocated. -/
def refusedUnseen (version : Int) : RadioRequest → Bool
  | .sendDeviceState deviceStateType _ => version < 15 && deviceStateType != LOW_DATA_EXPECTED
  | .setIndicationFilter _ => version < 15
  | _ => false

theorem nullChecked_dispatch (version : Int) (request : RadioRequest) :
    (request.dispatch version).nullChecked = !refusedUnseen version request := by
  cases request with
  | sendDeviceState deviceStateType state =>
    simp only [RadioRequest.dispatch, sendDeviceState, refusedUnseen]
    by_cases old : version < 15 <;> by_cases expected : deviceStateType = LOW_DATA_EXPECTED <;>
      simp [old, expected, dispatchInts, answerError]
  | setIndicationFilter indicationFilter =>
    simp only [RadioRequest.dispatch, setIndicationFilter, refusedUnseen]
    by_cases old : version < 15 <;> simp [old, dispatchInts, answerError]
  | setupDataCall =>
    simp only [RadioRequest.dispatch, setupDataCall]
    split
    · rfl
    · split
      · split <;> rfl
      · rfl
  | iccOpenLogicalChannel =>
    simp only [RadioRequest.dispatch, iccOpenLogicalChannel]
    split <;> rfl
  | setInitialAttachApn =>
    simp only [RadioRequest.dispatch, setInitialAttachApn]
    split <;> rfl
  | setDataProfile =>
    simp only [RadioRequest.dispatch, setDataProfile]
    split <;> rfl
  | sendImsSms message =>
    simp only [RadioRequest.dispatch, sendImsSms]
    split
    · rfl
    · split
      · unfold dispatchImsCdmaSms
        split <;> rfl
      · rfl
  | _ => rfl

/-- What becomes of a request that was not allocated: nothing, or a crash. -/
def Dropped (version : Int) (request : RadioRequest) (state next : RadioState) : Prop :=
  next = if refusedUnseen version request then
    { state with ril := { state.ril with crashed := true } } else state

theorem dispatch_unallocated (build : RilBuild) (chosen : Nat → Option Nat)
    (request : RadioRequest) (serial slotId : Int) (during : List RilEvent) (state : RadioState) :
    Dropped build.version request state
      (state.dispatch build chosen (request.dispatch build.version) serial slotId false during) := by
  simp only [Dropped, RadioState.dispatch, RadioState.addRequestToList, RilState.addRequestToList,
    Bool.false_eq_true, if_false, nullChecked_dispatch]
  cases refusedUnseen build.version request <;> rfl

/-- Whatever the allocations and the vendor library do, a request that the service
takes gives back all memory and frees nothing twice. It is forwarded once as it came or
answered once with an error, if it was allocated itself. -/
theorem request_keeps_memory_and_is_settled (build : RilBuild) (chosen : Nat → Option Nat)
    (request : RadioRequest) (serial slotId : Int) (allocated : Bool) (during : List RilEvent)
    (state : RadioState) (function : Nat)
    (answerable : commandInfo build (request.dispatch build.version).request =
      some ⟨(request.dispatch build.version).request, some function⟩) :
    let next := state.dispatch build chosen (request.dispatch build.version) serial slotId allocated
      during
    next.memory.heap = state.memory.heap ∧ next.undefined = state.undefined ∧
      if allocated then Settled build request function serial slotId during state next
      else Dropped build.version request state next := by
  cases allocated with
  | true => exact dispatch_settles build chosen request serial slotId during state function answerable
  | false =>
    have dropped := dispatch_unallocated build chosen request serial slotId during state
    refine ⟨?_, ?_, dropped⟩
    · rw [dropped]
      split <;> rfl
    · rw [dropped]
      split <;> rfl

/-- A table with an entry for each of the first requests. -/
def smallBuild : RilBuild := ⟨2, 12, (List.range 12).map fun number => ⟨number, some number⟩, []⟩

/-- A call to 112 whose number cannot be copied. -/
theorem dial_without_memory_is_settled :
    let request := RadioRequest.dial ⟨⟨[49, 49, 50]⟩, 0, []⟩
    let next := RadioState.start.dispatch smallBuild (fun _ => none) (request.dispatch 12) 7 0 true []
    next.memory.heap = RadioState.start.memory.heap ∧
      next.undefined = RadioState.start.undefined ∧
      Settled smallBuild request 10 7 0 [] RadioState.start next :=
  request_keeps_memory_and_is_settled smallBuild (fun _ => none)
    (.dial ⟨⟨[49, 49, 50]⟩, 0, []⟩) 7 0 true [] .start 10 rfl

end Msm8917Common.RilService
