import Mathlib.Data.List.Basic

/-! `RIL_onUnsolicitedResponse` of `ril.cpp`: the two tables of unsolicited responses,
the search for a code in them, and what is done with the entry. A code that neither
table has leaves the pointer at the first entry of the table that was searched. -/
namespace Msm8917Common.Ril.Unsolicited

inductive WakeType where
  | DONT_WAKE | WAKE_PARTIAL
  deriving DecidableEq

/-- The functions of namespace `radio` that the tables name. -/
inductive ResponseFunction where
  | radioStateChangedInd | callStateChangedInd | networkStateChangedInd | newSmsInd
  | newSmsStatusReportInd | newSmsOnSimInd | onUssdInd | nitzTimeReceivedInd
  | currentSignalStrengthInd | dataCallListChangedInd | suppSvcNotifyInd | stkSessionEndInd
  | stkProactiveCommandInd | stkEventNotifyInd | stkCallSetupInd | simSmsStorageFullInd
  | simRefreshInd | callRingInd | simStatusChangedInd | cdmaNewSmsInd | newBroadcastSmsInd
  | cdmaRuimSmsStorageFullInd | restrictedStateChangedInd | enterEmergencyCallbackModeInd
  | cdmaCallWaitingInd | cdmaOtaProvisionStatusInd | cdmaInfoRecInd | oemHookRawInd
  | indicateRingbackToneInd | resendIncallMuteInd | cdmaSubscriptionSourceChangedInd
  | cdmaPrlChangedInd | exitEmergencyCallbackModeInd | rilConnectedInd
  | voiceRadioTechChangedInd | cellInfoListInd | imsNetworkStateChangedInd
  | subscriptionStatusChangedInd | srvccStateNotifyInd | hardwareConfigChangedInd
  | radioCapabilityIndicationInd | onSupplementaryServiceIndicationInd
  | stkCallControlAlphaNotifyInd | lceDataInd | pcoDataInd | modemResetInd
  deriving DecidableEq

/-- `responseFunction` is `none` for a null pointer. -/
structure UnsolResponseInfo where
  requestNumber : Int
  responseFunction : Option ResponseFunction
  wakeType : WakeType
  deriving DecidableEq

def RIL_UNSOL_RESPONSE_BASE : Int := 1000
def SAMSUNG_UNSOL_RESPONSE_BASE : Int := 11000
def RIL_UNSOL_AM : Int := 11010
def RIL_UNSOL_NITZ_TIME_RECEIVED : Int := 1008
def INT_MIN : Int := -2147483648

def s_unsolResponses : List UnsolResponseInfo := [
  ⟨1000, some .radioStateChangedInd, .WAKE_PARTIAL⟩,
  ⟨1001, some .callStateChangedInd, .WAKE_PARTIAL⟩,
  ⟨1002, some .networkStateChangedInd, .WAKE_PARTIAL⟩,
  ⟨1003, some .newSmsInd, .WAKE_PARTIAL⟩,
  ⟨1004, some .newSmsStatusReportInd, .WAKE_PARTIAL⟩,
  ⟨1005, some .newSmsOnSimInd, .WAKE_PARTIAL⟩,
  ⟨1006, some .onUssdInd, .WAKE_PARTIAL⟩,
  ⟨1007, some .onUssdInd, .DONT_WAKE⟩,
  ⟨1008, some .nitzTimeReceivedInd, .WAKE_PARTIAL⟩,
  ⟨1009, some .currentSignalStrengthInd, .DONT_WAKE⟩,
  ⟨1010, some .dataCallListChangedInd, .WAKE_PARTIAL⟩,
  ⟨1011, some .suppSvcNotifyInd, .WAKE_PARTIAL⟩,
  ⟨1012, some .stkSessionEndInd, .WAKE_PARTIAL⟩,
  ⟨1013, some .stkProactiveCommandInd, .WAKE_PARTIAL⟩,
  ⟨1014, some .stkEventNotifyInd, .WAKE_PARTIAL⟩,
  ⟨1015, some .stkCallSetupInd, .WAKE_PARTIAL⟩,
  ⟨1016, some .simSmsStorageFullInd, .WAKE_PARTIAL⟩,
  ⟨1017, some .simRefreshInd, .WAKE_PARTIAL⟩,
  ⟨1018, some .callRingInd, .WAKE_PARTIAL⟩,
  ⟨1019, some .simStatusChangedInd, .WAKE_PARTIAL⟩,
  ⟨1020, some .cdmaNewSmsInd, .WAKE_PARTIAL⟩,
  ⟨1021, some .newBroadcastSmsInd, .WAKE_PARTIAL⟩,
  ⟨1022, some .cdmaRuimSmsStorageFullInd, .WAKE_PARTIAL⟩,
  ⟨1023, some .restrictedStateChangedInd, .WAKE_PARTIAL⟩,
  ⟨1024, some .enterEmergencyCallbackModeInd, .WAKE_PARTIAL⟩,
  ⟨1025, some .cdmaCallWaitingInd, .WAKE_PARTIAL⟩,
  ⟨1026, some .cdmaOtaProvisionStatusInd, .WAKE_PARTIAL⟩,
  ⟨1027, some .cdmaInfoRecInd, .WAKE_PARTIAL⟩,
  ⟨1028, some .oemHookRawInd, .WAKE_PARTIAL⟩,
  ⟨1029, some .indicateRingbackToneInd, .WAKE_PARTIAL⟩,
  ⟨1030, some .resendIncallMuteInd, .WAKE_PARTIAL⟩,
  ⟨1031, some .cdmaSubscriptionSourceChangedInd, .WAKE_PARTIAL⟩,
  ⟨1032, some .cdmaPrlChangedInd, .WAKE_PARTIAL⟩,
  ⟨1033, some .exitEmergencyCallbackModeInd, .WAKE_PARTIAL⟩,
  ⟨1034, some .rilConnectedInd, .WAKE_PARTIAL⟩,
  ⟨1035, some .voiceRadioTechChangedInd, .WAKE_PARTIAL⟩,
  ⟨1036, some .cellInfoListInd, .WAKE_PARTIAL⟩,
  ⟨1037, some .imsNetworkStateChangedInd, .WAKE_PARTIAL⟩,
  ⟨1038, some .subscriptionStatusChangedInd, .WAKE_PARTIAL⟩,
  ⟨1039, some .srvccStateNotifyInd, .WAKE_PARTIAL⟩,
  ⟨1040, some .hardwareConfigChangedInd, .WAKE_PARTIAL⟩,
  ⟨1041, none, .WAKE_PARTIAL⟩,
  ⟨1042, some .radioCapabilityIndicationInd, .WAKE_PARTIAL⟩,
  ⟨1043, some .onSupplementaryServiceIndicationInd, .WAKE_PARTIAL⟩,
  ⟨1044, some .stkCallControlAlphaNotifyInd, .WAKE_PARTIAL⟩,
  ⟨1045, some .lceDataInd, .WAKE_PARTIAL⟩,
  ⟨1046, some .pcoDataInd, .WAKE_PARTIAL⟩,
  ⟨1047, some .modemResetInd, .WAKE_PARTIAL⟩]

/-- Entry by entry from 11000 to 11076, and `RIL_UNSOL_SNDMGR_WB_AMR_REPORT`. -/
def s_unsolResponses_v : List UnsolResponseInfo :=
  (List.range 77).map (fun i : Nat => ⟨SAMSUNG_UNSOL_RESPONSE_BASE + i, none, .WAKE_PARTIAL⟩) ++
    [⟨20017, none, .WAKE_PARTIAL⟩]

inductive ResponseType where
  | RESPONSE_UNSOLICITED | RESPONSE_UNSOLICITED_ACK_EXP
  deriving DecidableEq

/-- What the call does to the outside. Where `int` overflows the process is aborted, as
the library is built with the integer sanitizer. -/
inductive Effect where
  | aborted
  | grabPartialWakeLock
  | setNitzTimeReceived
  | invoke (responseFunction : ResponseFunction) (responseType : ResponseType)
  | scheduleTimeout
  | keepNITZTime
  | releaseWakeLock
  deriving DecidableEq

/-- What the call finds: the version of the callbacks, what the response function
returns, and whether memory is left for the timeout and for the NITZ time. -/
structure Host where
  version : Int
  ret : Int
  timeoutAllocated : Bool
  timeAllocated : Bool
  deriving DecidableEq

/-- The loop over the vendor table: the last entry with the code, or the index as it was. -/
def vendorIndex (unsolResponse unsolResponseIndex : Int) : Int :=
  (List.range s_unsolResponses_v.length).foldl (fun index (pRI_index : Nat) =>
    if (s_unsolResponses_v[pRI_index]?).map (·.requestNumber) = some unsolResponse then
      (pRI_index : Int)
    else index) unsolResponseIndex

/-- The table that `pRI` points into, and `unsolResponseIndex`. -/
def tableAndIndex (unsolResponse : Int) : List UnsolResponseInfo × Int :=
  let unsolResponseIndex := unsolResponse - RIL_UNSOL_RESPONSE_BASE
  if unsolResponse > SAMSUNG_UNSOL_RESPONSE_BASE then
    (s_unsolResponses_v, vendorIndex unsolResponse unsolResponseIndex)
  else (s_unsolResponses, unsolResponseIndex)

/-- What `pRI` points at in the end: with an index outside of the table it is not moved. -/
def findEntry (unsolResponse : Int) : Option UnsolResponseInfo :=
  let (pRI, index) := tableAndIndex unsolResponse
  if 0 ≤ index ∧ index < pRI.length then pRI[index.toNat]? else pRI[0]?

/-- What is done once a response function is found. -/
def dispatch (host : Host) (unsolResponse : Int) (wakeType : WakeType)
    (responseFunction : ResponseFunction) : List Effect :=
  let shouldScheduleTimeout := wakeType = .WAKE_PARTIAL
  let responseType :=
    if host.version ≥ 13 ∧ wakeType = .WAKE_PARTIAL then
      ResponseType.RESPONSE_UNSOLICITED_ACK_EXP
    else .RESPONSE_UNSOLICITED
  let nitz := unsolResponse = RIL_UNSOL_NITZ_TIME_RECEIVED
  let invoked := (if shouldScheduleTimeout then [Effect.grabPartialWakeLock] else []) ++
    (if nitz then [.setNitzTimeReceived] else []) ++ [.invoke responseFunction responseType]
  let error_exit := if shouldScheduleTimeout then [Effect.releaseWakeLock] else []
  let kept := if host.ret ≠ 0 ∧ nitz then
      if host.timeAllocated then [.keepNITZTime] else error_exit
    else []
  if host.version < 13 ∧ shouldScheduleTimeout then
    if host.timeoutAllocated then invoked ++ [.scheduleTimeout] ++ kept else invoked ++ error_exit
  else invoked ++ kept

def RIL_onUnsolicitedResponse (s_registerCalled : Bool) (host : Host) (unsolResponse : Int) :
    List Effect :=
  if !s_registerCalled then []
  else if unsolResponse = RIL_UNSOL_AM ∨ unsolResponse = 22009 ∨ unsolResponse = 42010 then []
  else if unsolResponse - RIL_UNSOL_RESPONSE_BASE < INT_MIN then [.aborted]
  else
    match findEntry unsolResponse with
    | none => []
    | some pRI =>
      match pRI.responseFunction with
      | none => []
      | some responseFunction => dispatch host unsolResponse pRI.wakeType responseFunction

/-! Which codes reach their handlers -/

/-- The response functions that are invoked. -/
def invoked (effects : List Effect) : List ResponseFunction :=
  effects.filterMap fun
    | .invoke responseFunction _ => some responseFunction
    | _ => none

/-- An entry with the code decides which function is invoked, and whether a wake lock is
grabbed for it; with no such entry nothing is invoked. -/
structure ReachesItsHandler (unsolResponse : Int) (effects : List Effect) : Prop where
  listed : ∀ entry ∈ s_unsolResponses ++ s_unsolResponses_v,
    entry.requestNumber = unsolResponse →
      invoked effects = entry.responseFunction.toList ∧
        (entry.responseFunction.isSome →
          (.grabPartialWakeLock ∈ effects ↔ entry.wakeType = .WAKE_PARTIAL))
  unlisted : (∀ entry ∈ s_unsolResponses ++ s_unsolResponses_v,
    entry.requestNumber ≠ unsolResponse) → invoked effects = []

theorem invoked_append (before after : List Effect) :
    invoked (before ++ after) = invoked before ++ invoked after := List.filterMap_append

/-- Whatever else is done around it, just the one function is invoked. -/
theorem invoked_dispatch (host : Host) (unsolResponse : Int) (wakeType : WakeType)
    (responseFunction : ResponseFunction) :
    invoked (dispatch host unsolResponse wakeType responseFunction) = [responseFunction] := by
  simp only [dispatch, apply_ite invoked, invoked_append]
  simp only [invoked, List.filterMap_cons, List.filterMap_nil, ite_self, List.nil_append,
    List.append_nil]

theorem grabs_dispatch (host : Host) (unsolResponse : Int) (wakeType : WakeType)
    (responseFunction : ResponseFunction) :
    .grabPartialWakeLock ∈ dispatch host unsolResponse wakeType responseFunction ↔
      wakeType = .WAKE_PARTIAL := by
  simp only [dispatch, apply_ite (Effect.grabPartialWakeLock ∈ ·), List.mem_append]
  simp

/-! The tables -/

theorem s_unsolResponses_numbers : s_unsolResponses.map (·.requestNumber) =
    (List.range 48).map fun i : Nat => RIL_UNSOL_RESPONSE_BASE + (i : Int) := by decide

/-- The common table is numbered without a gap. -/
theorem requestNumber_at {i : Nat} {entry : UnsolResponseInfo}
    (found : s_unsolResponses[i]? = some entry) :
    entry.requestNumber = RIL_UNSOL_RESPONSE_BASE + i ∧ i < 48 := by
  have number : (s_unsolResponses.map (·.requestNumber))[i]? = some entry.requestNumber := by
    rw [List.getElem?_map, found, Option.map_some]
  rw [s_unsolResponses_numbers, List.getElem?_map] at number
  obtain ⟨j, inside, same⟩ := Option.map_eq_some_iff.mp number
  obtain ⟨below, rfl⟩ := List.getElem?_eq_some_iff.mp inside
  rw [List.getElem_range] at same
  exact ⟨same.symm, by simpa using below⟩

theorem requestNumber_bounds {entry : UnsolResponseInfo} (member : entry ∈ s_unsolResponses) :
    1000 ≤ entry.requestNumber ∧ entry.requestNumber ≤ 1047 := by
  obtain ⟨i, found⟩ := List.mem_iff_getElem?.mp member
  obtain ⟨number, below⟩ := requestNumber_at found
  rw [number, RIL_UNSOL_RESPONSE_BASE]
  omega

/-- No vendor response has a function. -/
theorem vendor_entry {entry : UnsolResponseInfo} (member : entry ∈ s_unsolResponses_v) :
    entry.responseFunction = none ∧ 11000 ≤ entry.requestNumber := by
  rcases List.mem_append.mp member with ordered | last
  · obtain ⟨i, _, rfl⟩ := List.mem_map.mp ordered
    exact ⟨rfl, by simp only [SAMSUNG_UNSOL_RESPONSE_BASE]; omega⟩
  · cases List.mem_singleton.mp last
    exact ⟨rfl, by decide⟩

theorem entry_of_tables {entry : UnsolResponseInfo}
    (member : entry ∈ s_unsolResponses ++ s_unsolResponses_v) :
    1000 ≤ entry.requestNumber ∧ entry.requestNumber ≤ 1047 ∨
      entry.responseFunction = none ∧ 11000 ≤ entry.requestNumber := by
  rcases List.mem_append.mp member with common | vendor
  · exact .inl (requestNumber_bounds common)
  · exact .inr (vendor_entry vendor)

theorem mem_of_findEntry {unsolResponse : Int} {entry : UnsolResponseInfo}
    (found : findEntry unsolResponse = some entry) : entry ∈ (tableAndIndex unsolResponse).1 := by
  unfold findEntry at found
  simp only at found
  split at found
  · exact List.mem_of_getElem? found
  · exact List.mem_of_getElem? found

/-! The call, by where the code lies -/

variable {host : Host} {unsolResponse : Int}

/-- Once registered, with a code that is neither ignored nor overflows. -/
theorem call_of_entry {entry : UnsolResponseInfo}
    (kept : ¬ (unsolResponse = RIL_UNSOL_AM ∨ unsolResponse = 22009 ∨ unsolResponse = 42010))
    (fits : ¬ unsolResponse - RIL_UNSOL_RESPONSE_BASE < INT_MIN)
    (found : findEntry unsolResponse = some entry) :
    RIL_onUnsolicitedResponse true host unsolResponse =
      entry.responseFunction.elim [] (dispatch host unsolResponse entry.wakeType) := by
  simp only [RIL_onUnsolicitedResponse, Bool.not_true, Bool.false_eq_true, if_false, if_neg kept,
    if_neg fits, found]
  cases entry.responseFunction <;> rfl

theorem call_of_vendor
    (kept : ¬ (unsolResponse = RIL_UNSOL_AM ∨ unsolResponse = 22009 ∨ unsolResponse = 42010))
    (vendor : SAMSUNG_UNSOL_RESPONSE_BASE < unsolResponse) :
    RIL_onUnsolicitedResponse true host unsolResponse = [] := by
  have fits : ¬ unsolResponse - RIL_UNSOL_RESPONSE_BASE < INT_MIN := by
    simp only [SAMSUNG_UNSOL_RESPONSE_BASE, RIL_UNSOL_RESPONSE_BASE, INT_MIN] at vendor ⊢
    omega
  cases found : findEntry unsolResponse with
  | none =>
    simp only [RIL_onUnsolicitedResponse, Bool.not_true, Bool.false_eq_true, if_false,
      if_neg kept, if_neg fits, found]
  | some entry =>
    have member := mem_of_findEntry found
    rw [tableAndIndex, if_pos vendor] at member
    rw [call_of_entry kept fits found, (vendor_entry member).1]
    rfl

/-- Between the tables and below them, the first entry of the common table is used. -/
theorem findEntry_of_outside (below : unsolResponse ≤ SAMSUNG_UNSOL_RESPONSE_BASE)
    (outside : unsolResponse < 1000 ∨ 1047 < unsolResponse) :
    findEntry unsolResponse = some ⟨1000, some .radioStateChangedInd, .WAKE_PARTIAL⟩ := by
  have common : tableAndIndex unsolResponse = (s_unsolResponses, unsolResponse - 1000) :=
    if_neg (Int.not_lt.mpr below)
  simp only [findEntry, common]
  exact if_neg (by change ¬ (_ ∧ unsolResponse - 1000 < 48); omega)

theorem findEntry_of_common (inside : 1000 ≤ unsolResponse ∧ unsolResponse ≤ 1047) :
    ∃ entry ∈ s_unsolResponses, findEntry unsolResponse = some entry ∧
      entry.requestNumber = unsolResponse ∧
      ∀ other ∈ s_unsolResponses ++ s_unsolResponses_v,
        other.requestNumber = unsolResponse → other = entry := by
  obtain ⟨i, rfl⟩ : ∃ i : Nat, unsolResponse = 1000 + i :=
    ⟨(unsolResponse - 1000).toNat, by omega⟩
  have below : i < s_unsolResponses.length := by
    change i < 48
    omega
  obtain ⟨entry, found⟩ : ∃ entry, s_unsolResponses[i]? = some entry :=
    ⟨_, List.getElem?_eq_getElem below⟩
  refine ⟨entry, List.mem_of_getElem? found, ?_, (requestNumber_at found).1,
    fun other member number => ?_⟩
  · have common : tableAndIndex (1000 + i) = (s_unsolResponses, (i : Int)) := by
      have small : ¬ (1000 + (i : Int) > SAMSUNG_UNSOL_RESPONSE_BASE) := by
        simp only [SAMSUNG_UNSOL_RESPONSE_BASE]
        omega
      simp only [tableAndIndex, if_neg small, RIL_UNSOL_RESPONSE_BASE]
      exact congrArg _ (by omega)
    simp only [findEntry, common]
    rw [if_pos ⟨Int.natCast_nonneg i, Int.ofNat_lt.mpr below⟩, Int.toNat_natCast, found]
  · rcases List.mem_append.mp member with common | vendor
    · obtain ⟨j, there⟩ := List.mem_iff_getElem?.mp common
      have place := (requestNumber_at there).1
      rw [number, RIL_UNSOL_RESPONSE_BASE] at place
      have same : i = j := by omega
      subst same
      exact Option.some.inj (there.symm.trans found)
    · have far := (vendor_entry vendor).2
      omega

/-- Below the common table and between the two tables, what is invoked is the handler of
the first entry. -/
theorem invoked_of_outside
    (kept : ¬ (unsolResponse = RIL_UNSOL_AM ∨ unsolResponse = 22009 ∨ unsolResponse = 42010))
    (fits : ¬ unsolResponse - RIL_UNSOL_RESPONSE_BASE < INT_MIN)
    (below : unsolResponse ≤ SAMSUNG_UNSOL_RESPONSE_BASE)
    (outside : unsolResponse < 1000 ∨ 1047 < unsolResponse) :
    invoked (RIL_onUnsolicitedResponse true host unsolResponse) = [.radioStateChangedInd] := by
  rw [call_of_entry kept fits (findEntry_of_outside below outside)]
  exact invoked_dispatch host unsolResponse _ _

theorem not_reachesItsHandler_of_outside
    (kept : ¬ (unsolResponse = RIL_UNSOL_AM ∨ unsolResponse = 22009 ∨ unsolResponse = 42010))
    (fits : ¬ unsolResponse - RIL_UNSOL_RESPONSE_BASE < INT_MIN)
    (below : unsolResponse ≤ SAMSUNG_UNSOL_RESPONSE_BASE)
    (outside : unsolResponse < 1000 ∨ 1047 < unsolResponse) :
    ¬ ReachesItsHandler unsolResponse (RIL_onUnsolicitedResponse true host unsolResponse) := by
  intro reaches
  have used : invoked (RIL_onUnsolicitedResponse true host unsolResponse) =
      [.radioStateChangedInd] := invoked_of_outside kept fits below outside
  simp only [SAMSUNG_UNSOL_RESPONSE_BASE] at below
  -- The base of the vendor codes is itself a listed code, with no function.
  by_cases base : unsolResponse = 11000
  · have first := (reaches.listed ⟨11000, none, .WAKE_PARTIAL⟩ (by decide) base.symm).1
    cases used.symm.trans first
  · have silent := reaches.unlisted fun entry member number => by
      rcases entry_of_tables member with common | vendor
      · omega
      · omega
    cases used.symm.trans silent

theorem reachesItsHandler_of_common
    (kept : ¬ (unsolResponse = RIL_UNSOL_AM ∨ unsolResponse = 22009 ∨ unsolResponse = 42010))
    (common : 1000 ≤ unsolResponse ∧ unsolResponse ≤ 1047) :
    ReachesItsHandler unsolResponse (RIL_onUnsolicitedResponse true host unsolResponse) := by
  obtain ⟨entry, member, found, number, only⟩ := findEntry_of_common common
  have fits : ¬ unsolResponse - RIL_UNSOL_RESPONSE_BASE < INT_MIN := by
    simp only [RIL_UNSOL_RESPONSE_BASE, INT_MIN]
    omega
  rw [call_of_entry kept fits found]
  refine ⟨fun other listed same => ?_, fun unlisted => ?_⟩
  · cases only other listed same
    cases entry.responseFunction with
    | none => exact ⟨rfl, fun some_function => absurd some_function (by decide)⟩
    | some responseFunction =>
      exact ⟨invoked_dispatch host unsolResponse _ _,
        fun _ => grabs_dispatch host unsolResponse _ _⟩
  · exact absurd number (unlisted entry (List.mem_append_left _ member))

/-- The vendor's codes have no function, and nothing is done for them. -/
theorem reachesItsHandler_of_vendor
    (kept : ¬ (unsolResponse = RIL_UNSOL_AM ∨ unsolResponse = 22009 ∨ unsolResponse = 42010))
    (vendor : SAMSUNG_UNSOL_RESPONSE_BASE < unsolResponse) :
    ReachesItsHandler unsolResponse (RIL_onUnsolicitedResponse true host unsolResponse) := by
  rw [call_of_vendor kept vendor]
  refine ⟨fun entry listed same => ?_, fun _ => rfl⟩
  rcases entry_of_tables listed with common | ⟨none_there, _⟩
  · simp only [SAMSUNG_UNSOL_RESPONSE_BASE] at vendor
    omega
  · rw [none_there]
    exact ⟨rfl, fun some_function => absurd some_function (by decide)⟩

/-- A code whose subtraction overflows is unlisted, and the program stops there. -/
theorem reachesItsHandler_of_overflow
    (kept : ¬ (unsolResponse = RIL_UNSOL_AM ∨ unsolResponse = 22009 ∨ unsolResponse = 42010))
    (overflow : unsolResponse - RIL_UNSOL_RESPONSE_BASE < INT_MIN) :
    ReachesItsHandler unsolResponse (RIL_onUnsolicitedResponse true host unsolResponse) := by
  have traps : RIL_onUnsolicitedResponse true host unsolResponse = [.aborted] := by
    simp only [RIL_onUnsolicitedResponse, Bool.not_true, Bool.false_eq_true, if_false,
      if_neg kept]
    exact if_pos overflow
  rw [traps]
  simp only [RIL_UNSOL_RESPONSE_BASE, INT_MIN] at overflow
  refine ⟨fun entry listed same => ?_, fun _ => rfl⟩
  rcases entry_of_tables listed with common | vendor
  · omega
  · omega

/-- A code reaches its own handler exactly when it lies in the common table, in or above
the vendor table, or so low that the subtraction of the base overflows. -/
theorem codes_reach_their_handlers_iff (host : Host) (unsolResponse : Int)
    (kept : ¬ (unsolResponse = RIL_UNSOL_AM ∨ unsolResponse = 22009 ∨ unsolResponse = 42010)) :
    ReachesItsHandler unsolResponse (RIL_onUnsolicitedResponse true host unsolResponse) ↔
      (1000 ≤ unsolResponse ∧ unsolResponse ≤ 1047) ∨
        SAMSUNG_UNSOL_RESPONSE_BASE < unsolResponse ∨
        unsolResponse - RIL_UNSOL_RESPONSE_BASE < INT_MIN := by
  constructor
  · intro reaches
    by_contra elsewhere
    simp only [not_or] at elsewhere
    obtain ⟨outside, below, fits⟩ := elsewhere
    exact not_reachesItsHandler_of_outside kept fits (Int.not_lt.mp below) (by omega) reaches
  · rintro (common | vendor | overflow)
    · exact reachesItsHandler_of_common kept common
    · exact reachesItsHandler_of_vendor kept vendor
    · exact reachesItsHandler_of_overflow kept overflow

theorem signal_strength_reaches_its_handler :
    ReachesItsHandler 1009 (RIL_onUnsolicitedResponse true ⟨13, 0, true, true⟩ 1009) ↔
      (1000 ≤ (1009 : Int) ∧ (1009 : Int) ≤ 1047) ∨ SAMSUNG_UNSOL_RESPONSE_BASE < 1009 ∨
        1009 - RIL_UNSOL_RESPONSE_BASE < INT_MIN :=
  codes_reach_their_handlers_iff ⟨13, 0, true, true⟩ 1009 (by decide)

/-- A code just above the common table is delivered as a change of the radio's state. -/
theorem an_unlisted_code_changes_the_radio_state :
    ¬ ∀ (host : Host) (unsolResponse : Int),
      ¬ (unsolResponse = RIL_UNSOL_AM ∨ unsolResponse = 22009 ∨ unsolResponse = 42010) →
      ReachesItsHandler unsolResponse (RIL_onUnsolicitedResponse true host unsolResponse) := by
  intro reaches
  have silent := (reaches ⟨13, 0, true, true⟩ 1048 (by decide)).unlisted
    fun entry member number => by
      rcases entry_of_tables member with common | vendor
      · omega
      · omega
  revert silent
  decide

end Msm8917Common.Ril.Unsolicited
