import Msm8917Common.Runs
import Msm8917Common.SystemStatus

/-! The newest cached report of a kind against the report that was made last. `equals`
of most kinds looks at every field; where it leaves one out, a report that differs from
the newest in that field alone is dropped. -/
namespace Msm8917Common.Status.NewestReportProofs
open Runs

/-- What happens to the cache, at a time of the clock. -/
inductive StatusInput where
  | setNmeaString (now : Nat) (sentence : DebugSentence)
  | eventPosition (now : Nat) (location : UlpLocation) (locationEx : List UInt8)
  | eventDataItemNotify (now : Nat) (dataitem : DataItem)
  | setDefaultGnssEngineStates (now : Nat) (uninitialised : SystemStatusLocation)

def step (cache : SystemStatusReports) : StatusInput → SystemStatusReports
  | .setNmeaString now sentence => cache.setNmeaString now sentence
  | .eventPosition now location locationEx => (cache.eventPosition now location locationEx).1
  | .eventDataItemNotify now dataitem => (cache.eventDataItemNotify now dataitem).1
  | .setDefaultGnssEngineStates now uninitialised =>
    cache.setDefaultGnssEngineStates now uninitialised

/-- The reports that an input makes. The defaults are not reported by anything. -/
def StatusInput.updates : StatusInput → List Update
  | .setNmeaString _ sentence => sentence.updates
  | .eventPosition _ location locationEx =>
    [⟨.location, (⟨true, location, locationEx⟩ : SystemStatusLocation)⟩]
  | .eventDataItemNotify _ dataitem => dataitem.update.toList
  | .setDefaultGnssEngineStates _ _ => []

/-- The reported value: for a network report, as it is collated with the last one. -/
def reported {kind : ReportKind} (newest : Option kind.Item) (item : kind.Item) : kind.Item :=
  newest.elim item (kind.collate item)

/-- After the input the newest entry of each kind it reports on is the reported value. -/
def NewestIsReported (cache : SystemStatusReports) (input : StatusInput) : Prop :=
  ∀ update ∈ input.updates,
    ((step cache input).report update.kind).newest =
      some (reported (cache.report update.kind).newest update.item)

/-- What `equals` of a kind leaves out agrees with the newest entry, where what it looks
at does; and a cell report brings no data along that is not there already. -/
def HiddenAgrees : (kind : ReportKind) → Option kind.Item → kind.Item → Prop
  | .location, newest, (item : SystemStatusLocation) =>
    ∀ cur : SystemStatusLocation, newest = some cur → cur.equals item = true →
      cur.mValid = item.mValid ∧
        cur.mLocation.gpsLocation.flags = item.mLocation.gpsLocation.flags ∧
        cur.mLocation.gpsLocation.speed = item.mLocation.gpsLocation.speed ∧
        cur.mLocation.gpsLocation.bearing = item.mLocation.gpsLocation.bearing ∧
        cur.mLocation.gpsLocation.accuracy = item.mLocation.gpsLocation.accuracy ∧
        cur.mLocation.gpsLocation.vertUncertainity =
          item.mLocation.gpsLocation.vertUncertainity ∧
        cur.mLocation.gpsLocation.timestamp = item.mLocation.gpsLocation.timestamp ∧
        cur.mLocation.rest = item.mLocation.rest ∧ cur.mLocationEx = item.mLocationEx
  | .bestPosition, newest, (item : SystemStatusBestPosition) =>
    ∀ cur : SystemStatusBestPosition, newest = some cur → cur.equals item = true →
      cur.mValid = item.mValid
  | .networkInfo, newest, (item : SystemStatusNetworkInfo) =>
    ∀ cur : SystemStatusNetworkInfo, newest = some cur →
      cur.mAllTypes = (item.collate cur).mAllTypes →
        cur.mType = item.mType ∧ cur.mTypeName = item.mTypeName ∧
          cur.mSubTypeName = item.mSubTypeName ∧ cur.mAvailable = item.mAvailable ∧
          cur.mConnected = item.mConnected ∧ cur.mRoaming = item.mRoaming
  | .wifiSupplicantStatus, newest, (item : SystemStatusWifiSupplicantStatus) =>
    ∀ cur : SystemStatusWifiSupplicantStatus, newest = some cur → cur.equals item = true →
      cur.mApMacAddress = item.mApMacAddress
  | .btDeviceScanDetail, newest, item | .btLeDeviceScanDetail, newest, item =>
    ∀ cur : SrnDeviceScanDetails, newest = some cur → cur = item
  | .rilServiceInfo, newest, item | .rilCellInfo, newest, item =>
    newest = some item ∨ (item : Option Nat) = none
  | _, _, _ => True

/-- So for each report that the input makes. -/
def NothingHidden (cache : SystemStatusReports) (input : StatusInput) : Prop :=
  ∀ update ∈ input.updates,
    HiddenAgrees update.kind (cache.report update.kind).newest update.item

section Equals

theorem same_iff {value other : FloatValue} :
    value.same other = true ↔ value ≠ .nan ∧ value = other := by
  simp only [FloatValue.same, Bool.and_eq_true, decide_eq_true_eq]

theorem timeAndClock_eq {this peer : SystemStatusTimeAndClock}
    (equal : this.equals peer = true) : this = peer := by
  cases this
  cases peer
  simp only [SystemStatusTimeAndClock.equals, Bool.and_eq_true, beq_iff_eq] at equal
  simp only [equal]

theorem rfAndParams_eq {this peer : SystemStatusRfAndParams}
    (equal : this.equals peer = true) : this = peer := by
  cases this
  cases peer
  simp only [SystemStatusRfAndParams.equals, Bool.and_eq_true, beq_iff_eq, same_iff] at equal
  simp only [equal]

theorem injectedPosition_eq {this peer : SystemStatusInjectedPosition}
    (equal : this.equals peer = true) : this = peer := by
  cases this
  cases peer
  simp only [SystemStatusInjectedPosition.equals, Bool.and_eq_true, beq_iff_eq, same_iff] at equal
  simp only [equal]

theorem xtra_eq {this peer : SystemStatusXtra}
    (equal : this.equals peer = true) : this = peer := by
  cases this
  cases peer
  simp only [SystemStatusXtra.equals, Bool.and_eq_true, beq_iff_eq] at equal
  simp only [equal]

theorem ephemeris_eq {this peer : SystemStatusEphemeris}
    (equal : this.equals peer = true) : this = peer := by
  cases this
  cases peer
  simp only [SystemStatusEphemeris.equals, Bool.and_eq_true, beq_iff_eq] at equal
  simp only [equal]

theorem svHealth_eq {this peer : SystemStatusSvHealth}
    (equal : this.equals peer = true) : this = peer := by
  cases this
  cases peer
  simp only [SystemStatusSvHealth.equals, Bool.and_eq_true, beq_iff_eq] at equal
  simp only [equal]

theorem positionFailure_eq {this peer : SystemStatusPositionFailure}
    (equal : this.equals peer = true) : this = peer := by
  cases this
  cases peer
  simp only [SystemStatusPositionFailure.equals, Bool.and_eq_true, beq_iff_eq] at equal
  simp only [equal]

theorem timeChange_eq {this peer : TimeChangeDataItem}
    (equal : this.equals peer = true) : this = peer := by
  cases this
  cases peer
  simp only [TimeChangeDataItem.equals, Bool.and_eq_true, beq_iff_eq] at equal
  simp only [equal]

theorem navData_eq {this peer : SystemStatusNavData} (equal : this.equals peer = true) :
    this = peer := by
  cases this with | mk mNav => ?_
  cases peer with | mk peerNav => ?_
  refine congrArg SystemStatusNavData.mk (funext fun i => ?_)
  have each := List.all_eq_true.mp equal i (List.mem_finRange i)
  simp only [Bool.and_eq_true, beq_iff_eq] at each
  obtain ⟨⟨type, source⟩, age⟩ := each
  exact SystemStatusNav.mk.injEq .. |>.mpr ⟨type, source, age⟩

end Equals

section Update

/-- The newest entry is the reported value, unless `equals` keeps another one. -/
private theorem kept_iff {α : Type} (kept : Bool) (cur reported : α) :
    (if kept = true then some cur else some reported) = some reported ↔
      (kept = true → cur = reported) := by
  cases kept <;> simp

private theorem location_iff (cur item : SystemStatusLocation) :
    (cur.equals item = true → cur = item) ↔ HiddenAgrees .location (some cur) item := by
  constructor
  · rintro same _ ⟨⟩ equal
    cases same equal
    exact ⟨rfl, rfl, rfl, rfl, rfl, rfl, rfl, rfl, rfl⟩
  · intro hidden equal
    obtain ⟨valid, flags, speed, bearing, accuracy, vertical, time, rest, extended⟩ :=
      hidden cur rfl equal
    simp only [SystemStatusLocation.equals, Bool.and_eq_true, same_iff] at equal
    obtain ⟨⟨⟨-, latitude⟩, -, longitude⟩, -, altitude⟩ := equal
    cases cur with | mk mValid mLocation mLocationEx => ?_
    cases item with | mk itemValid itemLocation itemLocationEx => ?_
    cases mLocation with | mk gpsLocation others => ?_
    cases itemLocation with | mk itemGpsLocation itemOthers => ?_
    cases gpsLocation
    cases itemGpsLocation
    simp only at *
    simp only [valid, flags, speed, bearing, accuracy, vertical, time, rest, extended, latitude,
      longitude, altitude]

private theorem bestPosition_iff (cur item : SystemStatusBestPosition) :
    (cur.equals item = true → cur = item) ↔ HiddenAgrees .bestPosition (some cur) item := by
  constructor
  · rintro same _ ⟨⟩ equal
    cases same equal
    rfl
  · intro hidden equal
    have valid := hidden cur rfl equal
    cases cur
    cases item
    simp only [SystemStatusBestPosition.equals, Bool.and_eq_true, same_iff] at equal valid
    simp only [equal, valid]

private theorem wifiSupplicantStatus_iff (cur item : SystemStatusWifiSupplicantStatus) :
    (cur.equals item = true → cur = item) ↔
      HiddenAgrees .wifiSupplicantStatus (some cur) item := by
  constructor
  · rintro same _ ⟨⟩ equal
    cases same equal
    rfl
  · intro hidden equal
    have address := hidden cur rfl equal
    cases cur
    cases item
    simp only [SystemStatusWifiSupplicantStatus.equals, Bool.and_eq_true, beq_iff_eq]
      at equal address
    simp only [equal, address]

private theorem networkInfo_iff (cur item : SystemStatusNetworkInfo) :
    (cur.equals (item.collate cur) = true → cur = item.collate cur) ↔
      HiddenAgrees .networkInfo (some cur) item := by
  rw [SystemStatusNetworkInfo.equals, beq_iff_eq]
  constructor
  · rintro same _ ⟨⟩ types
    have same := same types
    refine ⟨?_, ?_, ?_, ?_, ?_, ?_⟩ <;> rw [same] <;> rfl
  · intro hidden types
    obtain ⟨type, name, subName, available, connected, roaming⟩ := hidden cur rfl types
    have fields : item.collate cur = ⟨(item.collate cur).mAllTypes, item.mType, item.mTypeName,
      item.mSubTypeName, item.mAvailable, item.mConnected, item.mRoaming⟩ := rfl
    rw [fields, ← types, ← type, ← name, ← subName, ← available, ← connected, ← roaming]

private theorem first_cell_iff (item : Option Nat) :
    some none = some item ↔ none = some item ∨ item = none := by
  cases item <;> simp

private theorem cell_iff (cur item : Option Nat) :
    (if (cur == item) = true then some cur else some none) = some item ↔
      some cur = some item ∨ item = none := by
  rw [Option.some_inj]
  split
  next same =>
    rw [beq_iff_eq] at same
    exact iff_of_true (congrArg some same) (Or.inl same)
  next other =>
    rw [beq_iff_eq] at other
    rw [Option.some_inj, eq_comm, or_iff_right other]

private theorem scan_iff (cur item : SrnDeviceScanDetails) :
    (if cur.equals item = true then some cur else some item) = some item ↔
      ∀ stored, some cur = some stored → stored = item := by
  rw [kept_iff]
  constructor
  · rintro same _ ⟨⟩
    exact same rfl
  · exact fun same _ => same cur rfl

/-- The first report of a kind is stored as it is copied. -/
private theorem first_is_reported_iff {kind : ReportKind} (item : kind.Item) :
    some (kind.copied item) = some item ↔ HiddenAgrees kind none item := by
  cases kind
  case rilServiceInfo => exact first_cell_iff item
  case rilCellInfo => exact first_cell_iff item
  case location => exact iff_of_true rfl fun _ absent => nomatch absent
  case bestPosition => exact iff_of_true rfl fun _ absent => nomatch absent
  case networkInfo => exact iff_of_true rfl fun _ absent => nomatch absent
  case wifiSupplicantStatus => exact iff_of_true rfl fun _ absent => nomatch absent
  case btDeviceScanDetail => exact iff_of_true rfl fun _ absent => nomatch absent
  case btLeDeviceScanDetail => exact iff_of_true rfl fun _ absent => nomatch absent
  all_goals exact iff_of_true rfl trivial

/-- A report becomes the newest entry exactly where nothing that differs is hidden. -/
theorem newest_is_reported_iff {kind : ReportKind} (report : Report kind)
    (s : SystemStatusItem kind.Item) :
    Report.newest (setIteminReport report s).1 = some (reported report.newest s.data) ↔
      HiddenAgrees kind report.newest s.data := by
  rw [Report.newest_setIteminReport]
  generalize s.data = item
  cases report.newest with
  | none => exact first_is_reported_iff item
  | some cur =>
    cases kind
    case location => exact (kept_iff _ _ _).trans (location_iff cur item)
    case bestPosition => exact (kept_iff _ _ _).trans (bestPosition_iff cur item)
    case networkInfo => exact (kept_iff _ _ _).trans (networkInfo_iff cur item)
    case wifiSupplicantStatus => exact (kept_iff _ _ _).trans (wifiSupplicantStatus_iff cur item)
    case rilServiceInfo => exact cell_iff cur item
    case rilCellInfo => exact cell_iff cur item
    case btDeviceScanDetail => exact scan_iff cur item
    case btLeDeviceScanDetail => exact scan_iff cur item
    all_goals refine iff_of_true ((kept_iff _ _ _).mpr fun equal => ?_) trivial
    case timeAndClock => exact timeAndClock_eq equal
    case rfAndParams => exact rfAndParams_eq equal
    case injectedPosition => exact injectedPosition_eq equal
    case xtra => exact xtra_eq equal
    case ephemeris => exact ephemeris_eq equal
    case svHealth => exact svHealth_eq equal
    case navData => exact navData_eq equal
    case positionFailure => exact positionFailure_eq equal
    case timeZoneChange => exact timeChange_eq equal
    case timeChange => exact timeChange_eq equal
    case xoState | errRecovery | pdr => exact @eq_of_beq Nat _ _ _ _ equal
    case serviceStatus => exact @eq_of_beq Int _ _ _ _ equal
    case model | manufacturer | tac | mccMnc => exact @eq_of_beq String _ _ _ _ equal
    all_goals exact @eq_of_beq Bool _ _ _ _ equal

end Update

section Step

private theorem report_update (cache : SystemStatusReports) (now : Nat) (update : Update) :
    (cache.update now update).1.report update.kind =
      (setIteminReport (cache.report update.kind) ⟨now, now, update.item⟩).1 := by
  simp only [SystemStatusReports.update, SystemStatusReports.set, Function.update_self]

private theorem report_update_of_ne (cache : SystemStatusReports) (now : Nat) {update : Update}
    {kind : ReportKind} (other : kind ≠ update.kind) :
    (cache.update now update).1.report kind = cache.report kind := by
  simp only [SystemStatusReports.update, SystemStatusReports.set, Function.update_of_ne other]

private theorem report_updates_of_notMem (now : Nat) {updates : List Update} {kind : ReportKind}
    (cache : SystemStatusReports) (none : kind ∉ updates.map Update.kind) :
    (updates.foldl (fun cache update => (cache.update now update).1) cache).report kind =
      cache.report kind := by
  induction updates generalizing cache with
  | nil => rfl
  | cons update rest ih =>
    obtain ⟨other, later⟩ := List.ne_and_not_mem_of_not_mem_cons none
    exact (ih _ later).trans (report_update_of_ne cache now other)

/-- Reports of different kinds do not meet. -/
private theorem report_updates (now : Nat) {updates : List Update} (cache : SystemStatusReports)
    (distinct : (updates.map Update.kind).Nodup) {update : Update} (member : update ∈ updates) :
    (updates.foldl (fun cache update => (cache.update now update).1) cache).report update.kind =
      (setIteminReport (cache.report update.kind) ⟨now, now, update.item⟩).1 := by
  induction updates generalizing cache with
  | nil => cases member
  | cons first rest ih =>
    obtain ⟨alone, distinct⟩ := List.nodup_cons.mp distinct
    rcases List.mem_cons.mp member with rfl | later
    · exact (report_updates_of_notMem now _ alone).trans (report_update cache now update)
    · have other : update.kind ≠ first.kind :=
        fun same => alone (same ▸ List.mem_map_of_mem later)
      rw [List.foldl_cons, ih _ distinct later, report_update_of_ne cache now other]

theorem updates_distinct (input : StatusInput) : (input.updates.map Update.kind).Nodup := by
  cases input with
  | setNmeaString now sentence => cases sentence <;> simp [StatusInput.updates, DebugSentence.updates]
  | eventPosition now location locationEx => exact List.nodup_singleton _
  | eventDataItemNotify now dataitem =>
    cases update : dataitem.update <;> simp [StatusInput.updates, update]
  | setDefaultGnssEngineStates now uninitialised => exact List.nodup_nil

/-- What an input reports goes through `setIteminReport`, kind by kind. -/
private theorem report_step (cache : SystemStatusReports) (input : StatusInput) :
    ∃ now, ∀ update ∈ input.updates, (step cache input).report update.kind =
      (setIteminReport (cache.report update.kind) ⟨now, now, update.item⟩).1 := by
  have distinct := updates_distinct input
  cases input with
  | setNmeaString now sentence => exact ⟨now, fun _ => report_updates now cache distinct⟩
  | eventPosition now location locationEx =>
    exact ⟨now, fun _ => report_updates now cache distinct⟩
  | eventDataItemNotify now dataitem =>
    refine ⟨now, fun update member => ?_⟩
    have found : dataitem.update = some update := Option.mem_toList.mp member
    simp only [step, SystemStatusReports.eventDataItemNotify, found]
    exact report_update cache now update
  | setDefaultGnssEngineStates now uninitialised => exact ⟨now, fun _ none => by cases none⟩

theorem newest_reported_step_iff (cache : SystemStatusReports) (input : StatusInput) :
    NewestIsReported cache input ↔ NothingHidden cache input := by
  obtain ⟨now, stored⟩ := report_step cache input
  refine forall₂_congr fun update member => ?_
  rw [stored update member]
  exact newest_is_reported_iff (cache.report update.kind) ⟨now, now, update.item⟩

end Step

/-- In every history of updates and of resets to the defaults, the newest entry of a kind
is the report that was made last, after each update, exactly when no report differs from
the newest entry only in what `equals` of its kind leaves out, and no cell report brings
data along. -/
theorem newest_is_reported_iff_nothing_hidden (inputs : List StatusInput) :
    (∀ taken ∈ steps step .empty inputs, NewestIsReported taken.1 taken.2) ↔
      ∀ taken ∈ steps step .empty inputs, NothingHidden taken.1 taken.2 :=
  forall₂_congr fun taken _ => newest_reported_step_iff taken.1 taken.2

/-- A fix at one place, with a speed. -/
def fixWithSpeed (speed : FloatValue) : UlpLocation where
  gpsLocation := ⟨0, .finite 1, .finite 1, .finite 1, speed, .finite 0, .finite 1, .finite 1, 0⟩
  rest := []

/-- A fix at the same place as the last is dropped, whatever else it says. -/
theorem speed_at_the_same_place_is_dropped :
    ¬ ∀ inputs : List StatusInput,
      ∀ taken ∈ steps step .empty inputs, NewestIsReported taken.1 taken.2 := by
  intro all
  let first := StatusInput.eventPosition 0 (fixWithSpeed (.finite 0)) []
  let second := StatusInput.eventPosition 1 (fixWithSpeed (.finite 5)) []
  have newest := all [first, second] _ (last_mem_steps SystemStatusReports.empty [first] second)
  have hidden := (newest_reported_step_iff _ _).mp newest _ (List.mem_singleton_self _)
  obtain ⟨-, -, speed, -⟩ := hidden ⟨true, fixWithSpeed (.finite 0), []⟩ rfl (by decide)
  cases speed

end Msm8917Common.Status.NewestReportProofs
