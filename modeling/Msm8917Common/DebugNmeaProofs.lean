import Mathlib.Data.List.TakeWhile
import Msm8917Common.DebugNmea

/-! What the debug sentences come to: their fields are the ones that were joined, a
satellite mask is read back unless it is too large for a `long`, and a sentence that is
too short for its parser stores what lay on the stack. -/
namespace Msm8917Common.Status
open CText

section Fields

/-- The fields joined by commas, with the checksum behind the asterisk. -/
def joined (fields : List Text) (checksum : Text) : Text :=
  [','].intercalate fields ++ '*' :: checksum

variable {fields : List Text} {checksum str_in : Text} {len_in : Int}

/-- The text of a sentence is cut at its first asterisk. -/
theorem fields_of_cut (accepted : loc_nmea_is_debug str_in len_in = true) {before : Text}
    (noStar : '*' ∉ before) (cut : cString str_in = before ++ '*' :: checksum) :
    SystemStatusNmeaBase str_in len_in = tokens (before ++ ',' :: checksum) := by
  simp only [SystemStatusNmeaBase, accepted, if_true, cut, dropWhile_to_first noStar,
    takeWhile_to_first noStar]

theorem fields_of_no_star (noStar : '*' ∉ cString str_in) :
    SystemStatusNmeaBase str_in len_in = [] := by
  have dropped : (cString str_in).dropWhile (· ≠ '*') = [] :=
    List.dropWhile_eq_nil_iff.mpr fun char member =>
      decide_eq_true fun star => noStar (star ▸ member)
  simp only [SystemStatusNmeaBase, dropped, ite_self]

/-- A sentence with an asterisk has a field more than commas. -/
theorem length_fields (accepted : loc_nmea_is_debug str_in len_in = true) :
    (SystemStatusNmeaBase str_in len_in).length =
      if '*' ∈ cString str_in then (cString str_in).count ',' + 1 else 0 := by
  split
  · next star =>
    obtain ⟨before, checksum, cut, noStar⟩ := List.eq_append_cons_of_mem star
    rw [fields_of_cut accepted noStar cut, length_tokens, cut, List.count_append,
      List.count_append, List.count_cons_self, List.count_cons_of_ne (by decide), Nat.add_assoc]
  · next noStar => rw [fields_of_no_star noStar, List.length_nil]

/-- The number at its position in a `$PQWM1` sentence, zero where the sentence ends
before it. -/
def present {α : Type} (zero : α) (convert : Text → α) (fields : List Text) (index : Nat) : α :=
  fields[index]?.elim zero convert

theorem present_of_lt {α : Type} (zero : α) (convert : Text → α) {index : Nat}
    (inside : index < fields.length) :
    present zero convert fields index = convert (fieldAt fields index) := by
  rw [present, fieldAt, List.getD_eq_getElem?_getD, List.getElem?_eq_getElem inside]
  rfl

theorem present_of_ge {α : Type} (zero : α) (convert : Text → α) {index : Nat}
    (outside : fields.length ≤ index) : present zero convert fields index = zero := by
  rw [present, List.getElem?_eq_none outside]
  rfl

/-- The members of the structure are the fields of the sentence, in order. -/
def SystemStatusPQWM1.byPosition (floats : FloatLibrary) (fields : List Text) :
    SystemStatusPQWM1 where
  mGpsWeek := present 0 (decimal 16) fields 1
  mGpsTowMs := present 0 (decimal 32) fields 2
  mTimeValid := present 0 (decimal 8) fields 3
  mTimeSource := present 0 (decimal 8) fields 4
  mTimeUnc := present 0 atoi fields 5
  mClockFreqBias := present 0 atoi fields 6
  mClockFreqBiasUnc := present 0 atoi fields 7
  mXoState := present 0 (decimal 8) fields 8
  mPgaGain := present 0 atoi fields 9
  mGpsBpAmpI := present 0 (decimal 32) fields 10
  mGpsBpAmpQ := present 0 (decimal 32) fields 11
  mAdcI := present 0 (decimal 32) fields 12
  mAdcQ := present 0 (decimal 32) fields 13
  mJammerGps := present 0 (decimal 32) fields 14
  mJammerGlo := present 0 (decimal 32) fields 15
  mJammerBds := present 0 (decimal 32) fields 16
  mJammerGal := present 0 (decimal 32) fields 17
  mRecErrorRecovery := present 0 (decimal 32) fields 18
  mAgcGps := present (.finite 0) floats.atof fields 19
  mAgcGlo := present (.finite 0) floats.atof fields 20
  mAgcBds := present (.finite 0) floats.atof fields 21
  mAgcGal := present (.finite 0) floats.atof fields 22
  mLeapSeconds := present 0 atoi fields 23
  mLeapSecUnc := present 0 atoi fields 24
  mGloBpAmpI := present 0 (decimal 32) fields 25
  mGloBpAmpQ := present 0 (decimal 32) fields 26
  mBdsBpAmpI := present 0 (decimal 32) fields 27
  mBdsBpAmpQ := present 0 (decimal 32) fields 28
  mGalBpAmpI := present 0 (decimal 32) fields 29
  mGalBpAmpQ := present 0 (decimal 32) fields 30

/-- What is joined, and taken for a debug sentence, comes apart into the same fields. -/
theorem fields_of_joined (nonempty : fields ≠ [])
    (plain : ∀ field ∈ fields, ',' ∉ field ∧ '*' ∉ field ∧ '\x00' ∉ field)
    (noComma : ',' ∉ checksum)
    (accepted : loc_nmea_is_debug (joined fields checksum) len_in = true) :
    SystemStatusNmeaBase (joined fields checksum) len_in = fields := by
  have noStar : '*' ∉ [','].intercalate fields :=
    not_mem_join (by decide) fun field member => (plain field member).2.1
  have noZero : '\x00' ∉ [','].intercalate fields :=
    not_mem_join (by decide) fun field member => (plain field member).2.2
  have cut : cString (joined fields checksum) =
      [','].intercalate fields ++ '*' :: cString checksum := by
    rw [joined, cString_append noZero]
    rfl
  rw [fields_of_cut accepted noStar cut]
  exact tokens_join nonempty (fun field member => (plain field member).1)
    fun comma => noComma (cString_subset checksum comma)

/-- The three lengths that the parser of `$PQWM1` provides for. -/
theorem parsed_by_position (floats : FloatLibrary)
    (parsed : SystemStatusNmeaBase str_in len_in = fields)
    (length : fields.length = 23 ∨ fields.length = 25 ∨ fields.length = 31) :
    SystemStatusPQWM1parser floats str_in len_in = .byPosition floats fields := by
  rcases length with length | length | length <;>
    simp (disch := omega) only [SystemStatusPQWM1parser, SystemStatusPQWM1.byPosition, parsed,
      length, present_of_lt, present_of_ge, Nat.reduceLeDiff, Nat.reduceLT, if_true, if_false,
      SystemStatusPQWM1.zero]

/-- The fields of a sentence come back as they were joined, and those of a `$PQWM1`
sentence are assigned by their positions. -/
theorem joined_fields_come_back (floats : FloatLibrary) (fields : List Text) (checksum : Text)
    (len_in : Int) (nonempty : fields ≠ [])
    (plain : ∀ field ∈ fields, ',' ∉ field ∧ '*' ∉ field ∧ '\x00' ∉ field)
    (noComma : ',' ∉ checksum)
    (accepted : loc_nmea_is_debug (joined fields checksum) len_in = true) :
    SystemStatusNmeaBase (joined fields checksum) len_in = fields ∧
      (DebugKind.of (joined fields checksum) = some .PQWM1 →
        fields.length = 23 ∨ fields.length = 25 ∨ fields.length = 31 →
        SystemStatusPQWM1parser floats (joined fields checksum) len_in =
          .byPosition floats fields) := by
  have parsed := fields_of_joined nonempty plain noComma accepted
  exact ⟨parsed, fun _ length => parsed_by_position floats parsed length⟩

/-- A `$PQWM1` sentence of the shortest length, every number a seven. -/
def sevens : List Text := "$PQWM1".toList :: List.replicate 22 ['7']

/-- On the texts of that sentence. -/
def sevenOnly : FloatLibrary := ⟨fun _ => .finite 7, id⟩

theorem sevens_come_back :
    SystemStatusNmeaBase (joined sevens "00".toList) 53 = sevens ∧
      SystemStatusPQWM1parser sevenOnly (joined sevens "00".toList) 53 =
        .byPosition sevenOnly sevens :=
  have both := joined_fields_come_back sevenOnly sevens "00".toList 53 (by decide) (by decide)
    (by decide) (by decide)
  ⟨both.1, both.2 (by decide) (.inl rfl)⟩

end Fields

section Stack

/-- What its parser needs at least; that of `$PQWM1` clears its result first. -/
def DebugKind.eMax : DebugKind → Nat
  | .PQWM1 => 0
  | .PQWP1 => 9
  | .PQWP2 | .PQWP4 => 7
  | .PQWP3 => 13
  | .PQWP5 => 17
  | .PQWP6 => 3
  | .PQWP7 => 2 + SV_ALL_NUM * 3
  | .PQWS1 => 4

/-- The parser of the kind assigns everything: it has cleared it, or the text of the
sentence has an asterisk and enough commas. -/
def DebugKind.AssignsAll (kind : DebugKind) (data : Text) : Prop :=
  kind = .PQWM1 ∨ ('*' ∈ debugBuf data ∧ kind.eMax ≤ (debugBuf data).count ',' + 1)

/-- What the dispatcher stores when nothing was assigned. -/
def Stack.sentence (stack : Stack) : DebugKind → DebugSentence
  | .PQWM1 => .other
  | .PQWP1 => .PQWP1 stack.mP1
  | .PQWP2 =>
    .PQWP2 stack.mP2.mBestLat stack.mP2.mBestLon stack.mP2.mBestAlt stack.mP2.mBestHepe
      stack.mP2.mBestAltUnc
  | .PQWP3 => .PQWP3 stack.mP3
  | .PQWP4 => .PQWP4 stack.mP4
  | .PQWP5 => .PQWP5 stack.mP5
  | .PQWP6 => .PQWP6 stack.mP6
  | .PQWP7 => .PQWP7 stack.mP7
  | .PQWS1 => .PQWS1 stack.mS1

/-- A stack with this number in one place of each result. -/
def Stack.holding (number : Nat) : Stack where
  mP1 := ⟨number, .finite 0, .finite 0, .finite 0, .finite 0, .finite 0, 0⟩
  mP2 := ⟨.finite number, .finite 0, .finite 0, .finite 0, .finite 0⟩
  mP3 := ⟨number, 0, 0, 0, 0, 0, 0, 0, 0, 0, 0⟩
  mP4 := ⟨number, 0, 0, 0, 0⟩
  mP5 := ⟨number, 0, 0, 0, 0, 0, 0, 0, 0, 0, 0, 0, 0, 0, 0⟩
  mP6 := number
  mP7 := ⟨fun _ => ⟨0, 0, number⟩⟩
  mS1 := ⟨number, 0⟩

variable (floats : FloatLibrary) {data : Text} {len : Int} {kind : DebugKind}

theorem cString_debugBuf (data : Text) : cString (debugBuf data) = debugBuf data := by
  apply List.takeWhile_eq_self_iff.mpr
  intro char member
  have before : char ∈ cString data := List.mem_of_mem_take member
  exact List.mem_takeWhile_imp (p := fun char => decide (char ≠ '\x00')) before

/-- The copy begins as the sentence does. -/
theorem debug_of_copy (accepted : loc_nmea_is_debug data len = true) :
    loc_nmea_is_debug (debugBuf data) len = true := by
  simp only [loc_nmea_is_debug, Bool.and_eq_true] at accepted ⊢
  refine ⟨accepted.1, List.isPrefixOf_iff_prefix.mpr ?_⟩
  obtain ⟨rest, rfl⟩ := List.isPrefixOf_iff_prefix.mp accepted.2
  refine ⟨(cString rest).take 4092, ?_⟩
  rw [debugBuf, cString_append (by decide)]
  rfl

/-- A parser's result comes from the stack if the sentence is short, and otherwise not. -/
theorem parseFields_eq {α : Type} (assigned : List Text → α) (result : α)
    (accepted : loc_nmea_is_debug data len = true) (other : kind ≠ .PQWM1) :
    (kind.AssignsAll data → parseFields (debugBuf data) len kind.eMax assigned result =
        assigned (SystemStatusNmeaBase (debugBuf data) len)) ∧
      (¬ kind.AssignsAll data →
        parseFields (debugBuf data) len kind.eMax assigned result = result) := by
  have length := length_fields (debug_of_copy accepted)
  rw [cString_debugBuf] at length
  have positive : 0 < kind.eMax := by cases kind <;> first | exact absurd rfl other | decide
  simp only [DebugKind.AssignsAll, other, false_or, parseFields, length]
  refine ⟨fun ⟨star, enough⟩ => ?_, fun short => ?_⟩
  · rw [if_pos star, if_neg (Nat.not_lt.mpr enough)]
  · apply if_pos
    split
    · next star => exact Nat.lt_of_not_le fun enough => short ⟨star, enough⟩
    · exact positive

/-- A sentence that is long enough, or cleared for, hides the stack. -/
theorem sentence_hides_stack (accepted : loc_nmea_is_debug data len = true)
    (assigned : ∀ kind, DebugKind.of data = some kind → kind.AssignsAll data)
    (stack other : Stack) :
    debugSentence floats stack data len = debugSentence floats other data len := by
  unfold debugSentence
  cases found : DebugKind.of data with
  | none => rfl
  | some kind =>
    have all := assigned kind found
    have same : ∀ {α : Type} (assigned : List Text → α) (result result' : α),
        kind ≠ .PQWM1 → parseFields (debugBuf data) len kind.eMax assigned result =
          parseFields (debugBuf data) len kind.eMax assigned result' := fun assigned _ _ notM1 =>
      ((parseFields_eq assigned _ accepted notM1).1 all).trans
        ((parseFields_eq assigned _ accepted notM1).1 all).symm
    cases kind with
    | PQWM1 => rfl
    | PQWP1 => exact congrArg DebugSentence.PQWP1 (same _ _ _ (by decide))
    | PQWP2 =>
      have same : SystemStatusPQWP2parser floats (debugBuf data) len stack.mP2 =
          SystemStatusPQWP2parser floats (debugBuf data) len other.mP2 := same _ _ _ (by decide)
      exact congrArg (fun s : SystemStatusPQWP2 => DebugSentence.PQWP2 s.mBestLat s.mBestLon
        s.mBestAlt s.mBestHepe s.mBestAltUnc) same
    | PQWP3 => exact congrArg DebugSentence.PQWP3 (same _ _ _ (by decide))
    | PQWP4 => exact congrArg DebugSentence.PQWP4 (same _ _ _ (by decide))
    | PQWP5 => exact congrArg DebugSentence.PQWP5 (same _ _ _ (by decide))
    | PQWP6 => exact congrArg DebugSentence.PQWP6 (same _ _ _ (by decide))
    | PQWP7 => exact congrArg DebugSentence.PQWP7 (same _ _ _ (by decide))
    | PQWS1 => exact congrArg DebugSentence.PQWS1 (same _ _ _ (by decide))

/-- A sentence that is short stores the stack. -/
theorem sentence_of_short (accepted : loc_nmea_is_debug data len = true)
    (found : DebugKind.of data = some kind) (short : ¬ kind.AssignsAll data) (stack : Stack) :
    debugSentence floats stack data len = stack.sentence kind := by
  have other : kind ≠ .PQWM1 := fun isM1 => short (.inl isM1)
  have kept : ∀ {α : Type} (assigned : List Text → α) (result : α),
      parseFields (debugBuf data) len kind.eMax assigned result = result :=
    fun assigned result => (parseFields_eq assigned result accepted other).2 short
  unfold debugSentence
  rw [found]
  cases kind with
  | PQWM1 => exact absurd rfl other
  | PQWP1 => exact congrArg DebugSentence.PQWP1 (kept _ _)
  | PQWP2 =>
    have kept : SystemStatusPQWP2parser floats (debugBuf data) len stack.mP2 = stack.mP2 :=
      kept _ _
    exact congrArg (fun s : SystemStatusPQWP2 => DebugSentence.PQWP2 s.mBestLat s.mBestLon
      s.mBestAlt s.mBestHepe s.mBestAltUnc) kept
  | PQWP3 => exact congrArg DebugSentence.PQWP3 (kept _ _)
  | PQWP4 => exact congrArg DebugSentence.PQWP4 (kept _ _)
  | PQWP5 => exact congrArg DebugSentence.PQWP5 (kept _ _)
  | PQWP6 => exact congrArg DebugSentence.PQWP6 (kept _ _)
  | PQWP7 => exact congrArg DebugSentence.PQWP7 (kept _ _)
  | PQWS1 => exact congrArg DebugSentence.PQWS1 (kept _ _)

/-- An item that the newest report does not equal becomes the newest. -/
theorem newest_update_of_new {reportKind : ReportKind} {item : reportKind.Item}
    (plain : ∀ cur, reportKind.collate item cur = item) (kept : reportKind.copied item = item)
    {cache : SystemStatusReports} (now : Nat)
    (isNew : ∀ cur, Report.newest (cache.report reportKind) = some cur →
      reportKind.equals cur item = false) :
    Report.newest ((cache.update now ⟨reportKind, item⟩).1.report reportKind) = some item := by
  have stored := Report.newest_setIteminReport (cache.report reportKind) ⟨now, now, item⟩
  simp only [SystemStatusReports.update, SystemStatusReports.set, Function.update_self]
  rw [stored]
  cases newest : Report.newest (cache.report reportKind) with
  | none => simp only [kept]
  | some cur => simp only [plain, isNew cur newest, Bool.false_eq_true, if_false, kept]

/-- Of three items with marks that a report must share to equal them, two leave different
reports. -/
theorem two_items_differ (reportKind : ReportKind) {α : Type} (item : Nat → reportKind.Item)
    (mark : reportKind.Item → α)
    (plain : ∀ number cur, reportKind.collate (item number) cur = item number)
    (kept : ∀ number, reportKind.copied (item number) = item number)
    (distinct : ∀ number other, mark (item number) = mark (item other) → number = other)
    (seen : ∀ cur number, reportKind.equals cur (item number) = true →
      mark cur = mark (item number))
    (cache : SystemStatusReports) (now : Nat) :
    ∃ number other, (cache.update now ⟨reportKind, item number⟩).1 ≠
      (cache.update now ⟨reportKind, item other⟩).1 := by
  let IsNew := fun number => ∀ cur, Report.newest (cache.report reportKind) = some cur →
    reportKind.equals cur (item number) = false
  have differ : ∀ number other, number ≠ other → IsNew number → IsNew other →
      (cache.update now ⟨reportKind, item number⟩).1 ≠
        (cache.update now ⟨reportKind, item other⟩).1 := by
    intro number other unlike new new' same
    have stored := newest_update_of_new (plain number) (kept number) now new
    rw [same, newest_update_of_new (plain other) (kept other) now new'] at stored
    exact unlike (distinct _ _ (congrArg mark (Option.some.inj stored).symm))
  have only : ∀ number other, ¬ IsNew number → number ≠ other → IsNew other := by
    intro number other known unlike cur newest
    refine Bool.eq_false_iff.mpr fun same => known fun cur' newest' => ?_
    obtain rfl := Option.some.inj (newest.symm.trans newest')
    exact Bool.eq_false_iff.mpr fun same' =>
      unlike (distinct _ _ ((seen cur number same').symm.trans (seen cur other same)))
  by_cases zero : IsNew 0
  · by_cases one : IsNew 1
    · exact ⟨0, 1, differ 0 1 (by decide) zero one⟩
    · exact ⟨0, 2, differ 0 2 (by decide) zero (only 1 2 one (by decide))⟩
  · exact ⟨1, 2, differ 1 2 (by decide) (only 0 1 zero (by decide)) (only 0 2 zero (by decide))⟩

/-- The contents of the stack show in the cache that a short sentence leaves. -/
theorem stored_stack_differs (other : kind ≠ .PQWM1) (cache : SystemStatusReports) (now : Nat) :
    ∃ number number', cache.setNmeaString now ((Stack.holding number).sentence kind) ≠
      cache.setNmeaString now ((Stack.holding number').sentence kind) := by
  cases kind with
  | PQWM1 => exact absurd rfl other
  | PQWP1 =>
    refine two_items_differ .injectedPosition
      (fun number => (Stack.holding number).mP1) SystemStatusInjectedPosition.mEpiValidity
      (fun _ _ => rfl) (fun _ => rfl) (fun _ _ same => same) (fun cur number same => ?_) cache now
    simp only [ReportKind.equals, SystemStatusInjectedPosition.equals, Bool.and_eq_true,
      beq_iff_eq, and_assoc] at same
    exact same.1
  | PQWP2 =>
    refine two_items_differ .bestPosition
      (fun number => ⟨true, .finite number, .finite 0, .finite 0, .finite 0, .finite 0⟩)
      SystemStatusBestPosition.mBestLat (fun _ _ => rfl) (fun _ => rfl)
      (fun number other same => ?_) (fun cur number same => ?_) cache now
    · simpa using same
    · simp only [ReportKind.equals, SystemStatusBestPosition.equals, FloatValue.same,
        Bool.and_eq_true, decide_eq_true_eq, and_assoc] at same
      exact same.2.1
  | PQWP3 =>
    refine two_items_differ .xtra
      (fun number => (Stack.holding number).mP3) SystemStatusXtra.mXtraValidMask
      (fun _ _ => rfl) (fun _ => rfl) (fun _ _ same => same) (fun cur number same => ?_) cache now
    simp only [ReportKind.equals, SystemStatusXtra.equals, Bool.and_eq_true, beq_iff_eq,
      and_assoc] at same
    exact same.1
  | PQWP4 =>
    refine two_items_differ .ephemeris
      (fun number => (Stack.holding number).mP4) SystemStatusEphemeris.mGpsEpheValid
      (fun _ _ => rfl) (fun _ => rfl) (fun _ _ same => same) (fun cur number same => ?_) cache now
    simp only [ReportKind.equals, SystemStatusEphemeris.equals, Bool.and_eq_true, beq_iff_eq,
      and_assoc] at same
    exact same.1
  | PQWP5 =>
    refine two_items_differ .svHealth
      (fun number => (Stack.holding number).mP5) SystemStatusSvHealth.mGpsUnknownMask
      (fun _ _ => rfl) (fun _ => rfl) (fun _ _ same => same) (fun cur number same => ?_) cache now
    simp only [ReportKind.equals, SystemStatusSvHealth.equals, Bool.and_eq_true, beq_iff_eq,
      and_assoc] at same
    exact same.1
  | PQWP6 =>
    exact two_items_differ .pdr (fun number : Nat => number) id
      (fun _ _ => rfl) (fun _ => rfl) (fun _ _ same => same) (fun cur number => beq_iff_eq.mp)
      cache now
  | PQWP7 =>
    refine two_items_differ .navData
      (fun number => (Stack.holding number).mP7)
      (fun navData : SystemStatusNavData => (navData.mNav ⟨0, by decide⟩).mAgeSec)
      (fun _ _ => rfl) (fun _ => rfl) (fun _ _ same => Int.ofNat.inj same)
      (fun cur number same => ?_) cache now
    have first := List.all_eq_true.mp same ⟨0, by decide⟩ (List.mem_finRange _)
    simp only [Bool.and_eq_true, beq_iff_eq] at first
    exact first.2
  | PQWS1 =>
    refine two_items_differ .positionFailure
      (fun number => (Stack.holding number).mS1) SystemStatusPositionFailure.mFixInfoMask
      (fun _ _ => rfl) (fun _ => rfl) (fun _ _ same => same) (fun cur number same => ?_) cache now
    simp only [ReportKind.equals, SystemStatusPositionFailure.equals, Bool.and_eq_true,
      beq_iff_eq] at same
    exact same.1

/-- Whether a sentence is taken and what it leaves in the cache depends on the stack
exactly if a parser leaves without having assigned anything. -/
theorem reports_hide_the_stack_iff (data : Text) (len : Int) (cache : SystemStatusReports)
    (now : Nat) :
    (∀ stack other, setNmeaString floats stack data len cache now =
        setNmeaString floats other data len cache now) ↔
      (loc_nmea_is_debug data len = true →
        ∀ kind, DebugKind.of data = some kind → kind.AssignsAll data) := by
  constructor
  · intro hidden accepted kind found
    by_contra short
    obtain ⟨number, number', differ⟩ :=
      stored_stack_differs (fun isM1 => short (.inl isM1)) cache now
    have same := hidden (.holding number) (.holding number')
    simp only [setNmeaString, accepted, if_true, sentence_of_short floats accepted found short,
      Prod.mk.injEq, true_and] at same
    exact differ same
  · intro assigned stack other
    unfold setNmeaString
    split
    · next accepted =>
      rw [sentence_hides_stack floats accepted (assigned accepted) stack other]
    · rfl

theorem a_short_sentence_shows_the_stack :
    ¬ ∀ (floats : FloatLibrary) (data : Text) (len : Int) (cache : SystemStatusReports)
      (now : Nat), loc_nmea_is_debug data len = true → ∀ stack other,
        setNmeaString floats stack data len cache now =
          setNmeaString floats other data len cache now := by
  intro hidden
  have same := hidden sevenOnly "$PQWP1*00".toList 9 .empty 0 (by decide) (.holding 0) (.holding 1)
  have short : ¬ DebugKind.PQWP1.AssignsAll "$PQWP1*00".toList := by
    unfold DebugKind.AssignsAll
    decide
  have accepted : loc_nmea_is_debug "$PQWP1*00".toList 9 = true := by decide
  simp only [setNmeaString, accepted, if_true, Prod.mk.injEq, true_and,
    sentence_of_short sevenOnly accepted (by decide) short] at same
  have seen := congrArg (fun cache => (cache.report .injectedPosition).map
    fun item : SystemStatusItem SystemStatusInjectedPosition => item.data.mEpiValidity) same
  exact absurd seen (by decide)

end Stack

section Masks

/-- A field of a sentence in which a satellite mask is printed: the kind of the sentence,
the position, the bits of the member that receives it, and that member. -/
structure MaskField where
  kind : DebugKind
  index : Nat
  width : Nat
  parsed : Text → Int → Stack → Nat

def xtraMask (index width : Nat) (member : SystemStatusXtra → Nat) : MaskField :=
  ⟨.PQWP3, index, width, fun str_in len_in stack =>
    member (SystemStatusPQWP3parser str_in len_in stack.mP3)⟩

def epheMask (index width : Nat) (member : SystemStatusEphemeris → Nat) : MaskField :=
  ⟨.PQWP4, index, width, fun str_in len_in stack =>
    member (SystemStatusPQWP4parser str_in len_in stack.mP4)⟩

def healthMask (index width : Nat) (member : SystemStatusSvHealth → Nat) : MaskField :=
  ⟨.PQWP5, index, width, fun str_in len_in stack =>
    member (SystemStatusPQWP5parser str_in len_in stack.mP5)⟩

/-- The masks of the three sentences. -/
def maskFields : List MaskField :=
  [xtraMask 8 32 (·.mGpsXtraValid), xtraMask 9 32 (·.mGloXtraValid),
    xtraMask 10 64 (·.mBdsXtraValid), xtraMask 11 64 (·.mGalXtraValid),
    xtraMask 12 8 (·.mQzssXtraValid)] ++
  [epheMask 2 32 (·.mGpsEpheValid), epheMask 3 32 (·.mGloEpheValid),
    epheMask 4 64 (·.mBdsEpheValid), epheMask 5 64 (·.mGalEpheValid),
    epheMask 6 8 (·.mQzssEpheValid)] ++
  [healthMask 2 32 (·.mGpsUnknownMask), healthMask 3 32 (·.mGloUnknownMask),
    healthMask 4 64 (·.mBdsUnknownMask), healthMask 5 64 (·.mGalUnknownMask),
    healthMask 6 8 (·.mQzssUnknownMask), healthMask 7 32 (·.mGpsGoodMask),
    healthMask 8 32 (·.mGloGoodMask), healthMask 9 64 (·.mBdsGoodMask),
    healthMask 10 64 (·.mGalGoodMask), healthMask 11 8 (·.mQzssGoodMask),
    healthMask 12 32 (·.mGpsBadMask), healthMask 13 32 (·.mGloBadMask),
    healthMask 14 64 (·.mBdsBadMask), healthMask 15 64 (·.mGalBadMask),
    healthMask 16 8 (·.mQzssBadMask)]

variable {str_in text : Text} {len_in : Int} {field : MaskField}

theorem width_of_maskFields (member : field ∈ maskFields) :
    field.width = 8 ∨ field.width = 32 ∨ field.width = 64 := by
  have all : ∀ field ∈ maskFields, field.width = 8 ∨ field.width = 32 ∨ field.width = 64 := by
    simp [maskFields, xtraMask, epheMask, healthMask]
  exact all field member

/-- In a sentence that is long enough, every mask is read from its own position. -/
theorem parsed_of_maskFields (member : field ∈ maskFields)
    (enough : field.kind.eMax ≤ (SystemStatusNmeaBase str_in len_in).length) (stack : Stack) :
    field.parsed str_in len_in stack =
      hexadecimal field.width (fieldAt (SystemStatusNmeaBase str_in len_in) field.index) := by
  simp only [maskFields, List.mem_append, List.mem_cons, List.not_mem_nil, or_false] at member
  rcases member with (member | member) | member
  · rcases member with rfl | rfl | rfl | rfl | rfl <;>
      (simp only [xtraMask, DebugKind.eMax, ← Nat.not_lt] at enough ⊢
       simp only [SystemStatusPQWP3parser, parseFields, enough, if_false])
  · rcases member with rfl | rfl | rfl | rfl | rfl <;>
      (simp only [epheMask, DebugKind.eMax, ← Nat.not_lt] at enough ⊢
       simp only [SystemStatusPQWP4parser, parseFields, enough, if_false])
  · rcases member with rfl | rfl | rfl | rfl | rfl | rfl | rfl | rfl | rfl | rfl | rfl | rfl |
      rfl | rfl | rfl <;>
      (simp only [healthMask, DebugKind.eMax, ← Nat.not_lt] at enough ⊢
       simp only [SystemStatusPQWP5parser, parseFields, enough, if_false])

/-- Only what is too large for a `long` is lost on the way into a member that is wide
enough. -/
theorem hexadecimal_of_printsHex {width : Nat} (known : width = 8 ∨ width = 32 ∨ width = 64)
    (mask : BitVec width) (prints : PrintsHex mask.toNat text) :
    hexadecimal width text = mask.toNat ↔ width = 8 ∨ (mask.toNat : Int) ≤ LONG_MAX := by
  have bound := mask.isLt
  rw [hexadecimal, unsigned, strtol_of_printsHex prints, BitVec.toNat_ofInt]
  unfold LONG_MAX
  rcases known with rfl | rfl | rfl <;> omega

/-- A satellite mask is read as it was printed exactly if its member has eight bits, or the
mask fits into a `long`. -/
theorem printed_masks_come_back_iff (member : field ∈ maskFields) (mask : BitVec field.width)
    (prints : PrintsHex mask.toNat text)
    (enough : field.kind.eMax ≤ (SystemStatusNmeaBase str_in len_in).length)
    (there : (SystemStatusNmeaBase str_in len_in)[field.index]? = some text) (stack : Stack) :
    field.parsed str_in len_in stack = mask.toNat ↔
      field.width = 8 ∨ (mask.toNat : Int) ≤ LONG_MAX := by
  have here : fieldAt (SystemStatusNmeaBase str_in len_in) field.index = text := by
    rw [fieldAt, List.getD_eq_getElem?_getD, there]
    rfl
  rw [parsed_of_maskFields member enough, here]
  exact hexadecimal_of_printsHex (width_of_maskFields member) mask prints

/-- A `$PQWP4` sentence with this mask for GPS. -/
def epheSentence (mask : Text) : Text :=
  joined ["$PQWP4".toList, ['1'], mask, ['0'], ['0'], ['0'], ['0']] "00".toList

theorem gps_of_maskFields : epheMask 2 32 (·.mGpsEpheValid) ∈ maskFields := by simp [maskFields]

theorem all_but_the_last_satellite_come_back :
    (SystemStatusPQWP4parser (epheSentence "7fFFffff".toList) 30
      (Stack.holding 0).mP4).mGpsEpheValid = 0x7FFFFFFF := by
  have fields : SystemStatusNmeaBase (epheSentence "7fFFffff".toList) 30 = _ :=
    fields_of_joined (by decide) (by decide) (by decide) (by decide)
  have prints : PrintsHex (0x7FFFFFFF#32).toNat "7fFFffff".toList :=
    ⟨[], "7fFFffff".toList, .inl rfl, by decide, isHexDigit_of_all (by decide), rfl,
      by decide⟩
  refine (printed_masks_come_back_iff gps_of_maskFields 0x7FFFFFFF#32 prints ?_ ?_
    (.holding 0)).mpr (.inr (by decide))
  · rw [fields]
    decide
  · rw [fields]
    rfl

theorem the_last_satellite_is_lost :
    ¬ ∀ (field : MaskField) (mask : BitVec field.width) (text str_in : Text) (len_in : Int)
      (stack : Stack), field ∈ maskFields → PrintsHex mask.toNat text →
      field.kind.eMax ≤ (SystemStatusNmeaBase str_in len_in).length →
      (SystemStatusNmeaBase str_in len_in)[field.index]? = some text →
      field.parsed str_in len_in stack = mask.toNat := by
  intro survives
  have fields : SystemStatusNmeaBase (epheSentence "80000000".toList) 30 = _ :=
    fields_of_joined (by decide) (by decide) (by decide) (by decide)
  have enough : DebugKind.PQWP4.eMax ≤
      (SystemStatusNmeaBase (epheSentence "80000000".toList) 30).length := by
    rw [fields]
    decide
  have parsed := survives _ 0x80000000#32 "80000000".toList _ 30 (.holding 0) gps_of_maskFields
    ⟨[], "80000000".toList, .inl rfl, by decide, isHexDigit_of_all (by decide), rfl,
      by decide⟩ enough
    (by rw [fields]; rfl)
  rw [parsed_of_maskFields gps_of_maskFields enough, fields] at parsed
  exact absurd parsed (by decide)

end Masks

end Msm8917Common.Status
