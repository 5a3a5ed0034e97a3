import Mathlib.Data.List.Forall2
import Msm8917Common.BitSets

/-! `GnssAdapter::reportSv`: the satellites that a notification shows as used in the last
position fix. The bit of a satellite in the mask of its constellation is made by a shift
of an `int`. -/
namespace Msm8917Common.Gnss.UsedInFix

inductive GnssSvType where
  | unknown | gps | sbas | glonass | qzss | beidou | galileo
  deriving DecidableEq

def GNSS_SV_OPTIONS_USED_IN_FIX_BIT : BitVec 16 := 1#16 <<< 2

def QZSS_SV_PRN_MIN : BitVec 16 := 193

/-- The signal strength and the angles are carried along. -/
structure GnssSv where
  svId : BitVec 16
  type : GnssSvType
  gnssSvOptionsMask : BitVec 16
  rest : List UInt8

structure GnssSvUsedInPosition where
  gps_sv_used_ids_mask : BitVec 64
  glo_sv_used_ids_mask : BitVec 64
  gal_sv_used_ids_mask : BitVec 64
  bds_sv_used_ids_mask : BitVec 64
  qzss_sv_used_ids_mask : BitVec 64

/-- Of a client only its id is kept, and whether it has a `gnssSvCb`. -/
structure GnssAdapter where
  mGnssSvIdUsedInPosAvail : Bool
  mGnssSvIdUsedInPosition : GnssSvUsedInPosition
  mClientData : List (Nat × Bool)

/-- The adapter afterwards, the notification as the loop leaves it, and the clients whose
`gnssSvCb` is called with that. The sentences for the NMEA clients are left out. -/
structure SvReport where
  adapter : GnssAdapter
  svNotify : List GnssSv
  called : List Nat

/-- `1 << amount`. The language does not say what comes of a shift by all the bits of an
`int` or more, or by fewer than none. -/
def shiftedOne (undefinedShift : Int → BitVec 32) (amount : Int) : BitVec 32 :=
  if 0 ≤ amount ∧ amount < 32 then BitVec.twoPow 32 amount.toNat else undefinedShift amount

namespace GnssAdapter
variable (adapter : GnssAdapter) (undefinedShift : Int → BitVec 32)

def svUsedIdMask (type : GnssSvType) : BitVec 64 :=
  if adapter.mGnssSvIdUsedInPosAvail then
    match type with
    | .gps => adapter.mGnssSvIdUsedInPosition.gps_sv_used_ids_mask
    | .glonass => adapter.mGnssSvIdUsedInPosition.glo_sv_used_ids_mask
    | .beidou => adapter.mGnssSvIdUsedInPosition.bds_sv_used_ids_mask
    | .galileo => adapter.mGnssSvIdUsedInPosition.gal_sv_used_ids_mask
    | .qzss => adapter.mGnssSvIdUsedInPosition.qzss_sv_used_ids_mask
    | .unknown | .sbas => 0#64
  else 0#64

/-- One turn of the loop. The test widens the `int`, with its sign, to the mask's bits. -/
def reportedSv (sv : GnssSv) : GnssSv :=
  let gnssSvId := sv.svId.toInt
  let svId := if sv.type = .qzss then sv.svId + (QZSS_SV_PRN_MIN - 1) else sv.svId
  let tested := (shiftedOne undefinedShift (gnssSvId - 1)).signExtend 64
  let gnssSvOptionsMask :=
    if adapter.svUsedIdMask sv.type &&& tested ≠ 0#64 then
      sv.gnssSvOptionsMask ||| GNSS_SV_OPTIONS_USED_IN_FIX_BIT
    else sv.gnssSvOptionsMask
  { sv with svId, gnssSvOptionsMask }

/-- Of the notification, the satellites before its count. -/
def reportSv (svNotify : List GnssSv) : SvReport where
  adapter := { adapter with mGnssSvIdUsedInPosAvail := false }
  svNotify := svNotify.map (adapter.reportedSv undefinedShift)
  called := (adapter.mClientData.filter (·.2)).map (·.1)

end GnssAdapter

def GnssSv.usedInFix (sv : GnssSv) : Bool := sv.gnssSvOptionsMask.getLsbD 2

namespace GnssAdapter
variable (adapter : GnssAdapter)

/-- There are data, and the satellite has its bit in the mask of its constellation. -/
def Used (sv : GnssSv) : Prop :=
  (adapter.svUsedIdMask sv.type).getLsbD (sv.svId.toNat - 1) = true

/-- A satellite is delivered with the bit for those used exactly if it is one, and with its
other options. -/
def FollowsMask (sv delivered : GnssSv) : Prop :=
  (delivered.usedInFix = true ↔ adapter.Used sv) ∧
    ∀ option ≠ 2, delivered.gnssSvOptionsMask.getLsbD option =
      sv.gnssSvOptionsMask.getLsbD option

/-- The satellite does not come with the bit unless it is used. With the last number that an
`int` has a bit for, it is used if any beyond is; with a greater number it comes with the bit
already if any is used. -/
structure Shows (sv : GnssSv) : Prop where
  notStale : sv.usedInFix = true → adapter.Used sv
  ofSignBit : sv.svId.toNat = 32 →
    ∀ bit, 32 ≤ bit → (adapter.svUsedIdMask sv.type).getLsbD bit = true → adapter.Used sv
  pastEnd : 32 < sv.svId.toNat → adapter.svUsedIdMask sv.type ≠ 0#64 → sv.usedInFix = true

variable {adapter} {sv : GnssSv} {undefinedShift : Int → BitVec 32}

theorem usedInFix_reportedSv : (adapter.reportedSv undefinedShift sv).usedInFix = true ↔
    sv.usedInFix = true ∨
      adapter.svUsedIdMask sv.type &&&
        (shiftedOne undefinedShift (sv.svId.toInt - 1)).signExtend 64 ≠ 0#64 := by
  have bit : GNSS_SV_OPTIONS_USED_IN_FIX_BIT.getLsbD 2 = true := by decide
  simp only [reportedSv, GnssSv.usedInFix]
  split
  · next hit =>
    rw [BitVec.getLsbD_or, bit, Bool.or_true]
    exact iff_of_true rfl (.inr hit)
  · next miss => simp only [miss, or_false]

/-- No other option is changed. -/
theorem other_options_stay (option : Nat) (other : option ≠ 2) :
    (adapter.reportedSv undefinedShift sv).gnssSvOptionsMask.getLsbD option =
      sv.gnssSvOptionsMask.getLsbD option := by
  have clear : GNSS_SV_OPTIONS_USED_IN_FIX_BIT.getLsbD option = false := by
    rw [GNSS_SV_OPTIONS_USED_IN_FIX_BIT, ← BitVec.twoPow_eq, BitVec.getLsbD_twoPow]
    simp [Ne.symm other]
  simp only [reportedSv]
  split
  · rw [BitVec.getLsbD_or, clear, Bool.or_false]
  · rfl

theorem toInt_of_id (atMost : sv.svId.toNat ≤ 64) : sv.svId.toInt = sv.svId.toNat :=
  BitVec.toInt_eq_toNat_of_lt (by omega)

theorem shiftedOne_of_id (least : 1 ≤ sv.svId.toNat) (small : sv.svId.toNat ≤ 32) :
    shiftedOne undefinedShift (sv.svId.toInt - 1) = BitVec.twoPow 32 (sv.svId.toNat - 1) := by
  have amount : sv.svId.toInt - 1 = (sv.svId.toNat - 1 : Nat) := by
    rw [toInt_of_id (by omega)]
    omega
  rw [amount, shiftedOne, if_pos (by omega), Int.toNat_natCast]

/-- Two vectors have a bit in common exactly if they do not cancel out. -/
theorem and_ne_zero_iff {w : Nat} (left right : BitVec w) :
    left &&& right ≠ 0#w ↔ ∃ bit, left.getLsbD bit = true ∧ right.getLsbD bit = true := by
  constructor
  · intro nonzero
    by_contra none
    refine nonzero (BitVec.eq_of_getLsbD_eq fun bit _ => ?_)
    rw [BitVec.getLsbD_and, BitVec.getLsbD_zero, Bool.and_eq_false_imp]
    exact fun set => Bool.eq_false_iff.mpr fun set' => none ⟨bit, set, set'⟩
  · rintro ⟨bit, set, set'⟩ zero
    have both := congrArg (BitVec.getLsbD · bit) zero
    simp [set, set'] at both

/-- A number that has a bit of its own in an `int` is tested by that bit. -/
theorem tested_of_small (least : 1 ≤ sv.svId.toNat) (small : sv.svId.toNat < 32) :
    (adapter.svUsedIdMask sv.type &&&
      (shiftedOne undefinedShift (sv.svId.toInt - 1)).signExtend 64 ≠ 0#64) ↔ adapter.Used sv := by
  have bits : ∀ bit, ((BitVec.twoPow 32 (sv.svId.toNat - 1)).signExtend 64).getLsbD bit = true ↔
      bit = sv.svId.toNat - 1 := by
    intro bit
    have positive : (BitVec.twoPow 32 (sv.svId.toNat - 1)).msb = false := by
      rw [BitVec.msb_eq_getLsbD_last, BitVec.getLsbD_twoPow]
      simp
      omega
    rw [BitVec.getLsbD_signExtend, positive, BitVec.getLsbD_twoPow]
    simp
    omega
  rw [shiftedOne_of_id least (Nat.le_of_lt small), and_ne_zero_iff]
  simp only [bits, exists_eq_right, Used]

/-- The number of the sign bit is tested by that bit and all beyond. -/
theorem tested_of_signBit (sign : sv.svId.toNat = 32) :
    (adapter.svUsedIdMask sv.type &&&
      (shiftedOne undefinedShift (sv.svId.toInt - 1)).signExtend 64 ≠ 0#64) ↔
      adapter.Used sv ∨
        ∃ bit, 32 ≤ bit ∧ (adapter.svUsedIdMask sv.type).getLsbD bit = true := by
  have bits : ∀ bit, ((BitVec.twoPow 32 31).signExtend 64).getLsbD bit = true ↔
      bit < 64 ∧ 31 ≤ bit := by
    intro bit
    have negative : (BitVec.twoPow 32 31).msb = true := by decide
    rw [BitVec.getLsbD_signExtend, negative, BitVec.getLsbD_twoPow]
    split <;> simp <;> omega
  rw [shiftedOne_of_id (by omega) (by omega), and_ne_zero_iff, Used, sign]
  constructor
  · rintro ⟨bit, set, tested⟩
    have high := ((bits bit).mp tested).2
    rcases Nat.lt_or_ge 31 bit with past | last
    · exact .inr ⟨bit, past, set⟩
    · obtain rfl := Nat.le_antisymm last high
      exact .inl set
  · rintro (set | ⟨bit, past, set⟩)
    · exact ⟨31, set, (bits 31).mpr (by omega)⟩
    · exact ⟨bit, set, (bits bit).mpr ⟨BitVec.lt_of_getLsbD set, by omega⟩⟩

/-- With a number past the end of an `int`, the test is of whatever the shift gave. -/
theorem tested_past_end (past : 32 < sv.svId.toNat) (atMost : sv.svId.toNat ≤ 64) :
    shiftedOne undefinedShift (sv.svId.toInt - 1) = undefinedShift (sv.svId.toInt - 1) := by
  rw [toInt_of_id atMost, shiftedOne, if_neg (by omega)]

theorem mask_ne_zero_of_used (used : adapter.Used sv) : adapter.svUsedIdMask sv.type ≠ 0#64 := by
  intro zero
  simp [Used, zero] at used

/-- One satellite is delivered as its mask says, whatever undefined shifts give, exactly if
it `Shows` that. -/
theorem followsMask_iff_shows (least : 1 ≤ sv.svId.toNat) (atMost : sv.svId.toNat ≤ 64) :
    (∀ undefinedShift, adapter.FollowsMask sv (adapter.reportedSv undefinedShift sv)) ↔
      adapter.Shows sv := by
  have follows : ∀ undefinedShift,
      adapter.FollowsMask sv (adapter.reportedSv undefinedShift sv) ↔
        (sv.usedInFix = true ∨ adapter.svUsedIdMask sv.type &&&
          (shiftedOne undefinedShift (sv.svId.toInt - 1)).signExtend 64 ≠ 0#64 ↔
            adapter.Used sv) := by
    intro undefinedShift
    rw [FollowsMask, usedInFix_reportedSv]
    exact and_iff_left other_options_stay
  simp only [follows]
  rcases Nat.lt_trichotomy sv.svId.toNat 32 with small | sign | past
  · simp only [tested_of_small least small]
    constructor
    · intro exact
      exact ⟨fun stale => (exact fun _ => 0).mp (.inl stale), by omega, by omega⟩
    · intro shows _
      exact ⟨fun either => either.elim shows.notStale id, .inr⟩
  · simp only [tested_of_signBit sign]
    constructor
    · intro exact
      have exact := exact fun _ => 0
      refine ⟨fun stale => exact.mp (.inl stale), fun _ bit high set => ?_, by omega⟩
      exact exact.mp (.inr (.inr ⟨bit, high, set⟩))
    · intro shows _
      refine ⟨?_, fun used => .inr (.inl used)⟩
      rintro (stale | used | ⟨bit, high, set⟩)
      · exact shows.notStale stale
      · exact used
      · exact shows.ofSignBit sign bit high set
  · simp only [tested_past_end past atMost]
    constructor
    · intro exact
      have none := exact fun _ => 0
      have all := exact fun _ => BitVec.allOnes 32
      have zero : (0 : BitVec 32).signExtend 64 = 0#64 := by decide
      have ones : (BitVec.allOnes 32).signExtend 64 = BitVec.allOnes 64 := by decide
      simp only [zero, BitVec.and_zero, ne_eq, not_true_eq_false, or_false] at none
      simp only [ones, BitVec.and_allOnes] at all
      refine ⟨none.mp, by omega, fun _ nonzero => none.mpr (all.mp (.inr nonzero))⟩
    · intro shows undefinedShift
      have stale_of_mask := shows.pastEnd past
      constructor
      · rintro (stale | hit)
        · exact shows.notStale stale
        · refine shows.notStale (stale_of_mask fun zero => hit ?_)
          rw [zero, BitVec.zero_and]
      · intro used
        exact .inl (stale_of_mask (mask_ne_zero_of_used used))

end GnssAdapter

/-- Every satellite of a notification is delivered as used exactly if the masks say so,
whatever undefined shifts give, exactly if every one `Shows` that. -/
theorem used_in_fix_follows_the_masks_iff (adapter : GnssAdapter) (svNotify : List GnssSv)
    (ids : ∀ sv ∈ svNotify, 1 ≤ sv.svId.toNat ∧ sv.svId.toNat ≤ 64) :
    (∀ undefinedShift, List.Forall₂ adapter.FollowsMask svNotify
        (adapter.reportSv undefinedShift svNotify).svNotify) ↔
      ∀ sv ∈ svNotify, adapter.Shows sv := by
  have each : ∀ undefinedShift, List.Forall₂ adapter.FollowsMask svNotify
      (adapter.reportSv undefinedShift svNotify).svNotify ↔
      ∀ sv ∈ svNotify, adapter.FollowsMask sv (adapter.reportedSv undefinedShift sv) := by
    intro undefinedShift
    rw [GnssAdapter.reportSv, List.forall₂_map_right_iff, List.forall₂_same]
  have one : ∀ sv ∈ svNotify, (∀ undefinedShift,
      adapter.FollowsMask sv (adapter.reportedSv undefinedShift sv)) ↔ adapter.Shows sv :=
    fun sv member => GnssAdapter.followsMask_iff_shows (ids sv member).1 (ids sv member).2
  simp only [each]
  constructor
  · intro follows sv member
    exact (one sv member).mp fun undefinedShift => follows undefinedShift sv member
  · intro shows undefinedShift sv member
    exact (one sv member).mpr (shows sv member) undefinedShift

/-- GPS satellites 1 and 32 were used in the last fix. -/
def firstAndLast : GnssAdapter := ⟨true, ⟨0x80000001, 0, 0, 0, 0⟩, []⟩

theorem first_and_last_are_delivered_as_used :
    List.Forall₂ firstAndLast.FollowsMask [⟨1, .gps, 3, []⟩, ⟨32, .gps, 0, []⟩]
      (firstAndLast.reportSv (fun _ => 0) [⟨1, .gps, 3, []⟩, ⟨32, .gps, 0, []⟩]).svNotify := by
  refine (used_in_fix_follows_the_masks_iff firstAndLast [⟨1, .gps, 3, []⟩, ⟨32, .gps, 0, []⟩]
    (by decide)).mpr ?_ (fun _ => 0)
  simp only [List.forall_mem_cons, List.not_mem_nil, false_imp_iff, implies_true, and_true]
  refine ⟨⟨fun _ => rfl, fun sign => ?_, fun past => ?_⟩,
    ⟨fun _ => rfl, fun _ _ _ _ => rfl, ?_⟩⟩
  · exact absurd sign (by decide)
  · exact absurd past (by decide)
  · exact fun past => absurd past (by decide)

theorem a_stale_bit_is_delivered :
    ¬ ∀ (adapter : GnssAdapter) (svNotify : List GnssSv) (undefinedShift : Int → BitVec 32),
      (∀ sv ∈ svNotify, 1 ≤ sv.svId.toNat ∧ sv.svId.toNat ≤ 64) →
      List.Forall₂ adapter.FollowsMask svNotify
        (adapter.reportSv undefinedShift svNotify).svNotify := by
  intro follows
  have delivered := follows ⟨false, ⟨0, 0, 0, 0, 0⟩, []⟩ [⟨5, .gps, 4, []⟩] (fun _ => 0)
    (by decide)
  obtain ⟨exact, _⟩ := (List.forall₂_cons.mp delivered).1
  have used := exact.mp rfl
  exact absurd used (by simp [GnssAdapter.Used, GnssAdapter.svUsedIdMask])

end Msm8917Common.Gnss.UsedInFix
