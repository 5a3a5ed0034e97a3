import Mathlib.Data.List.Perm.Subperm
import Msm8917Common.NmeaGsa

/-! Which satellites the GSA sentences list. What the cache takes over is right as long as
no satellite has a number above 32, but for two constellations it is each other's. -/
namespace Msm8917Common.LocNmea
open Gnss.UsedInFix

section Numbers
variable {w : Nat} (mask : BitVec w)

/-- The numbers of the satellites in a mask, in increasing order. -/
def numbers : List Nat := mask.toNat.bitIndices.map (· + 1)

theorem mem_bitIndices_toNat {bit : Nat} :
    bit ∈ mask.toNat.bitIndices ↔ mask.getLsbD bit = true := by
  rw [Nat.mem_bitIndices, BitVec.testBit_toNat]

theorem numbers_eq_nil : numbers mask = [] ↔ mask = 0#w := by
  rw [numbers, List.map_eq_nil_iff]
  constructor
  · intro none
    have sum := Nat.sum_map_two_pow_bitIndices mask.toNat
    rw [none] at sum
    exact BitVec.eq_of_toNat_eq sum.symm
  · rintro rfl
    exact Nat.bitIndices_zero

/-- A mask has no more bits than it has room for. -/
theorem length_numbers_le : (numbers mask).length ≤ w := by
  have inside : mask.toNat.bitIndices ⊆ List.range w := fun bit member =>
    List.mem_range.mpr (BitVec.lt_of_getLsbD ((mem_bitIndices_toNat mask).mp member))
  have counted := (List.subperm_of_subset Nat.bitIndices_nodup inside).length_le
  rw [List.length_range] at counted
  rwa [numbers, List.length_map]

/-- A mask that fits into 32 bits loses nothing there. -/
theorem numbers_narrowed {mask : BitVec 64} (low : mask.toNat < 0x100000000) :
    numbers (mask.setWidth 32) = numbers mask := by
  rw [numbers, BitVec.toNat_setWidth, Nat.mod_eq_of_lt low, numbers]

/-- Narrowed to 32 bits, a mask has as many satellites as before only if it fits. -/
theorem narrowed_counts (mask : BitVec 64) :
    (numbers (mask.setWidth 32)).length ≤ (numbers mask).length ∧
      ((numbers (mask.setWidth 32)).length = (numbers mask).length →
        mask.toNat < 0x100000000) := by
  have inside : (mask.setWidth 32).toNat.bitIndices ⊆ mask.toNat.bitIndices := by
    intro bit member
    rw [mem_bitIndices_toNat, BitVec.getLsbD_setWidth, Bool.and_eq_true] at member
    exact (mem_bitIndices_toNat mask).mpr member.2
  have subperm := List.subperm_of_subset Nat.bitIndices_nodup inside
  simp only [numbers, List.length_map]
  refine ⟨subperm.length_le, fun same => ?_⟩
  have perm := subperm.perm_of_length_le (Nat.le_of_eq same.symm)
  have sums := (perm.map (2 ^ ·)).sum_eq
  rw [Nat.sum_map_two_pow_bitIndices, Nat.sum_map_two_pow_bitIndices] at sums
  exact sums ▸ (mask.setWidth 32).isLt

end Numbers

/-- The loop lists the numbers of the bits that are left, as long as the list has room. -/
theorem svUsedLoop_eq (svIdOffset i mask : Nat) (svUsedList : List Nat)
    (room : svUsedList.length + mask.bitIndices.length ≤ 32) :
    svUsedLoop svIdOffset i mask svUsedList =
      svUsedList ++ mask.bitIndices.map (· + i + svIdOffset) := by
  induction i, mask, svUsedList using svUsedLoop.induct svIdOffset with
  | case1 i mask svUsedList more ih =>
    rw [svUsedLoop, if_pos more]
    rcases Nat.mod_two_eq_zero_or_one mask with bit | bit
    · have indices : mask.bitIndices = (mask / 2).bitIndices.map (· + 1) :=
        (congrArg Nat.bitIndices (by omega)).trans (Nat.bitIndices_two_mul (mask / 2))
      rw [indices, List.length_map] at room
      simp only [bit, Nat.zero_ne_one, dite_eq_ite, if_false] at ih ⊢
      rw [ih room, indices, List.map_map]
      apply congrArg (svUsedList ++ ·)
      apply List.map_congr_left
      intro index _
      simp only [Function.comp_apply]
      omega
    · have indices : mask.bitIndices = 0 :: (mask / 2).bitIndices.map (· + 1) :=
        (congrArg Nat.bitIndices (by omega)).trans (Nat.bitIndices_two_mul_add_one (mask / 2))
      rw [indices, List.length_cons, List.length_map] at room
      simp only [bit, dite_eq_ite, if_true] at ih ⊢
      rw [ih (by rw [List.length_append, List.length_singleton]; omega), indices, List.map_cons,
        List.map_map, List.append_assoc, Nat.zero_add]
      apply congrArg (svUsedList ++ (i + svIdOffset) :: ·)
      apply List.map_congr_left
      intro index _
      simp only [Function.comp_apply]
      omega
  | case2 i mask svUsedList done =>
    rw [svUsedLoop, if_neg done]
    have empty : mask.bitIndices = [] := by
      by_cases zero : mask = 0
      · rw [zero, Nat.bitIndices_zero]
      · exact List.eq_nil_of_length_eq_zero (by omega)
    rw [empty, List.map_nil, List.append_nil]

/-- What `svUsedList` holds after the loop. -/
theorem svUsedList_eq (svIdOffset : Nat) (mask : BitVec 32) :
    svUsedLoop svIdOffset 1 mask.toNat [] = (numbers mask).map (· + svIdOffset) := by
  have room := length_numbers_le mask
  rw [numbers, List.length_map] at room
  rw [svUsedLoop_eq svIdOffset 1 mask.toNat [] (by simpa using room), List.nil_append, numbers,
    List.map_map]
  rfl

section Report

/-- The constellations, in the order of their sentences. -/
def constellations : List GnssSvType := [.gps, .glonass, .galileo, .qzss, .beidou]

theorem mem_constellations {svType : GnssSvType} : svType ∈ constellations ↔
    svType = .gps ∨ svType = .glonass ∨ svType = .galileo ∨ svType = .qzss ∨ svType = .beidou := by
  simp only [constellations, List.mem_cons, List.not_mem_nil, or_false]

theorem forall_constellations {property : GnssSvType → Prop} :
    (∀ svType ∈ constellations, property svType) ↔ property .gps ∧ property .glonass ∧
      property .galileo ∧ property .qzss ∧ property .beidou := by
  simp only [constellations, List.forall_mem_cons, List.not_mem_nil, false_imp_iff, implies_true,
    and_true]

def systemId : GnssSvType → Nat
  | .gps => 1
  | .glonass => 2
  | .galileo => 3
  | .beidou => 4
  | .qzss => 5
  | .unknown | .sbas => 0

def svIdOffset : GnssSvType → Nat
  | .glonass => 64
  | _ => 0

/-- The two letters of a constellation, and whether `GN` takes their place when several
are combined. -/
def letters : GnssSvType → Text × Bool
  | .gps => ("GP".toList, true)
  | .glonass => ("GL".toList, true)
  | .galileo => ("GA".toList, true)
  | .qzss | .beidou => ("PQ".toList, false)
  | .unknown | .sbas => ([], false)

namespace GpsLocationExtended
variable (locationExtended : GpsLocationExtended)

/-- The mask of a constellation's own satellites, empty if there are no data. -/
def used (svType : GnssSvType) : BitVec 64 :=
  if locationExtended.HAS_GNSS_SV_USED_DATA then
    match svType with
    | .gps => locationExtended.gnss_sv_used_ids.gps_sv_used_ids_mask
    | .glonass => locationExtended.gnss_sv_used_ids.glo_sv_used_ids_mask
    | .galileo => locationExtended.gnss_sv_used_ids.gal_sv_used_ids_mask
    | .qzss => locationExtended.gnss_sv_used_ids.qzss_sv_used_ids_mask
    | .beidou => locationExtended.gnss_sv_used_ids.bds_sv_used_ids_mask
    | .unknown | .sbas => 0#64
  else 0#64

/-- The talker of a constellation's sentence. -/
def talker (svType : GnssSvType) : Text :=
  if (letters svType).2 ∧ 1 < constellations.countP (locationExtended.used · ≠ 0#64) then
    "GN".toList
  else (letters svType).1

/-- Each constellation with a used satellite has its sentence, under its talker; what stands
under its system id lists its first twelve satellites; and the count is of all satellites. -/
structure ListsUsed : Prop where
  emitted : ∀ svType ∈ constellations, locationExtended.used svType ≠ 0#64 →
    ∃ gsa ∈ (loc_nmea_generate_pos locationExtended).gsas,
      gsa.systemId = systemId svType ∧ gsa.talker = locationExtended.talker svType
  listed : ∀ svType ∈ constellations, ∀ gsa ∈ (loc_nmea_generate_pos locationExtended).gsas,
    gsa.systemId = systemId svType →
      gsa.svIds = ((numbers (locationExtended.used svType)).take 12).map (· + svIdOffset svType)
  counted : (loc_nmea_generate_pos locationExtended).svUsedCount =
    (constellations.map fun svType => (numbers (locationExtended.used svType)).length).sum

/-- No satellite has a number above 32, and the two constellations that stand in for each
other have the same first twelve. -/
structure Routed : Prop where
  low : ∀ svType ∈ constellations, (locationExtended.used svType).toNat < 0x100000000
  alike : (numbers (locationExtended.used .qzss)).take 12 =
    (numbers (locationExtended.used .beidou)).take 12

/-- The mask that the cache has for a constellation. -/
def cached : GnssSvType → BitVec 32
  | .gps => (locationExtended.used .gps).setWidth 32
  | .glonass => (locationExtended.used .glonass).setWidth 32
  | .galileo => (locationExtended.used .galileo).setWidth 32
  | .qzss => (locationExtended.used .beidou).setWidth 32
  | .beidou => (locationExtended.used .qzss).setWidth 32
  | .unknown | .sbas => 0#32

/-- The talker that goes into the sentence. -/
def printedTalker (svType : GnssSvType) : Text :=
  if (letters svType).2 ∧ 1 < constellations.countP (locationExtended.cached · ≠ 0#32) then
    "GN".toList
  else (letters svType).1

/-- The call for one of the constellations. -/
def generated (svType : GnssSvType) : Nat × Option Gsa :=
  loc_nmea_generate_GSA locationExtended
    (loc_nmea_sv_meta_init (cachedMasks locationExtended) svType (letters svType).2)

end GpsLocationExtended

open GpsLocationExtended
variable {locationExtended : GpsLocationExtended} {svType : GnssSvType}

theorem cachedMasks_eq : cachedMasks locationExtended =
    ⟨locationExtended.cached .gps, locationExtended.cached .glonass,
      locationExtended.cached .galileo, locationExtended.cached .qzss,
      locationExtended.cached .beidou⟩ := by
  unfold cachedMasks
  split
  · next data => simp only [cached, used, data, if_true]
  · next noData => simp [cached, used, noData]

theorem combined_eq : (cachedMasks locationExtended).combined =
    constellations.countP (locationExtended.cached · ≠ 0#32) := by
  simp only [cachedMasks_eq, loc_sv_cache_info.combined, constellations, List.countP_cons,
    List.countP_nil, decide_eq_true_eq]
  omega

/-- The description of a constellation. -/
theorem sv_meta_eq (member : svType ∈ constellations) :
    loc_nmea_sv_meta_init (cachedMasks locationExtended) svType (letters svType).2 =
      some ⟨locationExtended.printedTalker svType, svType, locationExtended.cached svType,
        svIdOffset svType, systemId svType⟩ := by
  simp only [loc_nmea_sv_meta_init, combined_eq, printedTalker]
  rcases mem_constellations.mp member with rfl | rfl | rfl | rfl | rfl <;>
    simp only [letters, cachedMasks_eq, Option.map_some, Bool.false_eq_true, false_and, true_and,
      if_false] <;>
    first | rfl | (split <;> rfl)

/-- The call counts the satellites in the constellation's mask in the cache. -/
theorem generated_count (member : svType ∈ constellations) :
    (locationExtended.generated svType).1 = (numbers (locationExtended.cached svType)).length := by
  simp only [generated, sv_meta_eq member, loc_nmea_generate_GSA, svUsedList_eq, List.length_map]
  split
  · next unused => exact unused.1.symm
  · rfl

/-- There is no sentence without satellites, except for GPS. -/
theorem generated_none (member : svType ∈ constellations) :
    (locationExtended.generated svType).2 = none ↔
      locationExtended.cached svType = 0#32 ∧ svType ≠ .gps := by
  simp only [generated, sv_meta_eq member, loc_nmea_generate_GSA, svUsedList_eq, List.length_map,
    List.length_eq_zero_iff, numbers_eq_nil]
  split
  · next unused => exact iff_of_true rfl unused
  · next used => exact iff_of_false (Option.some_ne_none _) used

/-- The sentence is under the constellation's system id, and lists the first twelve of the
satellites in its mask in the cache. -/
theorem generated_some (member : svType ∈ constellations) {gsa : Gsa}
    (pushed : (locationExtended.generated svType).2 = some gsa) :
    gsa.systemId = systemId svType ∧ gsa.talker = locationExtended.printedTalker svType ∧
      gsa.svIds =
        ((numbers (locationExtended.cached svType)).take 12).map (· + svIdOffset svType) := by
  simp only [generated, sv_meta_eq member, loc_nmea_generate_GSA, svUsedList_eq,
    List.length_map] at pushed
  split at pushed
  · cases pushed
  · cases pushed
    exact ⟨rfl, rfl, (List.map_take ..).symm⟩

/-- The calls are made one after the other, and each adds its sentence and its count. -/
theorem report_eq :
    (loc_nmea_generate_pos locationExtended).gsas =
        constellations.flatMap (locationExtended.generated · |>.2.toList) ∧
      (loc_nmea_generate_pos locationExtended).svUsedCount =
        (constellations.map (locationExtended.generated · |>.1)).sum := by
  simp only [loc_nmea_generate_pos, PosReport.addGSA, constellations, List.flatMap_cons,
    List.flatMap_nil, List.map_cons, List.map_nil, List.sum_cons, List.sum_nil, List.append_nil,
    List.nil_append, List.append_assoc, Nat.zero_add, Nat.add_zero, Nat.add_assoc]
  exact ⟨rfl, rfl⟩

theorem systemId_injective {other : GnssSvType} (member : svType ∈ constellations)
    (member' : other ∈ constellations) (same : systemId svType = systemId other) :
    svType = other := by
  rcases mem_constellations.mp member with rfl | rfl | rfl | rfl | rfl <;>
    rcases mem_constellations.mp member' with rfl | rfl | rfl | rfl | rfl <;>
    first | rfl | cases same

/-- The sentence under a system id is the one of that constellation. -/
theorem mem_gsas (member : svType ∈ constellations) {gsa : Gsa} :
    gsa ∈ (loc_nmea_generate_pos locationExtended).gsas ∧ gsa.systemId = systemId svType ↔
      (locationExtended.generated svType).2 = some gsa := by
  simp only [report_eq.1, List.mem_flatMap, Option.mem_toList]
  constructor
  · rintro ⟨⟨other, member', pushed⟩, same⟩
    have own := (generated_some member' pushed).1
    obtain rfl := systemId_injective member' member (own.symm.trans same)
    exact pushed
  · intro pushed
    exact ⟨⟨svType, member, pushed⟩, (generated_some member pushed).1⟩

theorem total_of_calls : (loc_nmea_generate_pos locationExtended).svUsedCount =
    (constellations.map fun svType => (numbers (locationExtended.cached svType)).length).sum := by
  rw [report_eq.2]
  exact congrArg List.sum (List.map_congr_left fun svType member => generated_count member)

/-- If the count is right, the cache has lost no satellite. -/
theorem low_of_counted
    (counted : (loc_nmea_generate_pos locationExtended).svUsedCount =
      (constellations.map fun svType => (numbers (locationExtended.used svType)).length).sum) :
    ∀ svType ∈ constellations, (locationExtended.used svType).toNat < 0x100000000 := by
  rw [total_of_calls] at counted
  simp only [constellations, List.map_cons, List.map_nil, List.sum_cons, List.sum_nil,
    cached] at counted
  have gps := narrowed_counts (locationExtended.used .gps)
  have glonass := narrowed_counts (locationExtended.used .glonass)
  have galileo := narrowed_counts (locationExtended.used .galileo)
  have qzss := narrowed_counts (locationExtended.used .qzss)
  have beidou := narrowed_counts (locationExtended.used .beidou)
  rw [forall_constellations]
  refine ⟨gps.2 ?_, glonass.2 ?_, galileo.2 ?_, qzss.2 ?_, beidou.2 ?_⟩ <;> omega

/-- Without satellites above 32, the cache lists for each constellation what it was given. -/
theorem numbers_cached
    (low : ∀ svType ∈ constellations, (locationExtended.used svType).toNat < 0x100000000) :
    numbers (locationExtended.cached .gps) = numbers (locationExtended.used .gps) ∧
      numbers (locationExtended.cached .glonass) = numbers (locationExtended.used .glonass) ∧
      numbers (locationExtended.cached .galileo) = numbers (locationExtended.used .galileo) ∧
      numbers (locationExtended.cached .qzss) = numbers (locationExtended.used .beidou) ∧
      numbers (locationExtended.cached .beidou) = numbers (locationExtended.used .qzss) := by
  obtain ⟨gps, glonass, galileo, qzss, beidou⟩ := forall_constellations.mp low
  exact ⟨numbers_narrowed gps, numbers_narrowed glonass, numbers_narrowed galileo,
    numbers_narrowed beidou, numbers_narrowed qzss⟩

theorem first_twelve_eq_nil {w : Nat} (mask : BitVec w) :
    (numbers mask).take 12 = [] ↔ mask = 0#w := by
  rw [List.take_eq_nil_iff, or_iff_right (by decide), numbers_eq_nil]

/-- If the sentences list what they should, the two masks that are exchanged look alike. -/
theorem alike_of_listed (lists : locationExtended.ListsUsed) :
    (numbers (locationExtended.used .qzss)).take 12 =
      (numbers (locationExtended.used .beidou)).take 12 := by
  have qzss : GnssSvType.qzss ∈ constellations := by decide
  obtain ⟨_, _, _, exchanged, _⟩ := numbers_cached (low_of_counted lists.counted)
  rw [← exchanged]
  cases pushed : (locationExtended.generated .qzss).2 with
  | some gsa =>
    have printed := (generated_some qzss pushed).2.2
    have listed := lists.listed .qzss qzss gsa ((mem_gsas qzss).mpr pushed).1
      ((mem_gsas qzss).mpr pushed).2
    simpa [svIdOffset] using listed.symm.trans printed
  | none =>
    have empty := ((generated_none qzss).mp pushed).1
    rw [(first_twelve_eq_nil _).mpr empty, first_twelve_eq_nil]
    by_contra some
    obtain ⟨gsa, member, own, _⟩ := lists.emitted .qzss qzss some
    cases pushed.symm.trans ((mem_gsas qzss).mp ⟨member, own⟩)

/-- What the cache has for a constellation, against its own mask. -/
theorem cached_alike (routed : locationExtended.Routed) (member : svType ∈ constellations) :
    (numbers (locationExtended.cached svType)).take 12 =
      (numbers (locationExtended.used svType)).take 12 := by
  obtain ⟨gps, glonass, galileo, qzss, beidou⟩ := numbers_cached routed.low
  rcases mem_constellations.mp member with rfl | rfl | rfl | rfl | rfl
  · rw [gps]
  · rw [glonass]
  · rw [galileo]
  · rw [qzss, routed.alike]
  · rw [beidou, routed.alike]

theorem cached_eq_zero (routed : locationExtended.Routed) (member : svType ∈ constellations) :
    locationExtended.cached svType = 0#32 ↔ locationExtended.used svType = 0#64 := by
  rw [← first_twelve_eq_nil, cached_alike routed member, first_twelve_eq_nil]

theorem talker_eq (routed : locationExtended.Routed) (svType : GnssSvType) :
    locationExtended.printedTalker svType = locationExtended.talker svType := by
  have same : constellations.countP (locationExtended.cached · ≠ 0#32) =
      constellations.countP (locationExtended.used · ≠ 0#64) :=
    List.countP_congr fun other member => by simp [cached_eq_zero routed member]
  rw [printedTalker, talker, same]

/-- The sentences list the satellites used, and the count is theirs, exactly if no satellite
has a number above 32 and the two constellations whose masks are exchanged look alike. -/
theorem sentences_list_the_used_iff (locationExtended : GpsLocationExtended) :
    locationExtended.ListsUsed ↔ locationExtended.Routed := by
  constructor
  · exact fun lists => ⟨low_of_counted lists.counted, alike_of_listed lists⟩
  · intro routed
    refine ⟨fun svType member nonzero => ?_, fun svType member gsa pushed own => ?_, ?_⟩
    · cases pushed : (locationExtended.generated svType).2 with
      | none =>
        have empty := ((generated_none member).mp pushed).1
        exact absurd ((cached_eq_zero routed member).mp empty) nonzero
      | some gsa =>
        obtain ⟨own, talker, _⟩ := generated_some member pushed
        exact ⟨gsa, ((mem_gsas member).mpr pushed).1, own, talker.trans (talker_eq routed svType)⟩
    · have generated := (mem_gsas member).mp ⟨pushed, own⟩
      rw [(generated_some member generated).2.2, cached_alike routed member]
    · obtain ⟨gps, glonass, galileo, qzss, beidou⟩ := numbers_cached routed.low
      rw [total_of_calls]
      simp only [constellations, List.map_cons, List.map_nil, List.sum_cons, List.sum_nil, gps,
        glonass, galileo, qzss, beidou]
      omega

/-- One BeiDou satellite was used, and nothing else. -/
def oneBeidou : GpsLocationExtended := ⟨true, false, ⟨0, 0, 0, 1, 0⟩, [], [], []⟩

theorem a_beidou_satellite_is_listed_for_qzss :
    ¬ ∀ locationExtended : GpsLocationExtended, locationExtended.ListsUsed := by
  intro lists
  have alike := alike_of_listed (lists oneBeidou)
  have none : oneBeidou.used .qzss = 0#64 := rfl
  rw [(first_twelve_eq_nil _).mpr none] at alike
  have some : oneBeidou.used .beidou = 0#64 := (first_twelve_eq_nil _).mp alike.symm
  exact absurd some (by decide)

end Report

end Msm8917Common.LocNmea
