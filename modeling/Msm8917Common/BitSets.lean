import Mathlib.Data.Set.Lattice.Image

/-! A bit vector as the set of the numbers of its bits. Two vectors are the same
exactly if the sets are. -/
namespace Msm8917Common.BitSets

variable {w : Nat} {ι : Type*}

/-- The numbers of the bits that are set. -/
def members (mask : BitVec w) : Set Nat := {index | mask.getLsbD index = true}

theorem members_injective : Function.Injective (members : BitVec w → Set Nat) := by
  intro left right same
  refine BitVec.eq_of_getLsbD_eq fun index _ => ?_
  exact Bool.eq_iff_iff.mpr (Set.ext_iff.mp same index)

@[simp] theorem members_zero : members 0#w = ∅ := by
  ext index
  simp [members]

@[simp] theorem members_or (left right : BitVec w) :
    members (left ||| right) = members left ∪ members right := by
  ext index
  simp [members]

@[simp] theorem members_and_not (mask excluded : BitVec w) :
    members (mask &&& ~~~excluded) = members mask \ members excluded := by
  ext index
  simp only [members, BitVec.getLsbD_and, BitVec.getLsbD_not, Set.mem_ofPred_eq, Set.mem_sdiff,
    Bool.and_eq_true, decide_eq_true_eq, Bool.not_eq_true', Bool.not_eq_true]
  constructor
  · exact fun both => ⟨both.1, both.2.2⟩
  · exact fun both => ⟨both.1, BitVec.lt_of_getLsbD both.1, both.2⟩

/-- A one that is shifted within the vector is a single bit. -/
theorem members_one_shiftLeft {index : Nat} (inside : index < w) :
    members (1#w <<< index) = {index} := by
  ext other
  rw [members, Set.mem_ofPred_eq, ← BitVec.twoPow_eq, BitVec.getLsbD_twoPow]
  simp only [inside, decide_true, Bool.true_and, decide_eq_true_eq, Set.mem_singleton_iff]
  exact eq_comm

/-- A loop that or-s into a mask what each element adds. -/
theorem members_foldl {added : ι → Set Nat} {step : BitVec w → ι → BitVec w}
    (adds : ∀ mask element, members (step mask element) = members mask ∪ added element)
    (elements : List ι) (mask : BitVec w) :
    members (elements.foldl step mask) = members mask ∪ ⋃ element ∈ elements, added element := by
  induction elements generalizing mask with
  | nil => simp
  | cons element rest ih =>
    rw [List.foldl_cons, ih, adds, Set.union_assoc]
    simp only [List.mem_cons, Set.iUnion_iUnion_eq_or_left]

end Msm8917Common.BitSets
