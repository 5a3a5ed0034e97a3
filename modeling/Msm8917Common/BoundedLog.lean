import Mathlib.Data.List.DropRight
import Mathlib.Data.List.ModifyLast

/-! A log of bounded length against the log that keeps everything. Entries come at
the end, the newest one may be amended, and what is kept is the newest part of the
whole log. Nothing here names a particular program. -/
namespace Msm8917Common.BoundedLog

variable {α : Type*}

/-- What happens to a log: a new entry, or an amendment to the newest one. -/
inductive Change (α : Type*) where
  | store (entry : α)
  | amend (change : α → α)

/-- The log that keeps everything, in the order of storing. -/
def record (log : List α) : Change α → List α
  | .store entry => log ++ [entry]
  | .amend change => log.modifyLast change

/-- The kept part of a log after a change: the oldest entry goes when a new one is
stored at full size, and nothing goes otherwise. -/
def KeepsNewest (bound : Nat) (kept after : List α) : Change α → Prop
  | .store entry =>
    kept.length < bound ∧ after = kept ++ [entry] ∨
      kept.length = bound ∧ after = kept.tail ++ [entry]
  | .amend change => after = kept.modifyLast change

theorem length_rtake (log : List α) (bound : Nat) :
    (log.rtake bound).length = min bound log.length := by
  rw [List.rtake, List.length_drop]
  omega

@[simp] theorem length_modifyLast (change : α → α) (log : List α) :
    (log.modifyLast change).length = log.length := by
  rcases log.eq_nil_or_concat with rfl | ⟨init, last, rfl⟩
  · rfl
  · rw [List.concat_eq_append, List.modifyLast_concat]
    simp

/-- Once the bound is reached, the part one shorter lacks the oldest entry. -/
theorem tail_rtake {log : List α} {bound : Nat} (full : (log.rtake bound).length = bound) :
    (log.rtake bound).tail = log.rtake (bound - 1) := by
  rw [length_rtake] at full
  rw [List.rtake, List.rtake, List.tail_drop]
  rcases Nat.eq_zero_or_pos bound with rfl | positive
  · simp
  · congr 1
    omega

/-- Before that, nothing is missing. -/
theorem rtake_of_short {log : List α} {bound : Nat} (short : (log.rtake bound).length < bound) :
    log.rtake bound = log := by
  rw [length_rtake] at short
  rw [List.rtake, Nat.sub_eq_zero_of_le (by omega), List.drop_zero]

theorem rtake_amend {bound : Nat} (positive : 0 < bound) (log : List α) (change : α → α) :
    (log.modifyLast change).rtake bound = (log.rtake bound).modifyLast change := by
  obtain ⟨rest, rfl⟩ := Nat.exists_eq_add_of_lt positive
  rw [Nat.zero_add]
  rcases log.eq_nil_or_concat with rfl | ⟨init, last, rfl⟩
  · rw [List.rtake_nil]
    exact List.rtake_nil (rest + 1)
  · rw [List.concat_eq_append, List.modifyLast_concat, List.rtake_concat_succ,
      List.rtake_concat_succ, List.modifyLast_concat]

/-- A change that keeps the newest entries keeps the kept part the newest part of
the whole log. -/
theorem KeepsNewest.newest {bound : Nat} {log kept after : List α} {change : Change α}
    (keeps : KeepsNewest bound kept after change) (positive : 0 < bound)
    (newest : kept = log.rtake bound) : after = (record log change).rtake bound := by
  subst newest
  cases change with
  | amend change => exact keeps.trans (rtake_amend positive log change).symm
  | store entry =>
    obtain ⟨rest, rfl⟩ := Nat.exists_eq_add_of_lt positive
    rw [Nat.zero_add] at keeps ⊢
    rw [record, List.rtake_concat_succ]
    rcases keeps with ⟨short, rfl⟩ | ⟨full, rfl⟩
    · have whole := rtake_of_short short
      rw [length_rtake] at short
      rw [whole, List.rtake, Nat.sub_eq_zero_of_le (by omega), List.drop_zero]
    · rw [tail_rtake full, Nat.add_sub_cancel]

end Msm8917Common.BoundedLog
