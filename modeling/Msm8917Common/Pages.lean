import Mathlib.Data.List.Basic

/-! A list dealt out over pages of one size. A given number of pages is filled in order, so
the last ones can be short or empty. -/
namespace Msm8917Common.Pages
variable {α : Type*} {size : Nat}

def pages (size : Nat) : Nat → List α → List (List α)
  | 0, _ => []
  | count + 1, items => items.take size :: pages size count (items.drop size)

@[simp] theorem length_pages (count : Nat) (items : List α) :
    (pages size count items).length = count := by
  induction count generalizing items with
  | zero => rfl
  | succ count ih => rw [pages, List.length_cons, ih]

/-- With room for all items, the pages hold each of them once and in order. -/
theorem flatten_pages {count : Nat} {items : List α} (room : items.length ≤ size * count) :
    (pages size count items).flatten = items := by
  induction count generalizing items with
  | zero =>
    rw [Nat.mul_zero, Nat.le_zero, List.length_eq_zero_iff] at room
    rw [room]
    rfl
  | succ count ih =>
    have rest : (items.drop size).length ≤ size * count := by
      rw [List.length_drop]
      rw [Nat.mul_succ] at room
      omega
    rw [pages, List.flatten_cons, ih rest, List.take_append_drop]

theorem length_le_of_mem {count : Nat} {items page : List α}
    (member : page ∈ pages size count items) : page.length ≤ size := by
  induction count generalizing items with
  | zero => cases member
  | succ count ih =>
    rw [pages, List.mem_cons] at member
    rcases member with first | later
    · rw [first]
      exact List.length_take_le size items
    · exact ih later

/-- With more items than the pages before the last can hold, these are full. -/
theorem full_of_mem_dropLast {count : Nat} {items : List α}
    (many : size * (count - 1) ≤ items.length) {page : List α}
    (member : page ∈ (pages size count items).dropLast) : page.length = size := by
  induction count generalizing items with
  | zero => cases member
  | succ count ih =>
    cases count with
    | zero => cases member
    | succ count =>
      rw [Nat.add_sub_cancel, Nat.mul_succ] at many
      rw [pages, pages, List.dropLast_cons_cons, ← pages, List.mem_cons] at member
      rcases member with first | later
      · rw [first, List.length_take]
        omega
      · apply ih _ later
        rw [Nat.add_sub_cancel, List.length_drop]
        omega

/-- The number of pages that are needed, written as a division that rounds up. -/
theorem mul_ceil_sub_one_le (length : Nat) (positive : 0 < size) :
    size * ((length + (size - 1)) / size - 1) ≤ length := by
  rw [Nat.mul_sub_one]
  have below := Nat.mul_div_le (length + (size - 1)) size
  omega

theorem le_mul_ceil (length : Nat) (positive : 0 < size) :
    length ≤ size * ((length + (size - 1)) / size) := by
  have above := Nat.lt_mul_div_succ (length + (size - 1)) positive
  rw [Nat.mul_succ] at above
  omega

end Msm8917Common.Pages
