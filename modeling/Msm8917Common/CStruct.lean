import Mathlib.Data.List.Nodup
import Msm8917Common.CText

/-! The memory of a `struct` in C: what writing from an address on leaves in it, and where
the fields are when they follow one another without gaps. Nothing here names a particular
program. -/
namespace Msm8917Common.CStruct
open CText

/-- A byte at each address. -/
abbrev Memory := Nat → Char

/-- The bytes are written from the address on. -/
def write (memory : Memory) (start : Nat) (bytes : Text) : Memory :=
  fun address =>
    if start ≤ address then (bytes[address - start]?).getD (memory address) else memory address

/-- So many bytes from the address on. -/
def read (memory : Memory) (start size : Nat) : Text :=
  (List.range size).map fun index => memory (start + index)

variable {memory : Memory} {start address : Nat} {bytes : Text}

theorem write_outside (outside : address < start ∨ start + bytes.length ≤ address) :
    write memory start bytes address = memory address := by
  unfold write
  split
  · next behind =>
    have beyond : bytes.length ≤ address - start := by omega
    rw [List.getElem?_eq_none beyond]
    rfl
  · rfl

theorem write_inside {index : Nat} (inside : index < bytes.length) :
    write memory start bytes (start + index) = bytes[index] := by
  rw [write, if_pos (Nat.le_add_right _ _), Nat.add_sub_cancel_left,
    List.getElem?_eq_getElem inside]
  rfl

theorem read_congr {other : Memory} {size : Nat}
    (same : ∀ index < size, other (start + index) = memory (start + index)) :
    read other start size = read memory start size := by
  apply List.map_congr_left
  intro index member
  exact same index (List.mem_range.mp member)

/-- What was written comes first in what is read there. -/
theorem read_write {size : Nat} (fits : bytes.length ≤ size) :
    read (write memory start bytes) start size =
      bytes ++ read memory (start + bytes.length) (size - bytes.length) := by
  obtain ⟨rest, rfl⟩ := Nat.exists_eq_add_of_le fits
  simp only [read, Nat.add_sub_cancel_left, List.range_add, List.map_append, List.map_map]
  congr 1
  · apply List.ext_getElem
    · simp
    · intro index _ inside
      rw [List.getElem_map, List.getElem_range]
      exact write_inside inside
  · apply List.map_congr_left
    intro index _
    rw [Function.comp_apply, ← Nat.add_assoc]
    exact write_outside (.inr (Nat.le_add_right _ _))

section Layout
variable {Field : Type*} [DecidableEq Field] {layout : List (Field × Nat)}

/-- Where a field starts: behind those declared before it, each with its size. -/
def offsetof (field : Field) : List (Field × Nat) → Nat
  | [] => 0
  | (first, size) :: layout => if first = field then 0 else size + offsetof field layout

/-- Of two fields one ends before the other starts. -/
theorem offsetof_disjoint (nodup : (layout.map Prod.fst).Nodup) {field other : Field}
    {size otherSize : Nat} (member : (field, size) ∈ layout)
    (otherMember : (other, otherSize) ∈ layout) (different : field ≠ other) :
    offsetof field layout + size ≤ offsetof other layout ∨
      offsetof other layout + otherSize ≤ offsetof field layout := by
  induction layout with
  | nil => cases member
  | cons first layout ih =>
    obtain ⟨name, firstSize⟩ := first
    rw [List.map_cons, List.nodup_cons] at nodup
    have listed {later : Field} {laterSize : Nat} (here : (later, laterSize) ∈ layout) :
        name ≠ later := fun same =>
      nodup.1 (List.mem_map.mpr ⟨_, here, same.symm⟩)
    rcases List.mem_cons.mp member with here | later
    · cases here
      rcases List.mem_cons.mp otherMember with twice | behind
      · cases twice
        exact absurd rfl different
      · left
        rw [offsetof, offsetof, if_pos rfl, if_neg different, Nat.zero_add]
        exact Nat.le_add_right _ _
    · rcases List.mem_cons.mp otherMember with here | behind
      · cases here
        right
        rw [offsetof, offsetof, if_pos rfl, if_neg (Ne.symm different), Nat.zero_add]
        exact Nat.le_add_right _ _
      · rw [offsetof, offsetof, if_neg (listed later), if_neg (listed behind), Nat.add_assoc,
          Nat.add_assoc]
        exact (ih nodup.2 later behind).imp (Nat.add_le_add_left · _) (Nat.add_le_add_left · _)

end Layout

end Msm8917Common.CStruct
