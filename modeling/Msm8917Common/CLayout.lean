import Mathlib.Data.Vector.Basic
import Mathlib.Logic.Equiv.Defs

/-! How the structures of a C program lie in memory, on a machine of 32-bit words that
stores the lowest byte first. A layout is put together from the layouts of the fields, and
with them come its laws. Nothing here names a particular program. -/
namespace Msm8917Common.CLayout

abbrev Word := BitVec 32

abbrev Byte := BitVec 8

variable {α β : Type} {n : Nat}

/-- A type whose values take so many words. What is written is read back, whatever lies
behind it; a read takes what was written and nothing else, and stays inside memory that
is large enough. -/
structure Layout (α : Type) where
  size : Nat
  write : α → List Word
  read : List Word → Option α
  length_write : ∀ value, (write value).length = size
  read_write : ∀ value rest, read (write value ++ rest) = some value
  write_read : ∀ {memory value}, read memory = some value → write value <+: memory
  read_inside : ∀ memory, size ≤ memory.length → (read memory).isSome

namespace Layout

def word : Layout Word where
  size := 1
  write value := [value]
  read := List.head?
  length_write _ := rfl
  read_write _ _ := rfl
  write_read := by
    intro memory value read
    cases memory with
    | nil => cases read
    | cons first rest =>
      cases read
      exact ⟨rest, rfl⟩
  read_inside memory room := by
    cases memory with
    | nil => exact absurd room (by decide)
    | cons => rfl

/-- One field after the other. -/
def pair (first : Layout α) (second : Layout β) : Layout (α × β) where
  size := first.size + second.size
  write value := first.write value.1 ++ second.write value.2
  read memory :=
    (first.read memory).bind fun head =>
      (second.read (memory.drop first.size)).map fun tail => (head, tail)
  length_write value := by
    rw [List.length_append, first.length_write, second.length_write]
  read_write value rest := by
    have behind : (first.write value.1 ++ (second.write value.2 ++ rest)).drop first.size =
        second.write value.2 ++ rest := List.drop_left' (first.length_write value.1)
    rw [List.append_assoc, first.read_write, behind, second.read_write]
    rfl
  write_read := by
    intro memory value read
    obtain ⟨head, readHead, read⟩ := Option.bind_eq_some_iff.mp read
    obtain ⟨tail, readTail, rfl⟩ := Option.map_eq_some_iff.mp read
    obtain ⟨rest, split⟩ := first.write_read readHead
    subst split
    rw [List.drop_left' (first.length_write head)] at readTail
    exact (List.prefix_append_right_inj _).mpr (second.write_read readTail)
  read_inside memory room := by
    obtain ⟨head, readHead⟩ :=
      Option.isSome_iff_exists.mp (first.read_inside memory (by omega))
    obtain ⟨tail, readTail⟩ :=
      Option.isSome_iff_exists.mp (second.read_inside (memory.drop first.size) (by
        rw [List.length_drop]
        omega))
    rw [readHead, Option.bind_some, readTail]
    rfl

/-- The same words as the values of another type. -/
def as (layout : Layout α) (view : α ≃ β) : Layout β where
  size := layout.size
  write value := layout.write (view.symm value)
  read memory := (layout.read memory).map view
  length_write value := layout.length_write (view.symm value)
  read_write value rest := by
    rw [layout.read_write, Option.map_some, view.apply_symm_apply]
  write_read := by
    intro memory value read
    obtain ⟨parts, readParts, rfl⟩ := Option.map_eq_some_iff.mp read
    rw [view.symm_apply_apply]
    exact layout.write_read readParts
  read_inside memory room := by
    rw [Option.isSome_map]
    exact layout.read_inside memory room

def nothing : Layout (List.Vector α 0) where
  size := 0
  write _ := []
  read _ := some .nil
  length_write _ := rfl
  read_write value _ := congrArg some value.eq_nil.symm
  write_read _ := List.nil_prefix
  read_inside _ _ := rfl

/-- A first element and the others. -/
def consEquiv : α × List.Vector α n ≃ List.Vector α (n + 1) where
  toFun parts := parts.1 ::ᵥ parts.2
  invFun vector := (vector.head, vector.tail)
  left_inv parts := Prod.ext (parts.2.head_cons parts.1) (parts.2.tail_cons parts.1)
  right_inv vector := vector.cons_head_tail

def array (element : Layout α) : (n : Nat) → Layout (List.Vector α n)
  | 0 => nothing
  | n + 1 => (element.pair (array element n)).as consEquiv

@[simp] theorem size_word : word.size = 1 := rfl

@[simp] theorem size_pair (first : Layout α) (second : Layout β) :
    (first.pair second).size = first.size + second.size := rfl

@[simp] theorem size_as (layout : Layout α) (view : α ≃ β) : (layout.as view).size = layout.size :=
  rfl

@[simp] theorem size_array (element : Layout α) (n : Nat) :
    (element.array n).size = n * element.size := by
  induction n with
  | zero => exact (Nat.zero_mul _).symm
  | succ n ih =>
    calc element.size + (element.array n).size
        = element.size + n * element.size := by rw [ih]
      _ = (n + 1) * element.size := by rw [Nat.succ_mul, Nat.add_comm]

/-- Memory of exactly the size of a value is that value, written. -/
theorem read_eq_some_iff {layout : Layout α} {memory : List Word} {value : α}
    (whole : memory.length = layout.size) :
    layout.read memory = some value ↔ memory = layout.write value := by
  constructor
  · intro read
    have length : (layout.write value).length = memory.length :=
      (layout.length_write value).trans whole.symm
    exact ((layout.write_read read).eq_of_length length).symm
  · intro written
    rw [written, ← List.append_nil (layout.write value)]
    exact layout.read_write value []

end Layout

/-- The four bytes of a word, the lowest first. -/
def bytesOf (word : Word) : List.Vector Byte 4 :=
  ⟨[.ofNat 8 word.toNat, .ofNat 8 (word.toNat / 256), .ofNat 8 (word.toNat / 65536),
    .ofNat 8 (word.toNat / 16777216)], rfl⟩

def wordOf (bytes : List.Vector Byte 4) : Word :=
  .ofNat 32 ((bytes.get 0).toNat + (bytes.get 1).toNat * 256 + (bytes.get 2).toNat * 65536 +
    (bytes.get 3).toNat * 16777216)

theorem toNat_wordOf (a b c d : Byte) :
    (wordOf ⟨[a, b, c, d], rfl⟩).toNat =
      a.toNat + b.toNat * 256 + c.toNat * 65536 + d.toNat * 16777216 := by
  have fits : a.toNat + b.toNat * 256 + c.toNat * 65536 + d.toNat * 16777216 < 2 ^ 32 := by
    have bounds := And.intro a.isLt (And.intro b.isLt (And.intro c.isLt d.isLt))
    omega
  exact (BitVec.toNat_ofNat _ _).trans (Nat.mod_eq_of_lt fits)

theorem bytesOf_wordOf (bytes : List.Vector Byte 4) : bytesOf (wordOf bytes) = bytes := by
  obtain ⟨list, length⟩ := bytes
  obtain ⟨a, b, c, d, rfl⟩ := List.length_eq_four.mp length
  apply Subtype.ext
  simp only [bytesOf, toNat_wordOf, List.cons.injEq, and_true]
  refine ⟨?_, ?_, ?_, ?_⟩ <;>
    · apply BitVec.eq_of_toNat_eq
      rw [BitVec.toNat_ofNat]
      omega

theorem wordOf_bytesOf (word : Word) : wordOf (bytesOf word) = word := by
  apply BitVec.eq_of_toNat_eq
  rw [bytesOf, toNat_wordOf]
  simp only [BitVec.toNat_ofNat]
  omega

def bytesEquiv : Word ≃ List.Vector Byte 4 := ⟨bytesOf, wordOf, wordOf_bytesOf, bytesOf_wordOf⟩

/-- Four characters in a word. -/
def Layout.bytes : Layout (List.Vector Byte 4) := Layout.word.as bytesEquiv

/-- An assignment to a structure at the start of memory leaves what lies behind it. -/
def Layout.update (layout : Layout α) (change : α → α) (memory : List Word) : List Word :=
  match layout.read memory with
  | some value => layout.write (change value) ++ memory.drop layout.size
  | none => memory

theorem Layout.length_update (layout : Layout α) (change : α → α) (memory : List Word) :
    (layout.update change memory).length = memory.length := by
  unfold Layout.update
  cases read : layout.read memory with
  | none => rfl
  | some value =>
    have inside := (layout.write_read read).length_le
    rw [layout.length_write] at inside
    rw [List.length_append, layout.length_write, List.length_drop, Nat.add_sub_cancel' inside]

theorem Layout.read_update {layout : Layout α} {change : α → α} {memory : List Word} {value : α}
    (read : layout.read memory = some value) :
    layout.read (layout.update change memory) = some (change value) := by
  rw [Layout.update, read]
  exact layout.read_write _ _

end Msm8917Common.CLayout
