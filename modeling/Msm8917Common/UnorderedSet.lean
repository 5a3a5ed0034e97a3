import Mathlib.Data.List.Nodup

/-! A set as a container keeps it: its elements once each, in an iteration
order that no result may depend on. Loops over a container are folds over its
elements; membership is what the lemmas speak about. -/
namespace Msm8917Common

/-- The elements of a set in iteration order, each of them once. -/
structure UnorderedSet (α : Type*) where
  elems : List α
  nodup : elems.Nodup

namespace UnorderedSet
variable {α : Type*}

instance : Membership α (UnorderedSet α) := ⟨fun set value => value ∈ set.elems⟩

theorem mem_def {set : UnorderedSet α} {value : α} : value ∈ set ↔ value ∈ set.elems := Iff.rfl

instance [DecidableEq α] (value : α) (set : UnorderedSet α) : Decidable (value ∈ set) :=
  inferInstanceAs (Decidable (value ∈ set.elems))

def empty : UnorderedSet α := ⟨[], List.nodup_nil⟩

def singleton (value : α) : UnorderedSet α := ⟨[value], List.nodup_singleton value⟩

def isEmpty (set : UnorderedSet α) : Bool := set.elems.isEmpty

theorem isEmpty_singleton (value : α) : (singleton value).isEmpty = false := rfl

@[simp] theorem not_mem_empty (value : α) : value ∉ (empty : UnorderedSet α) := List.not_mem_nil

@[simp] theorem mem_singleton {value other : α} : value ∈ singleton other ↔ value = other :=
  List.mem_singleton

theorem isEmpty_iff {set : UnorderedSet α} : set.isEmpty = true ↔ ∀ value, value ∉ set := by
  rw [isEmpty, List.isEmpty_iff]
  exact List.eq_nil_iff_forall_not_mem

theorem isEmpty_false_iff {set : UnorderedSet α} : set.isEmpty = false ↔ ∃ value, value ∈ set := by
  rw [← Bool.not_eq_true, isEmpty_iff, not_forall_not]

variable [DecidableEq α]

def insert (set : UnorderedSet α) (value : α) : UnorderedSet α :=
  ⟨set.elems.insert value, set.nodup.insert⟩

def erase (set : UnorderedSet α) (value : α) : UnorderedSet α :=
  ⟨set.elems.erase value, set.nodup.erase value⟩

/-- Insertion of a whole range, one element after the other. -/
def insertAll (set : UnorderedSet α) (values : List α) : UnorderedSet α :=
  values.foldl insert set

def ofList (values : List α) : UnorderedSet α := empty.insertAll values

@[simp] theorem mem_insert {set : UnorderedSet α} {value other : α} :
    value ∈ set.insert other ↔ value = other ∨ value ∈ set :=
  List.mem_insert_iff

@[simp] theorem mem_erase {set : UnorderedSet α} {value other : α} :
    value ∈ set.erase other ↔ value ≠ other ∧ value ∈ set :=
  set.nodup.mem_erase_iff

@[simp] theorem mem_insertAll {set : UnorderedSet α} {values : List α} {value : α} :
    value ∈ set.insertAll values ↔ value ∈ set ∨ value ∈ values := by
  induction values generalizing set with
  | nil => simp [insertAll]
  | cons head rest ih =>
    have step : set.insertAll (head :: rest) = (set.insert head).insertAll rest := rfl
    rw [step, ih]
    simp [or_assoc, or_comm, or_left_comm]

@[simp] theorem mem_ofList {values : List α} {value : α} :
    value ∈ ofList values ↔ value ∈ values := by
  simp [ofList]

end UnorderedSet
end Msm8917Common
