import Mathlib.Data.List.AList
import Mathlib.Data.List.Induction
import Mathlib.Data.List.Perm.Subperm

/-! Doubly linked cells in a memory of allocated addresses. A segment is a run of
cells that point at one another both ways; a write outside of a segment leaves it
alone, and at its ends it can be linked to something else. -/
namespace Msm8917Common.DoublyLinked

structure Cell (ε : Type*) where
  next : Option Nat
  prev : Option Nat
  item : ε
  deriving DecidableEq

abbrev Memory (ε : Type*) := AList fun _ : Nat => Cell ε

variable {ε : Type*}

/-- A write to an allocated cell, `none` for any other address. -/
def modify (address : Nat) (change : Cell ε → Cell ε) (memory : Memory ε) : Option (Memory ε) :=
  (memory.lookup address).map fun cell => memory.insert address (change cell)

/-- The address of the first cell, or where an empty segment leads. -/
def first (cells : List (Nat × ε)) (after : Option Nat) : Option Nat :=
  match cells with
  | [] => after
  | cell :: _ => some cell.1

/-- The address of the last cell, or what stands before an empty segment. -/
def last : Option Nat → List (Nat × ε) → Option Nat
  | before, [] => before
  | _, cell :: rest => last (some cell.1) rest

/-- The cells at these addresses hold these items and point at one another, the
first one back to `before` and the last one on to `after`. -/
def Segment (memory : Memory ε) : Option Nat → List (Nat × ε) → Option Nat → Prop
  | _, [], _ => True
  | before, cell :: rest, after =>
    memory.lookup cell.1 = some ⟨first rest after, before, cell.2⟩ ∧
      Segment memory (some cell.1) rest after

/-- The items met from a pointer on along `next`, `none` if the way does not end
within this many cells. -/
def forward (memory : Memory ε) : Nat → Option Nat → Option (List ε)
  | _, none => some []
  | 0, some _ => none
  | fuel + 1, some address =>
    (memory.lookup address).bind fun cell =>
      (forward memory fuel cell.next).map (cell.item :: ·)

/-- The same along `prev`. -/
def backward (memory : Memory ε) : Nat → Option Nat → Option (List ε)
  | _, none => some []
  | 0, some _ => none
  | fuel + 1, some address =>
    (memory.lookup address).bind fun cell =>
      (backward memory fuel cell.prev).map (cell.item :: ·)

variable {memory written : Memory ε} {before after other : Option Nat} {address : Nat}
  {cells rest : List (Nat × ε)} {cell : Nat × ε} {item : ε}

theorem first_append (cells rest : List (Nat × ε)) (after : Option Nat) :
    first (cells ++ rest) after = first cells (first rest after) := by
  cases cells <;> rfl

theorem last_append (before : Option Nat) (cells rest : List (Nat × ε)) :
    last before (cells ++ rest) = last (last before cells) rest := by
  induction cells generalizing before with
  | nil => rfl
  | cons cell cells ih => exact ih (some cell.1)

theorem first_eq_none : first cells none = none ↔ cells = [] := by
  cases cells <;> simp [first]

theorem last_eq_none : last none cells = none ↔ cells = [] := by
  rcases cells.eq_nil_or_concat' with rfl | ⟨cells, cell, rfl⟩
  · simp [last]
  · simp [last_append, last]

theorem segment_append :
    Segment memory before (cells ++ rest) after ↔
      Segment memory before cells (first rest after) ∧
        Segment memory (last before cells) rest after := by
  induction cells generalizing before with
  | nil => simp [Segment, last]
  | cons cell cells ih => simp only [List.cons_append, Segment, last, first_append, ih, and_assoc]

/-- The cells of a segment are allocated. -/
theorem mem_of_segment (linked : Segment memory before cells after) (member : cell ∈ cells) :
    cell.1 ∈ memory := by
  induction cells generalizing before with
  | nil => exact absurd member List.not_mem_nil
  | cons head cells ih =>
    rcases List.mem_cons.mp member with rfl | later
    · exact AList.lookup_isSome.mp (by rw [linked.1]; rfl)
    · exact ih linked.2 later

theorem length_le_of_segment (linked : Segment memory before cells after)
    (distinct : (cells.map Prod.fst).Nodup) : cells.length ≤ memory.keys.length := by
  rw [← List.length_map Prod.fst]
  refine (distinct.subperm ?_).length_le
  intro address member
  obtain ⟨cell, inside, rfl⟩ := List.mem_map.mp member
  exact AList.mem_keys.mp (mem_of_segment linked inside)

/-! Writes -/

theorem segment_of_agree (linked : Segment memory before cells after)
    (agree : ∀ cell ∈ cells, written.lookup cell.1 = memory.lookup cell.1) :
    Segment written before cells after := by
  induction cells generalizing before with
  | nil => trivial
  | cons cell cells ih =>
    simp only [List.forall_mem_cons] at agree
    exact ⟨agree.1.trans linked.1, ih linked.2 agree.2⟩

theorem segment_insert (linked : Segment memory before cells after) {cell : Cell ε}
    (outside : address ∉ cells.map Prod.fst) :
    Segment (memory.insert address cell) before cells after := by
  apply segment_of_agree linked
  intro inside member
  apply AList.lookup_insert_ne
  rintro rfl
  exact outside (List.mem_map_of_mem member)

theorem segment_erase (linked : Segment memory before cells after)
    (outside : address ∉ cells.map Prod.fst) :
    Segment (memory.erase address) before cells after := by
  apply segment_of_agree linked
  intro inside member
  apply AList.lookup_erase_ne
  rintro rfl
  exact outside (List.mem_map_of_mem member)

/-- The first cell can be made to point back to something else. -/
theorem segment_relink_prev (other : Option Nat)
    (linked : Segment memory before (cell :: cells) after)
    (distinct : ((cell :: cells).map Prod.fst).Nodup) :
    ∃ written, modify cell.1 (fun cell => { cell with prev := other }) memory = some written ∧
      Segment written other (cell :: cells) after ∧
      ∀ address ≠ cell.1, written.lookup address = memory.lookup address := by
  refine ⟨_, by rw [modify, linked.1]; rfl, ⟨AList.lookup_insert _, ?_⟩,
    fun address apart => AList.lookup_insert_ne apart⟩
  exact segment_insert linked.2 (List.nodup_cons.mp distinct).1

/-- The last cell can be made to point on to something else. -/
theorem segment_relink_next (other : Option Nat)
    (linked : Segment memory before (cells ++ [cell]) after)
    (distinct : ((cells ++ [cell]).map Prod.fst).Nodup) :
    ∃ written, modify cell.1 (fun cell => { cell with next := other }) memory = some written ∧
      Segment written before (cells ++ [cell]) other ∧
      ∀ address ≠ cell.1, written.lookup address = memory.lookup address := by
  obtain ⟨earlier, here, _⟩ := segment_append.mp linked
  refine ⟨_, by rw [modify, here]; rfl, segment_append.mpr ⟨?_, AList.lookup_insert _, trivial⟩,
    fun address apart => AList.lookup_insert_ne apart⟩
  apply segment_insert earlier
  rw [List.map_append, List.map_singleton] at distinct
  exact fun member => List.disjoint_of_nodup_append distinct member (List.mem_singleton_self _)

/-- The same for whatever cell comes first, if there is one. -/
theorem relink_first (other : Option Nat) (linked : Segment memory before cells none)
    (distinct : (cells.map Prod.fst).Nodup) :
    (first cells none = none ∧ cells = []) ∨
      ∃ head written, first cells none = some head ∧ head ∈ cells.map Prod.fst ∧
        modify head (fun cell => { cell with prev := other }) memory = some written ∧
        Segment written other cells none ∧
        ∀ address ≠ head, written.lookup address = memory.lookup address := by
  cases cells with
  | nil => exact .inl ⟨rfl, rfl⟩
  | cons cell cells =>
    obtain ⟨written, changed, relinked, agree⟩ := segment_relink_prev other linked distinct
    exact .inr ⟨cell.1, written, rfl, List.mem_cons_self, changed, relinked, agree⟩

theorem relink_last (other : Option Nat) (linked : Segment memory none cells after)
    (distinct : (cells.map Prod.fst).Nodup) :
    (last none cells = none ∧ cells = []) ∨
      ∃ tail written, last none cells = some tail ∧ tail ∈ cells.map Prod.fst ∧
        modify tail (fun cell => { cell with next := other }) memory = some written ∧
        Segment written none cells other ∧
        ∀ address ≠ tail, written.lookup address = memory.lookup address := by
  rcases cells.eq_nil_or_concat' with rfl | ⟨cells, cell, rfl⟩
  · exact .inl ⟨rfl, rfl⟩
  · obtain ⟨written, changed, relinked, agree⟩ := segment_relink_next other linked distinct
    refine .inr ⟨cell.1, written, last_append none cells [cell], ?_, changed, relinked, agree⟩
    exact List.mem_map_of_mem (List.mem_append_right _ (List.mem_singleton_self _))

/-! Traversals -/

theorem forward_of_segment {fuel : Nat} (linked : Segment memory before cells none)
    (enough : cells.length ≤ fuel) :
    forward memory fuel (first cells none) = some (cells.map Prod.snd) := by
  induction cells generalizing before fuel with
  | nil => cases fuel <;> rfl
  | cons cell cells ih =>
    cases fuel with
    | zero => exact absurd enough (Nat.not_succ_le_zero _)
    | succ fuel =>
      have onward := ih linked.2 (Nat.le_of_succ_le_succ enough)
      change (memory.lookup cell.1).bind _ = _
      rw [linked.1, Option.bind_some, onward]
      rfl

theorem backward_of_segment {fuel : Nat} (linked : Segment memory none cells after)
    (enough : cells.length ≤ fuel) :
    backward memory fuel (last none cells) = some (cells.reverse.map Prod.snd) := by
  induction cells using List.reverseRecOn generalizing after fuel with
  | nil => cases fuel <;> rfl
  | append_singleton cells cell ih =>
    cases fuel with
    | zero => simp at enough
    | succ fuel =>
      obtain ⟨earlier, here, _⟩ := segment_append.mp linked
      have shorter : cells.length ≤ fuel := by simpa using enough
      simp only [last_append, last, backward, here, Option.bind_some, ih earlier shorter,
        Option.map_some, List.reverse_append, List.reverse_singleton, List.singleton_append,
        List.map_cons]

end Msm8917Common.DoublyLinked
