import Mathlib.Data.List.Perm.Basic

/-! `LocHeap.cpp`: a binary tree that is sorted from the top down only, with the
ranking as a parameter. What is proved here needs nothing of the ranking: where
the top of the tree comes from, and which elements the tree holds. -/
namespace Msm8917Common

/-- `LocHeapNode`, with `null` for a null pointer. -/
inductive LocHeapNode (α : Type*) where
  | null
  | node (mSize : Int) (mLeft mRight : LocHeapNode α) (mData : α)
  deriving DecidableEq, Repr

namespace LocHeapNode
variable {α : Type*} (outRanks : α → α → Bool)

def size : LocHeapNode α → Int
  | null => 0
  | node mSize _ _ _ => mSize

/-- `LocHeap::peek`. -/
def peek : LocHeapNode α → Option α
  | null => none
  | node _ _ _ mData => some mData

/-- `LocHeap::push`: the data that ranks lower goes on into the smaller subtree. -/
def push (data : α) : LocHeapNode α → LocHeapNode α
  | null => node 1 null null data
  | node mSize mLeft mRight mData =>
    let kept := if outRanks data mData then data else mData
    let dropped := if outRanks data mData then mData else data
    match mLeft, mRight with
    | null, _ => node (mSize + 1) (push dropped mLeft) mRight kept
    | _, null => node (mSize + 1) mLeft (push dropped mRight) kept
    | _, _ =>
      if mLeft.size ≤ mRight.size then node (mSize + 1) (push dropped mLeft) mRight kept
      else node (mSize + 1) mLeft (push dropped mRight) kept

/-- The tree that `LocHeap::pop` leaves; what it returns is the data on top. At
each node the higher ranked child moves up, and the leaf at the end goes. -/
def pop : LocHeapNode α → LocHeapNode α
  | null => null
  | node mSize mLeft mRight _ =>
    match mLeft.peek, mRight.peek with
    | none, none => null
    | none, some data => node (mSize - 1) mLeft (pop mRight) data
    | some data, none => node (mSize - 1) (pop mLeft) mRight data
    | some left, some right =>
      if outRanks left right then node (mSize - 1) (pop mLeft) mRight left
      else node (mSize - 1) mLeft (pop mRight) right

/-- `LocHeap::remove`: the tree that is left, or `none` where the data was not
found. A subtree is searched only if its top does not rank lower. -/
def remove [DecidableEq α] (data : α) : LocHeapNode α → Option (LocHeapNode α)
  | null => none
  | node mSize mLeft mRight mData =>
    if data = mData then some (pop outRanks (node mSize mLeft mRight mData))
    else if outRanks data mData then none
    else
      match remove data mLeft with
      | some mLeft => some (node (mSize - 1) mLeft mRight mData)
      | none => (remove data mRight).map (node (mSize - 1) mLeft · mData)

/-- The tree of the same shape with other data. -/
def map {β : Type*} (f : α → β) : LocHeapNode α → LocHeapNode β
  | null => null
  | node mSize mLeft mRight mData => node mSize (mLeft.map f) (mRight.map f) (f mData)

/-- The elements, from the top down. -/
def toList : LocHeapNode α → List α
  | null => []
  | node _ mLeft mRight mData => mData :: (mLeft.toList ++ mRight.toList)

variable {outRanks} {data other : α} {tree after : LocHeapNode α}

theorem peek_eq_none : tree.peek = none ↔ tree = null := by
  cases tree <;> simp [peek]

theorem mem_of_peek (top : tree.peek = some data) : data ∈ tree.toList := by
  cases tree with
  | null => cases top
  | node mSize mLeft mRight mData =>
    cases top
    exact List.mem_cons_self

/-- What `push` does at a node: the higher ranked of the two data stays, and the
other goes on into one of the subtrees. -/
theorem push_cases (outRanks : α → α → Bool) (data : α) (mSize : Int)
    (mLeft mRight : LocHeapNode α) (mData : α) :
    ∃ kept dropped,
      (outRanks data mData = true ∧ kept = data ∧ dropped = mData ∨
        ¬ outRanks data mData ∧ kept = mData ∧ dropped = data) ∧
      (push outRanks data (node mSize mLeft mRight mData) =
          node (mSize + 1) (push outRanks dropped mLeft) mRight kept ∨
        push outRanks data (node mSize mLeft mRight mData) =
          node (mSize + 1) mLeft (push outRanks dropped mRight) kept) := by
  refine ⟨if outRanks data mData then data else mData,
    if outRanks data mData then mData else data, ?_, ?_⟩
  · cases outRanks data mData with
    | true => exact .inl ⟨rfl, rfl, rfl⟩
    | false => exact .inr ⟨by decide, rfl, rfl⟩
  · simp only [push]
    split
    · exact .inl rfl
    · exact .inr rfl
    · split
      · exact .inl rfl
      · exact .inr rfl

/-- What `pop` does at a node: a leaf goes, else the top of one subtree moves up,
and it is not outranked by the top of the other. -/
theorem pop_cases (outRanks : α → α → Bool) (mSize : Int) (mLeft mRight : LocHeapNode α)
    (mData : α) :
    mLeft = null ∧ mRight = null ∧ pop outRanks (node mSize mLeft mRight mData) = null ∨
    (∃ left, mLeft.peek = some left ∧
      (∀ right, mRight.peek = some right → outRanks left right) ∧
      pop outRanks (node mSize mLeft mRight mData) =
        node (mSize - 1) (pop outRanks mLeft) mRight left) ∨
    ∃ right, mRight.peek = some right ∧
      (∀ left, mLeft.peek = some left → ¬ outRanks left right) ∧
      pop outRanks (node mSize mLeft mRight mData) =
        node (mSize - 1) mLeft (pop outRanks mRight) right := by
  cases left : mLeft.peek with
  | none =>
    cases right : mRight.peek with
    | none =>
      exact .inl ⟨peek_eq_none.mp left, peek_eq_none.mp right, by simp only [pop, left, right]⟩
    | some second =>
      refine .inr (.inr ⟨second, rfl, ?_, by simp only [pop, left, right]⟩)
      rintro _ ⟨⟩
  | some first =>
    cases right : mRight.peek with
    | none =>
      refine .inr (.inl ⟨first, rfl, ?_, by simp only [pop, left, right]⟩)
      rintro _ ⟨⟩
    | some second =>
      by_cases ranked : outRanks first second = true
      · refine .inr (.inl ⟨first, rfl, ?_, by simp only [pop, left, right, if_pos ranked]⟩)
        rintro _ ⟨⟩
        exact ranked
      · refine .inr (.inr ⟨second, rfl, ?_, by simp only [pop, left, right, if_neg ranked]⟩)
        rintro _ ⟨⟩
        exact ranked

/-- The pushed data comes to the top if it outranks what was there. -/
theorem peek_push (data : α) (tree : LocHeapNode α) : (push outRanks data tree).peek =
    some (match tree.peek with
      | none => data
      | some top => if outRanks data top then data else top) := by
  cases tree with
  | null => rfl
  | node mSize mLeft mRight mData =>
    change _ = some (if outRanks data mData then data else mData)
    obtain ⟨kept, dropped, ranked, pushed⟩ :=
      push_cases outRanks data mSize mLeft mRight mData
    have on_top : kept = if outRanks data mData then data else mData := by
      rcases ranked with ⟨higher, rfl, _⟩ | ⟨lower, rfl, _⟩
      · exact (if_pos higher).symm
      · exact (if_neg lower).symm
    rcases pushed with pushed | pushed
    · rw [pushed, ← on_top, peek]
    · rw [pushed, ← on_top, peek]

theorem push_perm (data : α) (tree : LocHeapNode α) :
    (push outRanks data tree).toList.Perm (data :: tree.toList) := by
  induction tree generalizing data with
  | null => exact List.Perm.refl _
  | node mSize mLeft mRight mData ihLeft ihRight =>
    obtain ⟨kept, dropped, ranked, pushed⟩ :=
      push_cases outRanks data mSize mLeft mRight mData
    -- Whichever of the two stays on top, the other goes into a subtree.
    have swapped : ∀ rest : List α, (kept :: dropped :: rest).Perm (data :: mData :: rest) := by
      intro rest
      rcases ranked with ⟨_, rfl, rfl⟩ | ⟨_, rfl, rfl⟩
      · exact List.Perm.refl _
      · exact List.Perm.swap _ _ _
    rcases pushed with pushed | pushed
    · rw [pushed]
      exact (((ihLeft dropped).append_right mRight.toList).cons kept).trans (swapped _)
    · rw [pushed]
      exact ((((ihRight dropped).append_left mLeft.toList).trans List.perm_middle).cons kept).trans
        (swapped _)

theorem pop_perm (top : tree.peek = some data) :
    (data :: (pop outRanks tree).toList).Perm tree.toList := by
  induction tree generalizing data with
  | null => cases top
  | node mSize mLeft mRight mData ihLeft ihRight =>
    cases top
    apply List.Perm.cons
    rcases pop_cases outRanks mSize mLeft mRight mData with
      ⟨rfl, rfl, popped⟩ | ⟨left, found, _, popped⟩ | ⟨right, found, _, popped⟩
    · rw [popped]
      exact List.Perm.refl _
    · rw [popped]
      exact (ihLeft found).append_right mRight.toList
    · rw [popped]
      exact List.perm_middle.symm.trans ((ihRight found).append_left mLeft.toList)

section Remove
variable [DecidableEq α]

theorem remove_perm (removed : remove outRanks data tree = some after) :
    (data :: after.toList).Perm tree.toList := by
  induction tree generalizing after with
  | null => cases removed
  | node mSize mLeft mRight mData ihLeft ihRight =>
    unfold remove at removed
    split at removed
    · next same =>
      cases removed
      subst same
      exact pop_perm rfl
    · split at removed
      · cases removed
      · split at removed
        · next left found =>
          cases removed
          exact (List.Perm.swap _ _ _).trans (((ihLeft found).append_right _).cons _)
        · obtain ⟨right, found, rfl⟩ := Option.map_eq_some_iff.mp removed
          refine (List.Perm.swap _ _ _).trans (List.Perm.cons _ ?_)
          exact List.perm_middle.symm.trans ((ihRight found).append_left _)

/-- What is removed from below leaves the top. -/
theorem peek_remove (removed : remove outRanks data tree = some after)
    (below : tree.peek ≠ some data) : after.peek = tree.peek := by
  cases tree with
  | null => cases removed
  | node mSize mLeft mRight mData =>
    have other : data ≠ mData := fun same => below (by rw [peek, same])
    rw [remove, if_neg other] at removed
    split at removed
    · cases removed
    · split at removed
      · cases removed
        rfl
      · obtain ⟨right, _, rfl⟩ := Option.map_eq_some_iff.mp removed
        rfl

end Remove

/-! Trees whose data rank alike change alike. -/

section Map
variable {β : Type*} {f : α → β} {ranks : β → β → Bool}

@[simp] theorem peek_map (f : α → β) (tree : LocHeapNode α) :
    (tree.map f).peek = tree.peek.map f := by
  cases tree <;> rfl

@[simp] theorem size_map (f : α → β) (tree : LocHeapNode α) : (tree.map f).size = tree.size := by
  cases tree <;> rfl

theorem push_map (alike : ∀ one other, ranks (f one) (f other) = outRanks one other) (data : α)
    (tree : LocHeapNode α) : push ranks (f data) (tree.map f) = (push outRanks data tree).map f := by
  induction tree generalizing data with
  | null => rfl
  | node mSize mLeft mRight mData ihLeft ihRight =>
    have kept : (if outRanks data mData then f data else f mData) =
        f (if outRanks data mData then data else mData) := (apply_ite f _ _ _).symm
    have dropped : (if outRanks data mData then f mData else f data) =
        f (if outRanks data mData then mData else data) := (apply_ite f _ _ _).symm
    simp only [map, push, alike, kept, dropped, ihLeft, ihRight]
    cases mLeft with
    | null => rfl
    | node leftSize left right leftData =>
      cases mRight with
      | null => rfl
      | node rightSize left' right' rightData =>
        change ite (leftSize ≤ rightSize) _ _ = map f (ite (leftSize ≤ rightSize) _ _)
        split <;> rfl

theorem pop_map (alike : ∀ one other, ranks (f one) (f other) = outRanks one other)
    (tree : LocHeapNode α) : pop ranks (tree.map f) = (pop outRanks tree).map f := by
  induction tree with
  | null => rfl
  | node mSize mLeft mRight mData ihLeft ihRight =>
    simp only [map, pop, peek_map, ihLeft, ihRight]
    cases mLeft.peek with
    | none => cases mRight.peek <;> rfl
    | some left =>
      cases mRight.peek with
      | none => rfl
      | some right =>
        simp only [Option.map_some, alike]
        split <;> rfl

/-- What is removed has to be told from the other data after the change, too. -/
theorem remove_map [DecidableEq α] [DecidableEq β]
    (alike : ∀ one other, ranks (f one) (f other) = outRanks one other) {data : α}
    {tree : LocHeapNode α} (apart : ∀ other ∈ tree.toList, f data = f other → data = other) :
    remove ranks (f data) (tree.map f) = (remove outRanks data tree).map (map f) := by
  induction tree with
  | null => rfl
  | node mSize mLeft mRight mData ihLeft ihRight =>
    simp only [toList, List.forall_mem_cons, List.forall_mem_append] at apart
    obtain ⟨top, left, right⟩ := apart
    have same : f data = f mData ↔ data = mData := ⟨top, congrArg f⟩
    have popped : pop ranks ((node mSize mLeft mRight mData).map f) =
        (pop outRanks (node mSize mLeft mRight mData)).map f := pop_map alike _
    simp only [map] at popped
    simp only [map, remove, same, alike, popped, ihLeft left, ihRight right]
    split
    · rfl
    · split
      · rfl
      · cases remove outRanks data mLeft with
        | some mLeft => rfl
        | none => cases remove outRanks data mRight <;> rfl

end Map
end LocHeapNode
end Msm8917Common
